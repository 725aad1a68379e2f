import DaphneSc.Bridge.Config

/-!
# Executing an operation on a board

The client of a board turns an operation with its request in JSON into one request on the wire. What
the messages look like in JSON and on the wire is up to the protocol buffers.
-/

namespace DaphneSc.Bridge

open Program Server.Pb

/-! ## Message types -/

/-- The enumerators of `MessageTypeV2` with their names. -/
def messageTypeNames : List (String × Int32) :=
  [("MT2_UNSPECIFIED", 0), ("MT2_CONFIGURE_CLKS_REQ", 200), ("MT2_CONFIGURE_CLKS_RESP", 201),
    ("MT2_CONFIGURE_FE_REQ", 202), ("MT2_CONFIGURE_FE_RESP", 203), ("MT2_WRITE_AFE_REG_REQ", 204),
    ("MT2_WRITE_AFE_REG_RESP", 205), ("MT2_WRITE_AFE_VGAIN_REQ", 206),
    ("MT2_WRITE_AFE_VGAIN_RESP", 207), ("MT2_WRITE_AFE_BIAS_SET_REQ", 208),
    ("MT2_WRITE_AFE_BIAS_SET_RESP", 209), ("MT2_WRITE_TRIM_ALL_CH_REQ", 210),
    ("MT2_WRITE_TRIM_ALL_CH_RESP", 211), ("MT2_WRITE_TRIM_ALL_AFE_REQ", 212),
    ("MT2_WRITE_TRIM_ALL_AFE_RESP", 213), ("MT2_WRITE_TRIM_CH_REQ", 214),
    ("MT2_WRITE_TRIM_CH_RESP", 215), ("MT2_WRITE_OFFSET_ALL_CH_REQ", 216),
    ("MT2_WRITE_OFFSET_ALL_CH_RESP", 217), ("MT2_WRITE_OFFSET_ALL_AFE_REQ", 218),
    ("MT2_WRITE_OFFSET_ALL_AFE_RESP", 219), ("MT2_WRITE_OFFSET_CH_REQ", 220),
    ("MT2_WRITE_OFFSET_CH_RESP", 221), ("MT2_WRITE_VBIAS_CONTROL_REQ", 222),
    ("MT2_WRITE_VBIAS_CONTROL_RESP", 223), ("MT2_READ_AFE_REG_REQ", 224),
    ("MT2_READ_AFE_REG_RESP", 225), ("MT2_READ_AFE_VGAIN_REQ", 226),
    ("MT2_READ_AFE_VGAIN_RESP", 227), ("MT2_READ_AFE_BIAS_SET_REQ", 228),
    ("MT2_READ_AFE_BIAS_SET_RESP", 229), ("MT2_WRITE_AFE_BIAS_CONTROLLED_SET_REQ", 264),
    ("MT2_WRITE_AFE_BIAS_CONTROLLED_SET_RESP", 265), ("MT2_READ_TRIM_ALL_CH_REQ", 230),
    ("MT2_READ_TRIM_ALL_CH_RESP", 231), ("MT2_READ_TRIM_ALL_AFE_REQ", 232),
    ("MT2_READ_TRIM_ALL_AFE_RESP", 233), ("MT2_READ_TRIM_CH_REQ", 234),
    ("MT2_READ_TRIM_CH_RESP", 235), ("MT2_READ_OFFSET_ALL_CH_REQ", 236),
    ("MT2_READ_OFFSET_ALL_CH_RESP", 237), ("MT2_READ_OFFSET_ALL_AFE_REQ", 238),
    ("MT2_READ_OFFSET_ALL_AFE_RESP", 239), ("MT2_READ_OFFSET_CH_REQ", 240),
    ("MT2_READ_OFFSET_CH_RESP", 241), ("MT2_READ_VBIAS_CONTROL_REQ", 242),
    ("MT2_READ_VBIAS_CONTROL_RESP", 243), ("MT2_READ_CURRENT_MONITOR_REQ", 244),
    ("MT2_READ_CURRENT_MONITOR_RESP", 245), ("MT2_READ_BIAS_VOLTAGE_MONITOR_REQ", 246),
    ("MT2_READ_BIAS_VOLTAGE_MONITOR_RESP", 247), ("MT2_SET_AFE_RESET_REQ", 248),
    ("MT2_SET_AFE_RESET_RESP", 249), ("MT2_DO_AFE_RESET_REQ", 250), ("MT2_DO_AFE_RESET_RESP", 251),
    ("MT2_SET_AFE_POWERSTATE_REQ", 252), ("MT2_SET_AFE_POWERSTATE_RESP", 253),
    ("MT2_WRITE_AFE_ATTENUATION_REQ", 254), ("MT2_WRITE_AFE_ATTENUATION_RESP", 255),
    ("MT2_DUMP_SPYBUFFER_REQ", 256), ("MT2_DUMP_SPYBUFFER_RESP", 257), ("MT2_ALIGN_AFE_REQ", 258),
    ("MT2_ALIGN_AFE_RESP", 259), ("MT2_WRITE_AFE_FUNCTION_REQ", 260),
    ("MT2_WRITE_AFE_FUNCTION_RESP", 261), ("MT2_DO_SOFTWARE_TRIGGER_REQ", 262),
    ("MT2_DO_SOFTWARE_TRIGGER_RESP", 263), ("MT2_DUMP_SPYBUFFER_CHUNK_REQ", 300),
    ("MT2_DUMP_SPYBUFFER_CHUNK_RESP", 301), ("MT2_READ_TEST_REG_REQ", 304),
    ("MT2_READ_TEST_REG_RESP", 305), ("MT2_READ_TRIGGER_COUNTERS_REQ", 320),
    ("MT2_READ_TRIGGER_COUNTERS_RESP", 321), ("MT2_READ_GENERAL_INFO_REQ", 322),
    ("MT2_READ_GENERAL_INFO_RESP", 323), ("MT2_SET_HDMEZZ_BLOCK_ENABLE_REQ", 400),
    ("MT2_SET_HDMEZZ_BLOCK_ENABLE_RESP", 401), ("MT2_CONFIGURE_HDMEZZ_BLOCK_REQ", 402),
    ("MT2_CONFIGURE_HDMEZZ_BLOCK_RESP", 403), ("MT2_READ_HDMEZZ_BLOCK_CONFIG_REQ", 404),
    ("MT2_READ_HDMEZZ_BLOCK_CONFIG_RESP", 405), ("MT2_SET_HDMEZZ_POWER_STATES_REQ", 406),
    ("MT2_SET_HDMEZZ_POWER_STATES_RESP", 407), ("MT2_READ_HDMEZZ_STATUS_REQ", 408),
    ("MT2_READ_HDMEZZ_STATUS_RESP", 409), ("MT2_CLEAR_HDMEZZ_ALERT_FLAG_REQ", 410),
    ("MT2_CLEAR_HDMEZZ_ALERT_FLAG_RESP", 411), ("MT2_READ_SLOW_CONTROL_STATUS_REQ", 1000),
    ("MT2_READ_SLOW_CONTROL_STATUS_RESP", 1001), ("MT2_READ_TELEMETRY_SNAPSHOT_REQ", 1002),
    ("MT2_READ_TELEMETRY_SNAPSHOT_RESP", 1003)]

/-- The message type of a name. -/
def messageTypeOf (name : Text) : Option Int32 := messageTypeNames.lookup (String.ofList name)

abbrev mt2ConfigureClksReq : Int32 := 200

abbrev mt2ConfigureClksResp : Int32 := 201

abbrev mt2ConfigureFeReq : Int32 := 202

abbrev mt2ConfigureFeResp : Int32 := 203

abbrev mt2WriteAfeRegReq : Int32 := 204

abbrev mt2WriteAfeRegResp : Int32 := 205

abbrev mt2WriteVbiasControlReq : Int32 := 222

abbrev mt2WriteVbiasControlResp : Int32 := 223

abbrev mt2DoAfeResetReq : Int32 := 250

abbrev mt2DoAfeResetResp : Int32 := 251

abbrev mt2SetAfePowerstateReq : Int32 := 252

abbrev mt2SetAfePowerstateResp : Int32 := 253

abbrev mt2DumpSpybufferReq : Int32 := 256

abbrev mt2DumpSpybufferResp : Int32 := 257

abbrev mt2AlignAfeReq : Int32 := 258

abbrev mt2AlignAfeResp : Int32 := 259

abbrev mt2DoSoftwareTriggerReq : Int32 := 262

abbrev mt2DoSoftwareTriggerResp : Int32 := 263

namespace DaphneClient

/-- The messages that are written in JSON. -/
inductive Message where
  | ConfigureRequest
  | ConfigureResponse
  | ConfigureCLKsRequest
  | ConfigureCLKsResponse
  | WriteVbiasControl
  | WriteVbiasControlResponse
  | SetAFEPowerState
  | SetAFEPowerStateResponse
  | DoAFEReset
  | DoAFEResetResponse
  | AlignAFEs
  | AlignAFEsResponse
  | DoSoftwareTrigger
  | DoSoftwareTriggerResponse
  | DumpSpyBuffersRequest
  | DumpSpyBuffersResponse
  | WriteAFEReg
  | WriteAFERegResponse
  deriving DecidableEq, Repr

/-- The messages of an operation and their types. -/
structure Transaction where
  (request response : Message)
  (requestType responseType : Int32)
  deriving DecidableEq

/-- The operations that `execute` recognises. -/
def transaction (operation : Text) : Option Transaction :=
  match String.ofList operation with
  | "ConfigureRun" | "ConfigureFrontend" =>
    some ⟨.ConfigureRequest, .ConfigureResponse, mt2ConfigureFeReq, mt2ConfigureFeResp⟩
  | "ConfigureClocks" =>
    some ⟨.ConfigureCLKsRequest, .ConfigureCLKsResponse, mt2ConfigureClksReq, mt2ConfigureClksResp⟩
  | "SetControlledBias" =>
    some ⟨.WriteVbiasControl, .WriteVbiasControlResponse, mt2WriteVbiasControlReq,
      mt2WriteVbiasControlResp⟩
  | "SetAfePowerState" =>
    some ⟨.SetAFEPowerState, .SetAFEPowerStateResponse, mt2SetAfePowerstateReq,
      mt2SetAfePowerstateResp⟩
  | "ResetAfe" => some ⟨.DoAFEReset, .DoAFEResetResponse, mt2DoAfeResetReq, mt2DoAfeResetResp⟩
  | "AlignAfes" => some ⟨.AlignAFEs, .AlignAFEsResponse, mt2AlignAfeReq, mt2AlignAfeResp⟩
  | "SoftwareTrigger" =>
    some ⟨.DoSoftwareTrigger, .DoSoftwareTriggerResponse, mt2DoSoftwareTriggerReq,
      mt2DoSoftwareTriggerResp⟩
  | "DumpSpyBuffers" =>
    some ⟨.DumpSpyBuffersRequest, .DumpSpyBuffersResponse, mt2DumpSpybufferReq,
      mt2DumpSpybufferResp⟩
  | "WriteAfeRegister" =>
    some ⟨.WriteAFEReg, .WriteAFERegResponse, mt2WriteAfeRegReq, mt2WriteAfeRegResp⟩
  | _ => none

/-- The codecs of the protocol buffers. A text that is not the JSON of a message and a message that
cannot be written in JSON have a status, a payload that is no message has none. -/
structure Codecs where
  envelope : List UInt8 → Option ControlEnvelopeV2
  jsonToMessage : Message → Text → Except Text (List UInt8)
  messageToJson : Message → List UInt8 → Option (Except Text Text)

/-- What a request meets: the clock, whether the socket takes it, and what arrives afterwards. -/
structure Meeting where
  timestampNs : UInt64
  sent : Bool
  turns : List Turn

/-- What a call ends with, the client after it, and what it has put on the wire. The call may still
be waiting. -/
structure Executed where
  outcome : Option (Except RuntimeError Text)
  client : Client
  request : Option ControlEnvelopeV2

variable (codecs : Codecs)

def responseJson (operation : Text) (response : Message) (payload : List UInt8) :
    Except RuntimeError Text :=
  match codecs.messageToJson response payload with
  | none => .error ("bad ".toList ++ operation ++ " response payload".toList)
  | some (.error status) =>
    .error ("cannot encode ".toList ++ operation ++ " response: ".toList ++ status)
  | some (.ok json) => .ok json

def transactJson (fake : Bool) (client : Client) (operation requestJson : Text) (t : Transaction)
    (meeting : Meeting) : Executed :=
  let json := if trim requestJson = [] then "\x7b\x7d".toList else requestJson
  match codecs.jsonToMessage t.request json with
  | .error status =>
    ⟨some (.error ("invalid ".toList ++ operation ++ " JSON: ".toList ++ status)), client, none⟩
  | .ok requestPayload =>
    if fake then
      ⟨some (.ok ("\x7b\"success\":true,\"message\":\"fake ".toList ++ operation ++
        " accepted\"\x7d".toList)), client, none⟩
    else
      let call : Call :=
        { requestPayload, requestType := t.requestType, responseType := t.responseType
          timestampNs := meeting.timestampNs, sent := meeting.sent, turns := meeting.turns }
      let (outcome, client') := sendRequest codecs.envelope client call
      ⟨outcome.map fun response ↦ do responseJson codecs operation t.response (← response).payload,
        client', some (requestEnvelope client call)⟩

def execute (enabled fake : Bool) (client : Client) (operation requestJson : Text)
    (meeting : Meeting) : Executed :=
  if ¬ enabled then ⟨some (.error "DAPHNE backend is disabled".toList), client, none⟩
  else match transaction operation with
    | none =>
      ⟨some (.error ("no DAPHNE backend adapter for operation ".toList ++ operation)), client, none⟩
    | some t => transactJson codecs fake client operation requestJson t meeting

variable {codecs : Codecs} {enabled fake : Bool} {client : Client} {operation requestJson : Text}
  {t : Transaction} {meeting : Meeting} {envelope : ControlEnvelopeV2}

/-- A request has the type of its transaction and the route of the client. -/
theorem transactJson_request
    (h : (transactJson codecs fake client operation requestJson t meeting).request =
      some envelope) :
    envelope.type = t.requestType ∧ envelope.route = client.route := by
  rw [transactJson] at h
  split at h
  · cases h
  · split at h
    · cases h
    · rw [← Option.some.inj h]
      exact ⟨rfl, rfl⟩

theorem execute_request
    (h : (execute codecs enabled fake client operation requestJson meeting).request =
      some envelope) :
    ∃ t, transaction operation = some t ∧ envelope.type = t.requestType ∧
      envelope.route = client.route := by
  rw [execute] at h
  split at h
  · cases h
  · split at h
    · cases h
    · next t ht => exact ⟨t, ht, transactJson_request h⟩

/-! ## Whether a request is sent -/

/-- A request is handed to the socket: the client talks to a board, and the request can be read. -/
structure Sends (codecs : Codecs) (enabled fake : Bool) (t : Transaction) (requestJson : Text) :
    Prop where
  enabled : enabled = true
  not_fake : fake = false
  readable : ∃ requestPayload, codecs.jsonToMessage t.request
    (if trim requestJson = [] then "\x7b\x7d".toList else requestJson) = .ok requestPayload

theorem execute_sends_iff (ht : transaction operation = some t) :
    (execute codecs enabled fake client operation requestJson meeting).request.isSome = true ↔
      Sends codecs enabled fake t requestJson := by
  rw [execute, ht]
  cases enabled with
  | false => exact ⟨nofun, fun h ↦ absurd h.enabled Bool.false_ne_true⟩
  | true =>
    rw [if_neg (not_not.mpr rfl)]
    dsimp only
    rw [transactJson]
    cases hjson : codecs.jsonToMessage t.request
        (if trim requestJson = [] then "\x7b\x7d".toList else requestJson) with
    | error status =>
      refine ⟨nofun, fun h ↦ ?_⟩
      obtain ⟨_, hpayload⟩ := h.readable
      rw [hjson] at hpayload
      cases hpayload
    | ok requestPayload =>
      cases fake with
      | true => exact ⟨nofun, fun h ↦ absurd h.not_fake.symm Bool.false_ne_true⟩
      | false => exact ⟨fun _ ↦ ⟨rfl, rfl, requestPayload, hjson⟩, fun _ ↦ rfl⟩

/-! ## Errors -/

/-- What `execute` answers to an operation that it does not recognise. -/
def noAdapter (operation : Text) : RuntimeError :=
  "no DAPHNE backend adapter for operation ".toList ++ operation

section OtherErrors

variable {α : Type} {e : RuntimeError}

/-- The other errors begin in another way. -/
theorem error_ne_noAdapter (first : Char) (hfirst : e.head? = some first) (hne : first ≠ 'n') :
    (.error e : Except RuntimeError α) ≠ .error (noAdapter operation) := by
  intro h
  rw [Except.error.inj h] at hfirst
  exact hne (Option.some.inj hfirst).symm

theorem some_error_ne_noAdapter (first : Char) (hfirst : e.head? = some first)
    (hne : first ≠ 'n') :
    (some (.error e) : Option (Except RuntimeError α)) ≠ some (.error (noAdapter operation)) :=
  fun h ↦ error_ne_noAdapter first hfirst hne (Option.some.inj h)

end OtherErrors

theorem receive_ne_noAdapter {parse : List UInt8 → Option ControlEnvelopeV2} {msgId : UInt64}
    {responseType : Int32} {turns : List Turn} :
    receive parse msgId responseType turns ≠ some (.error (noAdapter operation)) := by
  induction turns with
  | nil =>
    intro h
    cases h
  | cons turn turns ih =>
    cases turn with
    | expired => exact some_error_ne_noAdapter 'Z' rfl (by decide)
    | silent => exact some_error_ne_noAdapter 'Z' rfl (by decide)
    | message bytes =>
      rw [receive]
      split
      · exact some_error_ne_noAdapter 'b' rfl (by decide)
      · split
        · exact ih
        · split
          · exact some_error_ne_noAdapter 'u' rfl (by decide)
          · intro h
            cases h

theorem responseJson_ne_noAdapter {response : Message} {payload : List UInt8} :
    responseJson codecs operation response payload ≠ .error (noAdapter operation) := by
  rw [responseJson]
  split
  · exact error_ne_noAdapter 'b' rfl (by decide)
  · exact error_ne_noAdapter 'c' rfl (by decide)
  · exact nofun

theorem transactJson_ne_noAdapter :
    (transactJson codecs fake client operation requestJson t meeting).outcome ≠
      some (.error (noAdapter operation)) := by
  rw [transactJson]
  split
  · exact some_error_ne_noAdapter 'i' rfl (by decide)
  · split
    · exact nofun
    · intro h
      obtain ⟨outcome, houtcome, hresponse⟩ := Option.map_eq_some_iff.mp h
      cases outcome with
      | error e =>
        obtain rfl : e = noAdapter operation := Except.error.inj hresponse
        rw [sendRequest] at houtcome
        dsimp only at houtcome
        split at houtcome
        · exact some_error_ne_noAdapter 'Z' rfl (by decide) houtcome
        · exact receive_ne_noAdapter houtcome
      | ok response => exact responseJson_ne_noAdapter hresponse

theorem execute_ne_noAdapter (ht : transaction operation = some t) :
    (execute codecs enabled fake client operation requestJson meeting).outcome ≠
      some (.error (noAdapter operation)) := by
  rw [execute, ht]
  split
  · exact some_error_ne_noAdapter 'D' rfl (by decide)
  · exact transactJson_ne_noAdapter

end DaphneClient

end DaphneSc.Bridge
