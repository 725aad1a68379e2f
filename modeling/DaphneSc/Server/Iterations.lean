import DaphneSc.Server.Router

/-!
# Iterations that can be followed

On a socket that holds what has arrived and with a codec that reads given messages, an iteration of
the loop comes down to the check of a request and to its handler.
-/

namespace DaphneSc.Server.Router

open DaphneSc.Core DaphneSc.Core.Afe DaphneSc.Core.Rpu Pb Preflight Program SlowControl

/-! ## A socket -/

/-- The router's end of its connections. What is sent begins with the identity of the receiver. -/
structure RouterEnd where
  arrived : List (List (List UInt8)) := []
  parts : List (List UInt8) := []
  sent : List (List (List UInt8)) := []

instance : RouterSocket RouterEnd where
  recvMultipart := do
    match (← get).arrived with
    | [] => fail "Resource temporarily unavailable"
    | frames :: arrived => do
      modify fun router ↦ { router with arrived := arrived }
      return frames
  send bytes more :=
    if more then
      modify fun router ↦ { router with parts := router.parts ++ [bytes] }
    else
      modify fun router ↦
        { router with parts := [], sent := router.sent ++ [router.parts ++ [bytes]] }

/-! ## A codec -/

/-- A message and the bytes that it is read from. -/
structure Written where
  bytes : List UInt8
  {Message : Type}
  message : Message

open Classical in
/-- The codec that reads these messages, and writes messages of one type. -/
noncomputable def writtenProst (written : List Written) {Response : Type}
    (write : Response → List UInt8) : Prost where
  decode {M} _ bytes :=
    match written.find? (·.bytes = bytes) with
    | some entry =>
      if h : entry.Message = M then .ok (cast h entry.message) else .error "invalid wire type"
    | none => .error "invalid tag value: 0"
  encodeToVec {M} message := if h : M = Response then write (cast h message) else []

section Codec

variable {written : List Written} {Response M : Type} {write : Response → List UInt8}

theorem decode_writtenProst [Inhabited M] {bytes : List UInt8} {message : M}
    (h : written.find? (·.bytes = bytes) = some ⟨bytes, message⟩) :
    ((writtenProst written write).decode bytes : Except DecodeError M) = .ok message := by
  change (match written.find? (·.bytes = bytes) with
    | some entry => _
    | none => _ : Except DecodeError M) = _
  rw [h]
  exact dif_pos rfl

end Codec

/-! ## An iteration -/

section Iteration

variable {P T E : Type} [PreflightProvider P] [RpuAfeTransport T] [HostEnvironment E]
  {prost : Prost} {options : RouterOptions}

/-- An iteration in which a request is answered. -/
theorem run_iteration {arrived sent : List (List (List UInt8))}
    {clientId payload answer : List UInt8}
    {preflight preflight' : P} {backend backend' : Backend T E} {status : PreflightStatus}
    (hsize : payload.length ≤ options.maxEnvelopeBytes)
    (hcheck : (if needsPreflight prost payload then PreflightProvider.check
      else pure .ready : Prog Empty P PreflightStatus) preflight = .ok status preflight')
    (hanswer : handleEnvelope prost payload status backend = .ok (some answer) backend') :
    iteration prost options
        (⟨{ arrived := [clientId, payload] :: arrived, sent }, preflight, backend⟩ :
          Service RouterEnd P T E) =
      .ok () ⟨{ arrived, sent := sent ++ [[clientId, answer]] }, preflight', backend'⟩ := by
  have hserve : serve prost options [clientId, payload]
      (⟨{ arrived, sent }, preflight, backend⟩ : Service RouterEnd P T E) =
        respond prost clientId payload status ⟨{ arrived, sent }, preflight', backend⟩ := by
    simp only [serve, List.getLast?_cons_cons, List.getLast?_singleton, if_neg hsize.not_gt]
    by_cases hneeds : needsPreflight prost payload = true
    · rw [if_pos hneeds] at hcheck ⊢
      rw [run_bind, infallible, mapError, zoom]
      dsimp only [Service.preflightLens]
      rw [hcheck]
    · rw [if_neg hneeds] at hcheck ⊢
      cases hcheck
      rfl
  change serve prost options [clientId, payload]
    (⟨{ arrived, sent }, preflight, backend⟩ : Service RouterEnd P T E) = _
  rw [hserve, respond, run_bind, infallible, mapError, zoom]
  dsimp only [Service.backendLens]
  rw [hanswer]
  rfl

theorem run_one_of_ok {S : Type} [RouterSocket S] {service next : Service S P T E}
    (h : iteration prost options service = .ok () next) :
    run prost options 1 service = .ok () next := by
  rw [run, run_bind, h]
  rfl

/-- A request that is submitted, and its response. -/
theorem handleEnvelope_submits {bytes : List UInt8} {req : ControlEnvelopeV2}
    {messageType : Transport.MessageTypeV2} {status : PreflightStatus} {command : AfeCommand}
    {answer : Handlers.SubmitOutcome → List UInt8} {outcome : Handlers.SubmitOutcome}
    (backend : Backend T E) {rpu : T}
    (hdecode : (prost.decode bytes : Except DecodeError ControlEnvelopeV2) = .ok req)
    (hrequest : req.version = 2 ∧ req.dir = dirRequest)
    (htype : Transport.MessageTypeV2.tryFrom req.type.toUInt32 = some messageType)
    (hroute : Transport.routeMessageType messageType = .rpuAfe)
    (hready : status.readyForHardwareCommands = true)
    (hhandle : (Handlers.handleRpuAfe prost messageType req.payload : Prog Empty T (List UInt8)) =
      answer <$> Handlers.submit command)
    (hsubmit : Handlers.submit command backend.rpu = .ok outcome rpu) :
    ∃ (response : ControlEnvelopeV2) (after : Backend T E),
      handleEnvelope prost bytes status backend = .ok (some (prost.encodeToVec response)) after ∧
      response.correlId = req.msgId ∧ response.payload = answer outcome ∧ after.rpu = rpu := by
  have hanswer : handlePayload prost req.type req.payload status backend =
      .ok (answer outcome) { backend with rpu } := by
    unfold handlePayload
    rw [htype]
    dsimp only
    rw [hroute]
    dsimp only
    rw [if_pos hready, hhandle, zoom]
    have hview : Backend.rpuLens.view backend = backend.rpu := rfl
    rw [hview, run_map, hsubmit]
    rfl
  unfold handleEnvelope
  rw [hdecode]
  dsimp only
  rw [if_neg (by simp [hrequest]), run_bind, hanswer]
  exact ⟨_, _, rfl, rfl, rfl, rfl⟩

end Iteration

/-- A request whose command can be made is submitted. -/
theorem handle_of_command {T Req Resp : Type} [RpuAfeTransport T] [Inhabited Req] {prost : Prost}
    {name : String} {bad : String → Resp} {build : Req → Except String AfeCommand}
    {refused : Req → String → Resp} {respond : Req → Handlers.SubmitOutcome → Resp}
    {payload : List UInt8} {req : Req} {command : AfeCommand}
    (hdecode : prost.decode payload = .ok req) (hbuild : build req = .ok command) :
    (Handlers.handle prost name bad build refused respond payload : Prog Empty T (List UInt8)) =
      (fun outcome ↦ prost.encodeToVec (respond req outcome)) <$> Handlers.submit command := by
  unfold Handlers.handle
  rw [hdecode]
  dsimp only
  rw [hbuild]
  exact bind_pure_comp _ _

/-! ## Requests for a bias -/

section Bias

/-- Set the bias of the first AFE to 200. -/
def setBiasEnvelope : ControlEnvelopeV2 :=
  { version := 2, type := 208, payload := [0x18, 0xC8, 0x01], taskId := 1, msgId := 1 }

/-- Read the bias of the first AFE. -/
def readBiasEnvelope : ControlEnvelopeV2 := { version := 2, type := 228, taskId := 2, msgId := 2 }

def setBiasBytes : List UInt8 :=
  [0x08, 0x02, 0x18, 0xD0, 0x01, 0x22, 0x03, 0x18, 0xC8, 0x01, 0x50, 0x01, 0x58, 0x01]

def readBiasBytes : List UInt8 := [0x08, 0x02, 0x18, 0xE4, 0x01, 0x50, 0x02, 0x58, 0x02]

def biasMessages : List Written :=
  [⟨setBiasBytes, setBiasEnvelope⟩, ⟨readBiasBytes, readBiasEnvelope⟩,
    ⟨[0x18, 0xC8, 0x01], ({ biasValue := 200 } : CmdWriteAfeBiasSet)⟩,
      ⟨[], ({} : CmdReadAfeBiasSet)⟩]

/-- The bytes of a response with a short text and a bias of two digits to the base 128. -/
def writeBiasResponse (response : CmdReadAfeBiasSetResponse) : List UInt8 :=
  let success : List UInt8 := if response.success then [0x08, 0x01] else []
  let length := UInt8.ofNat response.message.utf8ByteSize
  let afeBlock : List UInt8 :=
    if response.afeBlock = 0 then [] else [0x18, response.afeBlock.toUInt8]
  let biasValue : List UInt8 :=
    if response.biasValue = 0 then []
    else [0x20, response.biasValue.toUInt8 ||| 0x80, (response.biasValue >>> 7).toUInt8]
  success ++ [0x12, length] ++ response.message.toUTF8.data.toList ++ afeBlock ++ biasValue

noncomputable def biasProst : Prost := writtenProst biasMessages writeBiasResponse

theorem decode_setBias : biasProst.decode setBiasBytes = .ok setBiasEnvelope :=
  decode_writtenProst rfl

theorem decode_readBias : biasProst.decode readBiasBytes = .ok readBiasEnvelope :=
  decode_writtenProst rfl

theorem needsPreflight_bias : needsPreflight biasProst setBiasBytes = true ∧
    needsPreflight biasProst readBiasBytes = true := by
  unfold needsPreflight
  rw [decode_setBias, decode_readBias]
  exact ⟨rfl, rfl⟩

section Handling

variable (T : Type) [RpuAfeTransport T]

theorem handles_setBias :
    ∃ answer, (Handlers.handleRpuAfe biasProst .writeAfeBiasSetReq setBiasEnvelope.payload :
      Prog Empty T (List UInt8)) = answer <$> Handlers.submit (.setBias ⟨0, 0, rfl⟩ 200) := by
  have hdecode : biasProst.decode setBiasEnvelope.payload =
      .ok ({ biasValue := 200 } : CmdWriteAfeBiasSet) := decode_writtenProst rfl
  exact ⟨_, handle_of_command hdecode rfl⟩

theorem decode_readBias_payload :
    biasProst.decode readBiasEnvelope.payload = .ok ({} : CmdReadAfeBiasSet) :=
  decode_writtenProst rfl

theorem handles_readBias :
    ∃ answer, (Handlers.handleRpuAfe biasProst .readAfeBiasSetReq readBiasEnvelope.payload :
      Prog Empty T (List UInt8)) = answer <$> Handlers.submit (.readBias ⟨0, 0, rfl⟩) :=
  ⟨_, handle_of_command decode_readBias_payload rfl⟩

end Handling

end Bias

end DaphneSc.Server.Router
