import DaphneSc.Bridge.SendRequest
import DaphneSc.Core.RpuWireCommands
import DaphneSc.Server.Iterations

/-!
# Bridges and a board

Bridges send their requests to the router of a board, which others send to as well. Messages may be
late or lost, those of one connection stay in order, and the parties take their turns in any order.
-/

namespace DaphneSc.Bridge.Network

open Core.Rpu DaphneClient Program Server Server.Pb Server.Preflight Server.Router
  Server.SlowControl

/-! ## Parties -/

/-- The implementations of the message format on the two sides: what one writes the other reads. -/
structure Codec where
  prost : Prost
  serialize : ControlEnvelopeV2 → List UInt8
  parse : List UInt8 → Option ControlEnvelopeV2
  decode_serialize (envelope : ControlEnvelopeV2) :
    (prost.decode (serialize envelope) : Except DecodeError ControlEnvelopeV2) = .ok envelope
  parse_encode (envelope : ControlEnvelopeV2) : parse (prost.encodeToVec envelope) = some envelope

/-! ## An implementation of the format -/

/-- Bytes, each one announced, and an end mark. -/
def writeBytes : List UInt8 → List UInt8
  | [] => [0]
  | byte :: bytes => 1 :: byte :: writeBytes bytes

def readBytes : List UInt8 → List UInt8 × List UInt8
  | 1 :: byte :: rest => ((readBytes rest).1.cons byte, (readBytes rest).2)
  | rest => ([], rest.tail)

theorem readBytes_writeBytes (bytes rest : List UInt8) :
    readBytes (writeBytes bytes ++ rest) = (bytes, rest) := by
  induction bytes with
  | nil => simp [writeBytes, readBytes]
  | cons byte bytes ih => simp [writeBytes, readBytes, ih]

def readLe (width : ℕ) (bytes : List UInt8) : ℕ × List UInt8 :=
  (Bytes.ofLe (bytes.take width), bytes.drop width)

theorem readLe_toLe {width value : ℕ} (h : value < 256 ^ width) (rest : List UInt8) :
    readLe width (Bytes.toLe width value ++ rest) = (value, rest) := by
  rw [readLe, List.take_left' (Bytes.length_toLe _ _), List.drop_left' (Bytes.length_toLe _ _),
    Bytes.ofLe_toLe_of_lt h]

/-- The numbers of an envelope one after the other, its payload and its route. -/
def writeEnvelope (e : ControlEnvelopeV2) : List UInt8 :=
  Bytes.toLe 4 e.version.toNat ++ (Bytes.toLe 4 e.dir.toUInt32.toNat ++
    (Bytes.toLe 4 e.type.toUInt32.toNat ++ (Bytes.toLe 8 e.taskId.toNat ++
      (Bytes.toLe 8 e.msgId.toNat ++ (Bytes.toLe 8 e.correlId.toNat ++
        (Bytes.toLe 8 e.timestampNs.toNat ++ (writeBytes e.payload ++
          e.route.toUTF8.data.toList)))))))

def readEnvelope (bytes : List UInt8) : ControlEnvelopeV2 :=
  let (version, bytes) := readLe 4 bytes
  let (dir, bytes) := readLe 4 bytes
  let (type, bytes) := readLe 4 bytes
  let (taskId, bytes) := readLe 8 bytes
  let (msgId, bytes) := readLe 8 bytes
  let (correlId, bytes) := readLe 8 bytes
  let (timestampNs, bytes) := readLe 8 bytes
  let (payload, bytes) := readBytes bytes
  { version := UInt32.ofNat version
    dir := (UInt32.ofNat dir).toInt32
    type := (UInt32.ofNat type).toInt32
    payload := payload
    taskId := UInt64.ofNat taskId
    msgId := UInt64.ofNat msgId
    correlId := UInt64.ofNat correlId
    route := (String.fromUTF8? bytes.toByteArray).getD ""
    timestampNs := UInt64.ofNat timestampNs }

theorem readEnvelope_writeEnvelope (e : ControlEnvelopeV2) : readEnvelope (writeEnvelope e) =
    e := by
  have hword (n : UInt32) (rest : List UInt8) :
      readLe 4 (Bytes.toLe 4 n.toNat ++ rest) = (n.toNat, rest) :=
    readLe_toLe n.toNat_lt rest
  have hlong (n : UInt64) (rest : List UInt8) :
      readLe 8 (Bytes.toLe 8 n.toNat ++ rest) = (n.toNat, rest) :=
    readLe_toLe n.toNat_lt rest
  unfold readEnvelope writeEnvelope
  simp only [hword, hlong, readBytes_writeBytes, Core.RpuWire.fromUTF8?_toUTF8, UInt32.ofNat_toNat,
    UInt64.ofNat_toNat, Option.getD_some, Int32.toInt32_toUInt32]

open Classical in
/-- A codec that writes envelopes like this. -/
noncomputable def plainCodec : Codec where
  prost := {
    decode := fun {M} _ bytes ↦
      if h : M = ControlEnvelopeV2 then .ok (cast h.symm (readEnvelope bytes)) else .error default
    encodeToVec := fun {M} m ↦ if h : M = ControlEnvelopeV2 then writeEnvelope (cast h m) else [] }
  serialize := writeEnvelope
  parse bytes := some (readEnvelope bytes)
  decode_serialize e := by simp [readEnvelope_writeEnvelope]
  parse_encode e := by simp [readEnvelope_writeEnvelope]

/-- The board, the bridges `C` and the others `O` that talk to it. The router tells its peers
apart. -/
structure Site (C O : Type) extends Codec where
  options : RouterOptions
  identity : C ⊕ O → List UInt8
  identity_injective : Function.Injective identity
  route : C → String

/-- A bridge's side of its connection: the client as it was before its current call, the calls that
have ended, and what is on the way in either direction. -/
structure Station where
  client : Client
  finished : List Call := []
  current : Option Call := none
  requests : List (List UInt8) := []
  responses : List (List UInt8) := []

namespace Station

def calls (station : Station) : List Call := station.finished ++ station.current.toList

/-- Go on with a call that has met so much. -/
def settle (parse : List UInt8 → Option ControlEnvelopeV2) (call : Call) (station : Station) :
    Station :=
  let (outcome, client) := sendRequest parse station.client call
  match outcome with
  | none => { station with current := some call }
  | some _ => { station with client, finished := station.finished ++ [call], current := none }

/-- Begin a call; one at a time is made. -/
def start (codec : Codec) (call : Call) (station : Station) : Station :=
  match station.current with
  | some _ => station
  | none =>
    let request := codec.serialize (requestEnvelope station.client call)
    settle codec.parse { call with turns := [] }
      { station with requests := station.requests ++ if call.sent then [request] else [] }

def meet (parse : List UInt8 → Option ControlEnvelopeV2) (turn : Turn) (station : Station) :
    Station :=
  match station.current with
  | none => station
  | some call => settle parse { call with turns := call.turns ++ [turn] } station

/-- Read the next response. -/
def read (parse : List UInt8 → Option ControlEnvelopeV2) (station : Station) : Station :=
  match station.current, station.responses with
  | some _, bytes :: responses => meet parse (.message bytes) { station with responses }
  | _, _ => station

end Station

/-! ## Steps -/

section Steps

variable {C O P T E : Type} [PreflightProvider P] [RpuAfeTransport T] [HostEnvironment E]

abbrev Board (P T E : Type) := Service RouterEnd P T E

/-- The router's loop receives a message. An error ends the loop. -/
def take (prost : Prost) (options : RouterOptions) (board : Board P T E)
    (frames : List (List UInt8)) : Option (Board P T E) :=
  match iteration prost options { board with socket := { arrived := [frames] } } with
  | .ok _ board => some board
  | .error _ _ => none

/-- The router after these messages, if it is still running. -/
def boardAfter (prost : Prost) (options : RouterOptions) (board : Board P T E)
    (messages : List (List (List UInt8))) : Option (Board P T E) :=
  messages.foldlM (take prost options) board

structure State (C P T E : Type) where
  board : Option (Board P T E)
  handled : List (List (List UInt8)) := []
  stations : C → Station

inductive Action (C O : Type) where
  /-- A bridge begins a call, and the socket takes the request or does not. -/
  | start (c : C) (call : Call)
  /-- The next request of a bridge reaches the router. -/
  | deliver (c : C)
  /-- A message of someone else reaches the router. -/
  | other (o : O) (frames : List (List UInt8))
  | loseRequest (c : C) (i : ℕ)
  | loseResponse (c : C) (i : ℕ)
  /-- A bridge reads the next response. -/
  | read (c : C)
  /-- Nothing has come in the time that was left, or none was left. -/
  | giveUp (c : C) (silent : Bool)

/-- What a bridge receives of the messages that the router has sent. -/
def receivedBy (identity : List UInt8) (sent : List (List (List UInt8))) : List (List UInt8) :=
  (sent.filter fun message ↦ message.head? = some identity).flatMap List.tail

def State.handle (site : Site C O) (frames : List (List UInt8)) (network : State C P T E) :
    State C P T E :=
  match network.board with
  | none => network
  | some board =>
    let handled := network.handled ++ [frames]
    match take site.prost site.options board frames with
    | none => { network with board := none, handled }
    | some board => {
        board := some board
        handled
        stations c :=
          let station := network.stations c
          let received := receivedBy (site.identity (.inl c)) board.socket.sent
          { station with responses := station.responses ++ received } }

variable [DecidableEq C]

def State.change (c : C) (f : Station → Station) (network : State C P T E) : State C P T E :=
  { network with stations := Function.update network.stations c (f (network.stations c)) }

/-- A step that cannot be taken changes nothing. -/
def step (site : Site C O) (network : State C P T E) : Action C O → State C P T E
  | .start c call => network.change c (.start site.toCodec call)
  | .deliver c =>
    match (network.stations c).requests with
    | [] => network
    | bytes :: requests =>
      (network.change c fun station ↦ { station with requests }).handle site
        [site.identity (.inl c), bytes]
  | .other o frames => network.handle site (site.identity (.inr o) :: frames)
  | .loseRequest c i =>
    network.change c fun station ↦ { station with requests := station.requests.eraseIdx i }
  | .loseResponse c i =>
    network.change c fun station ↦ { station with responses := station.responses.eraseIdx i }
  | .read c => network.change c (.read site.parse)
  | .giveUp c silent => network.change c (.meet site.parse (if silent then .silent else .expired))

/-- New bridges and a router that has just begun to listen. -/
def start (site : Site C O) (board : Board P T E) : State C P T E where
  board := some board
  stations c := { client := { route := site.route c } }

def run (site : Site C O) (board : Board P T E) (actions : List (Action C O)) : State C P T E :=
  actions.foldl (step site) (start site board)

end Steps

/-! ## What the router does with a message -/

section Router

variable {P T E : Type} [PreflightProvider P] [RpuAfeTransport T] [HostEnvironment E]
  {prost : Prost} {options : RouterOptions}

/-- The router goes from one state to the next by executing the request, and the response is what it
answers. -/
def Serves (prost : Prost) (payload : List UInt8) (req response : ControlEnvelopeV2)
    (before after : Board P T E) : Prop :=
  ∃ preflight mid,
    (if needsPreflight prost payload then PreflightProvider.check
      else pure .ready : Prog Empty P PreflightStatus) before.preflight =
        .ok preflight after.preflight ∧
    handlePayload prost req.type req.payload preflight before.backend = .ok response.payload mid ∧
    makeResponse req response.payload mid = .ok response after.backend

omit [PreflightProvider P] in
theorem wp_respond (clientId payload : List UInt8) (status : PreflightStatus) {board : Board P T E}
    (hidle : board.socket = {}) :
    wp (respond prost clientId payload status) (fun _ after ↦ ∃ answer,
      handleEnvelope prost payload status board.backend = .ok answer after.backend ∧
      after.preflight = board.preflight ∧
      after.socket.sent = (answer.map fun bytes ↦ [clientId, bytes]).toList) (fun _ _ ↦ True)
        board := by
  unfold respond infallible
  rw [wp_bind, wp_mapError, wp_zoom]
  have hrun : wp (handleEnvelope prost payload status) (fun answer backend ↦
      handleEnvelope prost payload status board.backend = .ok answer backend) (fun _ _ ↦ True)
      (Service.backendLens.view board) := wp_of_ok fun _ _ h ↦ h
  apply wp_mono hrun
  · intro answer backend hanswer
    cases answer with
    | none => exact ⟨none, hanswer, rfl, congrArg RouterEnd.sent hidle⟩
    | some bytes =>
      refine ⟨some bytes, hanswer, rfl, ?_⟩
      change board.socket.sent ++ [board.socket.parts ++ [clientId] ++ [bytes]] = _
      rw [hidle]
      rfl
  · rintro (_ | _) _ _ <;> trivial

/-- The message is answered, if at all, to the one it comes from. -/
def Answered (prost : Prost) (frames : List (List UInt8)) (before after : Board P T E) : Prop :=
  ∃ clientId payload preflight answer,
    frames.head? = some clientId ∧ frames.getLast? = some payload ∧
    (if needsPreflight prost payload then PreflightProvider.check
      else pure .ready : Prog Empty P PreflightStatus) before.preflight =
        .ok preflight after.preflight ∧
    handleEnvelope prost payload preflight before.backend = .ok answer after.backend ∧
    after.socket.sent = (answer.map fun bytes ↦ [clientId, bytes]).toList

/-- The message is passed over. -/
def Ignored (before after : Board P T E) : Prop :=
  after.preflight = before.preflight ∧ after.backend = before.backend ∧ after.socket.sent = []

theorem wp_iteration (frames : List (List UInt8)) (board : Board P T E) :
    wp (iteration prost options)
      (fun _ after ↦ Ignored board after ∨ Answered prost frames board after) (fun _ _ ↦ True)
      { board with socket := { arrived := [frames] } } := by
  change wp (serve prost options frames) (fun _ after ↦ Ignored board after ∨
    Answered prost frames board after) (fun _ _ ↦ True) { board with socket := {} }
  unfold serve
  split
  · rename_i clientId second rest payload hlast
    split
    · exact .inl ⟨rfl, rfl, rfl⟩
    · have hcheck : wp (if needsPreflight prost payload then
            infallible (zoom Service.preflightLens PreflightProvider.check)
          else pure .ready : Prog String (Board P T E) PreflightStatus) (fun preflight now ↦
          (if needsPreflight prost payload then PreflightProvider.check
            else pure .ready : Prog Empty P PreflightStatus) board.preflight =
              .ok preflight now.preflight ∧ now.backend = board.backend ∧ now.socket = {})
          (fun _ _ ↦ True) { board with socket := {} } := by
        by_cases hneeds : needsPreflight prost payload = true
        · rw [if_pos hneeds, if_pos hneeds]
          unfold infallible
          rw [wp_mapError, wp_zoom]
          have hrun : wp PreflightProvider.check (fun preflight provider ↦
              (PreflightProvider.check : Prog Empty P PreflightStatus) board.preflight =
                .ok preflight provider) (fun _ _ ↦ True)
              (Service.preflightLens.view ({ board with socket := {} } : Board P T E)) :=
            wp_of_ok fun _ _ h ↦ h
          apply wp_mono hrun
          · exact fun _ _ h ↦ ⟨h, rfl, rfl⟩
          · rintro (_ | _) _ _ <;> trivial
        · rw [if_neg hneeds, if_neg hneeds]
          exact ⟨rfl, rfl, rfl⟩
      rw [wp_bind]
      apply wp_mono hcheck _ fun _ _ ↦ id
      rintro preflight now ⟨hpreflight, hbackend, hidle⟩
      apply wp_mono (wp_respond clientId payload preflight hidle) _ fun _ _ ↦ id
      rintro _ after ⟨answer, hanswer, hkept, hsent⟩
      refine .inr ⟨clientId, payload, preflight, answer, rfl, hlast, ?_, ?_, hsent⟩
      · rw [hkept]
        exact hpreflight
      · rw [← hbackend]
        exact hanswer
  · exact .inl ⟨rfl, rfl, rfl⟩

theorem take_spec {frames : List (List UInt8)} {before after : Board P T E}
    (h : take prost options before frames = some after) :
    Ignored before after ∨ Answered prost frames before after := by
  have hpost : wp (iteration prost options) _ _ _ := wp_iteration frames before
  unfold wp at hpost
  unfold take at h
  split at h
  · rename_i hrun
    cases h
    rw [hrun] at hpost
    exact hpost
  · cases h

/-- Only the one who has sent a message receives anything. -/
theorem receivedBy_of_ne {frames : List (List UInt8)} {before after : Board P T E}
    {identity : List UInt8} (h : take prost options before frames = some after)
    (hother : frames.head? ≠ some identity) : receivedBy identity after.socket.sent = [] := by
  cases take_spec h with
  | inl hignored => rw [hignored.2.2]; rfl
  | inr hanswered =>
    obtain ⟨clientId, payload, preflight, answer, hhead, -, -, -, hsent⟩ := hanswered
    rw [hsent]
    cases answer with
    | none => rfl
    | some bytes =>
      have hne : ¬ some clientId = some identity := hhead ▸ hother
      simp [receivedBy, hne]

/-- What is received after a request is the response of the router that has executed it. -/
theorem receivedBy_request {req : ControlEnvelopeV2} {payload identity : List UInt8}
    {before after : Board P T E}
    (h : take prost options before [identity, payload] = some after)
    (hdecode : (prost.decode payload : Except DecodeError ControlEnvelopeV2) = .ok req) :
    ∀ bytes ∈ receivedBy identity after.socket.sent, ∃ response,
      bytes = prost.encodeToVec response ∧ Serves prost payload req response before after := by
  intro bytes hbytes
  cases take_spec h with
  | inl hignored =>
    rw [hignored.2.2] at hbytes
    cases hbytes
  | inr hanswered =>
    obtain ⟨clientId, payload', preflight, answer, hhead, hlast, hcheck, hanswer, hsent⟩ :=
      hanswered
    obtain rfl : identity = clientId := Option.some.inj hhead
    obtain rfl : payload = payload' := Option.some.inj hlast
    rw [hsent] at hbytes
    unfold Router.handleEnvelope at hanswer
    rw [hdecode] at hanswer
    dsimp only at hanswer
    split at hanswer
    · obtain rfl := (EStateM.Result.ok.inj hanswer).1
      cases hbytes
    · obtain ⟨responsePayload, mid, hpayload, hanswer⟩ := bind_eq_ok_iff.mp hanswer
      obtain ⟨response, last, hresponse, hanswer⟩ := bind_eq_ok_iff.mp hanswer
      obtain ⟨rfl, rfl⟩ := EStateM.Result.ok.inj hanswer
      obtain rfl : bytes = prost.encodeToVec response := by simpa [receivedBy] using hbytes
      refine ⟨response, rfl, preflight, mid, hcheck, ?_⟩
      have hsame : response.payload = responsePayload := by
        obtain rfl := (EStateM.Result.ok.inj hresponse).1
        rfl
      rw [hsame]
      exact ⟨hpayload, hresponse⟩

end Router

end DaphneSc.Bridge.Network
