import DaphneSc.Server.Handlers
import DaphneSc.Server.SlowControl

/-!
# The router

Envelopes are received one at a time. A request for the AFEs, or for the slow-control status, is
checked for first, and the handler of a request gets the result of the check; every other envelope
is handled as if the checks had passed. A request for the AFEs that comes with a failed check gets a
transport that rejects every command.
-/

namespace DaphneSc.Server.Router

open DaphneSc.Core Core.Rpu Core.Transport Handlers Pb Preflight Program SlowControl

/-! ## State -/

/-- The transport and the host behind the handlers, and the number of the next response. -/
structure Backend (T E : Type) where
  rpu : T
  host : E
  nextMsgSeq : UInt64

namespace Backend

variable {T E : Type}

def rpuLens : Lens (Backend T E) T where
  view := rpu
  update rpu backend := { backend with rpu := rpu }
  view_update _ _ := rfl

def hostLens : Lens (Backend T E) E where
  view := host
  update host backend := { backend with host := host }
  view_update _ _ := rfl

end Backend

/-- The transport of a request whose checks have failed. -/
structure PreflightRejectedRpuTransport where
  message : String

instance : RpuAfeTransport PreflightRejectedRpuTransport where
  status := do
    let transport ← get
    return {
      available := false
      running := false
      firmware := none
      heartbeat := none
      lastFault := some transport.message }
  submitAfeCommand _ := do
    let transport ← get
    fail (.rejected transport.message)

/-- Run on a state of its own, which is dropped at the end. -/
def runLocal {σ τ α : Type} (m : Prog Empty τ α) (t : τ) : Prog Empty σ α :=
  match m t with
  | .ok a _ => pure a
  | .error _ _ => stop

/-! ## Payloads -/

section Payload

variable {T E : Type} [RpuAfeTransport T] [HostEnvironment E] (prost : Prost)

def handleSlowControlStatus (payload : List UInt8) (preflight : PreflightStatus) :
    Prog Empty (Backend T E) (List UInt8) :=
  match (prost.decode payload : Except DecodeError Sc.SlowControlStatusRequest) with
  | .error err => return prost.encodeToVec ({
      success := false
      message := s!"Bad SlowControlStatusRequest payload: {err}" } : Sc.SlowControlStatusResponse)
  | .ok _ => do
    let rpuStatusResult : Except RpuError RpuLinkStatus ←
      attempt (zoom Backend.rpuLens RpuAfeTransport.status)
    let success := preflight.readyForHardwareCommands && rpuStatusResult.isOk
    let message :=
      if success then "ok"
      else if !preflight.readyForHardwareCommands then preflight.failureMessage
      else match rpuStatusResult with
        | .error err => s!"RPU status failed: {err.toText}"
        | .ok _ => "RPU status failed: unknown"
    let linkStatus := match rpuStatusResult with
      | .ok linkStatus => linkStatus
      | .error err => {
          available := false
          running := false
          firmware := none
          heartbeat := none
          lastFault := some err.toText }
    let status ← zoom Backend.hostLens
        (HostEnvironment.collectSlowControlStatus preflight linkStatus)
    let errors := match rpuStatusResult with
      | .ok _ => status.errors
      | .error err => status.errors ++ [s!"rpu: {err.toText}"]
    return prost.encodeToVec
      (slowControlStatusToPb success message { status with errors := errors })

def handleLinuxStatus (messageType : MessageTypeV2) (payload : List UInt8)
    (preflight : PreflightStatus) : Prog Empty (Backend T E) (List UInt8) :=
  match messageType with
  | .readCurrentMonitorReq =>
    match (prost.decode payload : Except DecodeError CmdReadCurrentMonitor) with
    | .error err => return prost.encodeToVec ({
        success := false
        message := s!"Bad cmd_readCurrentMonitor payload: {err}" } : CmdReadCurrentMonitorResponse)
    | .ok req => return prost.encodeToVec ({
        success := false
        message := "Current monitor not implemented in Rust server yet"
        currentMonitorChannel := req.currentMonitorChannel
        currentValue := 0 } : CmdReadCurrentMonitorResponse)
  | .readBiasVoltageMonitorReq =>
    match (prost.decode payload : Except DecodeError CmdReadBiasVoltageMonitor) with
    | .error err => return prost.encodeToVec ({
        success := false
        message := s!"Bad cmd_readBiasVoltageMonitor payload: {err}" } :
          CmdReadBiasVoltageMonitorResponse)
    | .ok req => return prost.encodeToVec ({
        success := false
        message := "Bias voltage monitor not implemented in Rust server yet"
        afeBlock := req.afeBlock
        biasVoltageValue := 0 } : CmdReadBiasVoltageMonitorResponse)
  | .readGeneralInfoReq => return prost.encodeToVec ({} : GeneralInfo)
  | .readSlowControlStatusReq => handleSlowControlStatus prost payload preflight
  | _ => return []

def handleNotImplemented : MessageTypeV2 → List UInt8
  | .readTestRegReq =>
    prost.encodeToVec ({ value := 0xDEADBEEF, message := "ok" } : TestRegResponse)
  | _ => []

def handlePayload (messageType : Int32) (payload : List UInt8) (preflight : PreflightStatus) :
    Prog Empty (Backend T E) (List UInt8) :=
  match MessageTypeV2.tryFrom messageType.toUInt32 with
  | none => return []
  | some coreType =>
    match routeMessageType coreType with
    | .rpuAfe =>
      if preflight.readyForHardwareCommands then
        zoom Backend.rpuLens (handleRpuAfe prost coreType payload)
      else
        runLocal (handleRpuAfe prost coreType payload)
          (PreflightRejectedRpuTransport.mk preflight.failureMessage)
    | .linuxStatus => handleLinuxStatus prost coreType payload preflight
    | .linuxFpga | .unsupported => return handleNotImplemented prost coreType

end Payload

/-! ## Envelopes -/

def responseType (reqType : Int32) : Int32 :=
  if reqType = 0 then 0 else if reqType &&& 1 = 0 then reqType + 1 else reqType

section Envelope

variable {T E : Type} [HostEnvironment E]

def nowNs : Prog Empty (Backend T E) UInt64 :=
  modifyGet fun backend ↦
    let (now, host) := HostEnvironment.nowNs backend.host
    (now, { backend with host := host })

def nextMsgId : Prog Empty (Backend T E) UInt64 := do
  let seq ← modifyGet fun backend ↦
    (backend.nextMsgSeq, { backend with nextMsgSeq := backend.nextMsgSeq + 1 })
  let now ← nowNs
  return ((now <<< 16) ^^^ seq) &&& (((1 : UInt64) <<< 63) - 1)

def makeResponse (req : ControlEnvelopeV2) (payload : List UInt8) :
    Prog Empty (Backend T E) ControlEnvelopeV2 := do
  let msgId ← nextMsgId
  let now ← nowNs
  return {
    version := 2
    dir := dirResponse
    type := responseType req.type
    payload := payload
    taskId := req.taskId
    msgId := msgId
    correlId := req.msgId
    route := req.route
    timestampNs := now }

variable [RpuAfeTransport T] (prost : Prost)

def handleEnvelope (payload : List UInt8) (preflight : PreflightStatus) :
    Prog Empty (Backend T E) (Option (List UInt8)) :=
  match (prost.decode payload : Except DecodeError ControlEnvelopeV2) with
  | .error _ => return none
  | .ok req =>
    if req.version ≠ 2 ∨ req.dir ≠ dirRequest then
      return none
    else do
      let responsePayload ← handlePayload prost req.type req.payload preflight
      let response ← makeResponse req responsePayload
      return some (prost.encodeToVec response)

end Envelope

def needsPreflight (prost : Prost) (payload : List UInt8) : Bool :=
  match (prost.decode payload : Except DecodeError ControlEnvelopeV2) with
  | .error _ => false
  | .ok req =>
    if req.version ≠ 2 ∨ req.dir ≠ dirRequest then
      false
    else
      match MessageTypeV2.tryFrom req.type.toUInt32 with
      | none => false
      | some messageType =>
        routeMessageType messageType == .rpuAfe || messageType == .readSlowControlStatusReq

/-! ## The loop -/

/-- Of the options, the loop itself uses only the largest size of an envelope. -/
structure RouterOptions where
  maxEnvelopeBytes : ℕ := 4 * 1024 * 1024

/-- The socket that the router is bound to. Errors are the texts of the library's errors. -/
class RouterSocket (S : Type) where
  recvMultipart : Prog String S (List (List UInt8))
  send (bytes : List UInt8) (more : Bool) : Prog String S Unit

/-- All that the loop works on. -/
structure Service (S P T E : Type) where
  socket : S
  preflight : P
  backend : Backend T E

variable {S P T E : Type}

namespace Service

def socketLens : Lens (Service S P T E) S where
  view := socket
  update socket service := { service with socket := socket }
  view_update _ _ := rfl

def preflightLens : Lens (Service S P T E) P where
  view := preflight
  update preflight service := { service with preflight := preflight }
  view_update _ _ := rfl

def backendLens : Lens (Service S P T E) (Backend T E) where
  view := backend
  update backend service := { service with backend := backend }
  view_update _ _ := rfl

end Service

/-- An operation on the socket; its error is reported with what was being done. -/
def socketIo {α : Type} (doing : String) (m : Prog String S α) : Prog String (Service S P T E) α :=
  mapError (fun err ↦ doing ++ ": " ++ err) (zoom Service.socketLens m)

/-- A part that cannot fail. -/
def infallible {σ α : Type} (m : Prog Empty σ α) : Prog String σ α := mapError Empty.elim m

variable [RouterSocket S] [PreflightProvider P] [RpuAfeTransport T] [HostEnvironment E]

/-- Handle a payload and send what it is answered with. -/
def respond (prost : Prost) (clientId payload : List UInt8) (preflightStatus : PreflightStatus) :
    Prog String (Service S P T E) Unit := do
  match ← infallible (zoom Service.backendLens (handleEnvelope prost payload preflightStatus)) with
  | none => return
  | some response => do
    socketIo "sending ZMQ client identity" (RouterSocket.send clientId true)
    socketIo "sending ZMQ response envelope" (RouterSocket.send response false)

/-- What the loop does with the frames of one message. -/
def serve (prost : Prost) (options : RouterOptions) (frames : List (List UInt8)) :
    Prog String (Service S P T E) Unit :=
  match frames, frames.getLast? with
  | clientId :: _ :: _, some payload =>
    if payload.length > options.maxEnvelopeBytes then
      return
    else do
      let preflightStatus ← (if needsPreflight prost payload then
          infallible (zoom Service.preflightLens PreflightProvider.check)
        else
          pure .ready)
      respond prost clientId payload preflightStatus
  | _, _ => return

/-- One iteration of the loop. -/
def iteration (prost : Prost) (options : RouterOptions) : Prog String (Service S P T E) Unit := do
  let frames ← socketIo "receiving ZMQ multipart" RouterSocket.recvMultipart
  serve prost options frames

/-- The loop, up to some iteration. It ends earlier only at an error of the socket. -/
def run (prost : Prost) (options : RouterOptions) : ℕ → Prog String (Service S P T E) Unit
  | 0 => return
  | n + 1 => do
    iteration prost options
    run prost options n

end DaphneSc.Server.Router
