import DaphneSc.Core.Checked

/-!
# The RPU runtime

The runtime answers every frame it is given. A status command is answered from the interlock alone.
Any other command is refused while the interlock is not ready, and is otherwise handed to the
hardware. A front-end configuration arrives as a sequence of frames, which `ConfigState` counts.

The source has no arm for `ReadAlignment` in its dispatch, so runs are made of frames that are not
such a command (`HandledFrame`).
-/

namespace DaphneSc.Rpu.Runtime

open Core.Afe Core.RpuWire Program

/-! ## Interlock -/

structure InterlockState where
  clockReady : Bool
  firmwareReady : Bool
  interfacesReady : Bool
  temperaturesOk : Bool
  railsOk : Bool
  hostHeartbeatOk : Bool
  faultCode : UInt32
  deriving DecidableEq, Repr

namespace InterlockState

def default : InterlockState := ⟨false, false, false, false, false, false, 0⟩

/-- Every condition holds and there is no fault. -/
def ready : InterlockState := ⟨true, true, true, true, true, true, 0⟩

def readyForAfe (interlock : InterlockState) : Bool :=
  interlock.clockReady && interlock.firmwareReady && interlock.interfacesReady &&
    interlock.temperaturesOk && interlock.railsOk && interlock.hostHeartbeatOk &&
    interlock.faultCode == 0

def code (interlock : InterlockState) : UInt32 :=
  let code : UInt32 := 0
  let code := code ||| (!interlock.clockReady).toUInt32
  let code := code ||| ((!interlock.firmwareReady).toUInt32 <<< 1)
  let code := code ||| ((!interlock.interfacesReady).toUInt32 <<< 2)
  let code := code ||| ((!interlock.temperaturesOk).toUInt32 <<< 3)
  let code := code ||| ((!interlock.railsOk).toUInt32 <<< 4)
  let code := code ||| ((!interlock.hostHeartbeatOk).toUInt32 <<< 5)
  code ||| ((interlock.faultCode != 0).toUInt32 <<< 6)

/-- The code names at least one missing condition exactly when the interlock is not ready. -/
theorem code_eq_zero_iff (interlock : InterlockState) :
    interlock.code = 0 ↔ interlock.readyForAfe = true := by
  obtain ⟨clock, firmware, interfaces, temperatures, rails, heartbeat, fault⟩ := interlock
  have hfault : (fault == 0) = !(fault != 0) := by simp [bne]
  simp only [code, readyForAfe, hfault]
  generalize (fault != 0) = faulted
  revert clock firmware interfaces temperatures rails heartbeat faulted
  decide

end InterlockState

/-! ## Hardware -/

/-- The operations the runtime needs. Each may fail with an error of the implementation. -/
class AfeHardware (H : Type) (ε : outParam Type) where
  readRegister (afePl : UInt8) (register : UInt16) : Prog ε H UInt32
  writeRegister (afePl : UInt8) (register : UInt16) (value : UInt32) : Prog ε H UInt32
  readScalar (op : RpuWireOp) (afePl : UInt8) : Prog ε H UInt32
  writeScalar (op : RpuWireOp) (afePl : UInt8) (value : UInt32) : Prog ε H UInt32
  readChannelScalar (command : RpuWireCommand) : Prog ε H UInt32
  writeChannelScalar (command : RpuWireCommand) : Prog ε H UInt32
  readVbiasControl : Prog ε H UInt32
  writeVbiasControl (value : UInt32) (enable : Bool) : Prog ε H UInt32
  setReset (asserted : Bool) : Prog ε H Unit
  doReset : Prog ε H Unit
  setPowerState (enabled : Bool) : Prog ε H Unit
  align : Prog ε H Unit
  beginConfigureFrontend (counts : RpuWireConfigCounts) : Prog ε H Unit
  configureAfe (config : RpuWireAfeConfig) : Prog ε H Unit
  configureChannel (config : RpuWireChannelConfig) : Prog ε H Unit
  applyConfigureFrontend : Prog ε H Unit
  writeFunction (afePl : UInt8) (name : String) (value : UInt16) : Prog ε H UInt32

/-! ## State -/

inductive ApplyError where
  | rejected
  | hardwareFault
  deriving DecidableEq, Repr

structure ConfigState where
  active : Bool
  expectedAfes : UInt16
  expectedChannels : UInt16
  receivedAfes : UInt16
  receivedChannels : UInt16
  deriving DecidableEq, Repr

namespace ConfigState

def default : ConfigState := ⟨false, 0, 0, 0, 0⟩

def «begin» (counts : RpuWireConfigCounts) : ConfigState :=
  ⟨true, counts.afeCount, counts.channelCount, 0, 0⟩

def requireAfeSlot (config : ConfigState) : Except ApplyError Unit :=
  if config.active ∧ config.receivedAfes < config.expectedAfes then .ok () else .error .rejected

def requireChannelSlot (config : ConfigState) : Except ApplyError Unit :=
  if config.active ∧ config.receivedChannels < config.expectedChannels then
    .ok ()
  else
    .error .rejected

def requireComplete (config : ConfigState) : Except ApplyError Unit :=
  if config.active ∧ config.receivedAfes = config.expectedAfes ∧
      config.receivedChannels = config.expectedChannels then
    .ok ()
  else
    .error .rejected

theorem requireComplete_eq_ok_iff {config : ConfigState} :
    config.requireComplete = .ok () ↔ config.active = true ∧
      config.receivedAfes = config.expectedAfes ∧
      config.receivedChannels = config.expectedChannels := by
  simp [requireComplete]

end ConfigState

/-- Incrementing a counter below another one. -/
theorem toNat_increment {received expected : UInt16} (h : received < expected) :
    (received + 1).toNat = received.toNat + 1 := by
  have hlt := UInt16.lt_iff_toNat_lt.mp h
  have hmax : expected.toNat < 65536 := expected.toNat_lt
  rw [UInt16.toNat_add]
  change (received.toNat + 1) % 65536 = received.toNat + 1
  omega

structure RpuRuntime (H : Type) where
  hardware : H
  heartbeat : UInt64
  interlock : InterlockState
  configState : ConfigState

namespace RpuRuntime

variable {H ε : Type}

def new (hardware : H) : RpuRuntime H := ⟨hardware, 0, .default, .default⟩

def setInterlock (interlock : InterlockState) (runtime : RpuRuntime H) : RpuRuntime H :=
  { runtime with interlock := interlock }

def hardwareLens : Lens (RpuRuntime H) H where
  view := hardware
  update hardware runtime := { runtime with hardware := hardware }
  view_update _ _ := rfl

/-! ## Commands -/

def requireAfe (command : RpuWireCommand) : Except ApplyError UInt8 :=
  if command.target = .afe then .ok command.afePl else .error .rejected

/-- Errors of the hardware are reported as a fault, whatever they say. -/
def hw {α : Type} (m : Prog ε H α) : Prog ApplyError (RpuRuntime H) α :=
  mapError (fun _ ↦ .hardwareFault) (zoom hardwareLens m)

/-- A decoding helper's error rejects the command. -/
def orRejected {α : Type} (result : Except RpuWireError α) : Prog ApplyError (RpuRuntime H) α :=
  ofResult (result.mapError fun _ ↦ .rejected)

def functionName (command : RpuWireCommand) : Prog ApplyError (RpuRuntime H) String :=
  mapError (fun _ ↦ .rejected) (Core.Checked.functionName command)

theorem functionName_eq (command : RpuWireCommand) :
    (functionName command : Prog ApplyError (RpuRuntime H) String) =
      orRejected command.functionName := by
  rw [functionName, Core.Checked.functionName_eq, mapError_ofResult, orRejected]

/-- Increment with the overflow check of the source's arithmetic. -/
def checkedIncrement (value : UInt16) : Prog ApplyError (RpuRuntime H) UInt16 :=
  if value = 65535 then stop else pure (value + 1)

def setConfigState (config : ConfigState) : Prog ApplyError (RpuRuntime H) PUnit :=
  modify fun runtime ↦ { runtime with configState := config }

variable [AfeHardware H ε]

def applyCommand (command : RpuWireCommand) : Prog ApplyError (RpuRuntime H) (Option UInt32) :=
  match command.op with
  | .status => do
    let runtime ← get
    return some runtime.interlock.code
  | .readRegister => do
    let afe ← ofResult (requireAfe command)
    some <$> hw (AfeHardware.readRegister afe command.register)
  | .writeRegister => do
    let afe ← ofResult (requireAfe command)
    some <$> hw (AfeHardware.writeRegister afe command.register command.value)
  | .readAttenuation | .readBias => do
    let afe ← ofResult (requireAfe command)
    some <$> hw (AfeHardware.readScalar command.op afe)
  | .setAttenuation | .setBias => do
    let afe ← ofResult (requireAfe command)
    some <$> hw (AfeHardware.writeScalar command.op afe command.value)
  | .readTrim | .readOffset => some <$> hw (AfeHardware.readChannelScalar command)
  | .setTrim | .setOffset => some <$> hw (AfeHardware.writeChannelScalar command)
  | .readVbiasControl => some <$> hw AfeHardware.readVbiasControl
  | .setVbiasControl =>
    some <$> hw (AfeHardware.writeVbiasControl command.value (command.flags != 0))
  | .setReset => (fun _ ↦ none) <$> hw (AfeHardware.setReset (command.flags != 0))
  | .doReset => (fun _ ↦ none) <$> hw AfeHardware.doReset
  | .setPowerState => (fun _ ↦ none) <$> hw (AfeHardware.setPowerState (command.flags != 0))
  | .align => (fun _ ↦ none) <$> hw AfeHardware.align
  | .beginConfigureFrontend => do
    let counts ← orRejected command.configureCounts
    hw (AfeHardware.beginConfigureFrontend counts)
    setConfigState (.begin counts)
    return none
  | .configureAfe => do
    let config ← orRejected command.afeConfig
    let runtime ← get
    ofResult runtime.configState.requireAfeSlot
    hw (AfeHardware.configureAfe config)
    let received ← checkedIncrement runtime.configState.receivedAfes
    setConfigState { runtime.configState with receivedAfes := received }
    return none
  | .configureChannel => do
    let config ← orRejected command.channelConfig
    let runtime ← get
    ofResult runtime.configState.requireChannelSlot
    hw (AfeHardware.configureChannel config)
    let received ← checkedIncrement runtime.configState.receivedChannels
    setConfigState { runtime.configState with receivedChannels := received }
    return none
  | .applyConfigureFrontend => do
    let runtime ← get
    ofResult runtime.configState.requireComplete
    hw AfeHardware.applyConfigureFrontend
    setConfigState .default
    return none
  | .writeFunction => do
    let afe ← ofResult (requireAfe command)
    let name ← functionName command
    let value ← okOr (u16TryFrom command.value) .rejected
    some <$> hw (AfeHardware.writeFunction afe name value)
  -- No arm in the source; `HandledFrame` keeps such commands out of every run.
  | .readAlignment => fail .rejected

def handleCommand (command : RpuWireCommand) : Prog Empty (RpuRuntime H) RpuWireReply := do
  let runtime ← get
  if command.op = .status then
    return {
      sequence := command.sequence
      status := if runtime.interlock.faultCode = 0 then .applied else .fault
      readback := some runtime.interlock.code
      heartbeat := runtime.heartbeat
      faultCode := runtime.interlock.faultCode
      interlockCode := runtime.interlock.code }
  else if !runtime.interlock.readyForAfe then
    return {
      sequence := command.sequence
      status := .interlocked
      readback := none
      heartbeat := runtime.heartbeat
      faultCode := runtime.interlock.faultCode
      interlockCode := runtime.interlock.code }
  else
    match ← attempt (applyCommand command) with
    | .ok readback => return {
        sequence := command.sequence
        status := .applied
        readback := readback
        heartbeat := runtime.heartbeat
        faultCode := 0
        interlockCode := 0 }
    | .error .rejected => return {
        sequence := command.sequence
        status := .rejected
        readback := none
        heartbeat := runtime.heartbeat
        faultCode := 0
        interlockCode := 0 }
    | .error .hardwareFault => return {
        sequence := command.sequence
        status := .fault
        readback := none
        heartbeat := runtime.heartbeat
        faultCode := 1
        interlockCode := runtime.interlock.code }

def errorReply (sequence : UInt64) (_err : RpuWireError) (runtime : RpuRuntime H) :
    RpuWireReply where
  sequence := sequence
  status := .rejected
  readback := none
  heartbeat := runtime.heartbeat
  faultCode := 0
  interlockCode := runtime.interlock.code

def handleFrame (input : Vector UInt8 rpuWireCommandLen) :
    Prog Empty (RpuRuntime H) (Vector UInt8 rpuWireReplyLen) := do
  modify fun runtime ↦ { runtime with heartbeat := runtime.heartbeat + 1 }
  match ← attempt (Core.Checked.decode input.toList) with
  | .ok command => do
    let reply ← handleCommand command
    Core.Checked.encode reply
  | .error err => do
    let runtime ← get
    Core.Checked.encode (errorReply 0 err runtime)

end RpuRuntime

/-! ## Runs -/

/-- Any 64 bytes that are not a `ReadAlignment` command. -/
structure HandledFrame where
  bytes : Vector UInt8 rpuWireCommandLen
  handled : ∀ command, RpuWireCommand.decode bytes.toList = .ok command →
    command.op ≠ .readAlignment

/-- The bytes of a command, as the host sends them. -/
def HandledFrame.ofCommand (command : RpuWireCommand) (h : command.op ≠ .readAlignment) :
    HandledFrame where
  bytes := command.encode
  handled command' hdecode := by
    rw [RpuWireCommand.decode_encode] at hdecode
    cases hdecode
    exact h

theorem HandledFrame.ofCommand_bytes (command : RpuWireCommand) (h : command.op ≠ .readAlignment) :
    (HandledFrame.ofCommand command h).bytes = command.encode := rfl

/-- What can happen to a runtime. -/
inductive RuntimeEvent where
  | frame (input : HandledFrame)
  | setInterlock (interlock : InterlockState)

section Runs

variable {H ε : Type} [AfeHardware H ε]

def step (runtime : RpuRuntime H) : RuntimeEvent → RpuRuntime H
  | .frame input => final (RpuRuntime.handleFrame input.bytes) runtime
  | .setInterlock interlock => runtime.setInterlock interlock

/-- The state after a sequence of events. -/
def run (runtime : RpuRuntime H) (events : List RuntimeEvent) : RpuRuntime H :=
  events.foldl step runtime

theorem step_setInterlock (runtime : RpuRuntime H) (interlock : InterlockState) :
    step runtime (.setInterlock interlock) = runtime.setInterlock interlock := rfl

@[simp] theorem run_nil (runtime : RpuRuntime H) : run runtime [] = runtime := rfl

theorem run_cons (runtime : RpuRuntime H) (event : RuntimeEvent) (events : List RuntimeEvent) :
    run runtime (event :: events) = run (step runtime event) events := rfl

theorem run_append (runtime : RpuRuntime H) (events events' : List RuntimeEvent) :
    run runtime (events ++ events') = run (run runtime events) events' := by
  simp [run]

/-- What every step preserves holds after every run. -/
theorem run_invariant {I : RpuRuntime H → Prop} (hstep : ∀ runtime event, I runtime →
    I (step runtime event)) {runtime : RpuRuntime H} (h : I runtime) (events : List RuntimeEvent) :
    I (run runtime events) := by
  induction events generalizing runtime with
  | nil => exact h
  | cons event events ih => exact ih (hstep runtime event h)

end Runs

end DaphneSc.Rpu.Runtime
