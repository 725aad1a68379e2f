import DaphneSc.Rpu.Runtime

/-!
# What a command does

A command is either rejected without any effect or makes exactly one call of the hardware, whose
success moves the configuration bookkeeping on. `dispatch` says which, and every fact about the
runtime's dispatch is read off from it instead of from the arms of `applyCommand`.
-/

namespace DaphneSc.Rpu.Runtime

open Core.Afe Core.RpuWire Program

/-! ## Hardware calls -/

inductive HardwareCall where
  | readRegister (afePl : UInt8) (register : UInt16)
  | writeRegister (afePl : UInt8) (register : UInt16) (value : UInt32)
  | readScalar (op : RpuWireOp) (afePl : UInt8)
  | writeScalar (op : RpuWireOp) (afePl : UInt8) (value : UInt32)
  | readChannelScalar (command : RpuWireCommand)
  | writeChannelScalar (command : RpuWireCommand)
  | readVbiasControl
  | writeVbiasControl (value : UInt32) (enable : Bool)
  | setReset (asserted : Bool)
  | doReset
  | setPowerState (enabled : Bool)
  | align
  | beginConfigureFrontend (counts : RpuWireConfigCounts)
  | configureAfe (config : RpuWireAfeConfig)
  | configureChannel (config : RpuWireChannelConfig)
  | applyConfigureFrontend
  | writeFunction (afePl : UInt8) (name : String) (value : UInt16)
  deriving DecidableEq

variable {H ε : Type} [AfeHardware H ε]

/-- Make the call; calls without a result read back nothing. -/
def HardwareCall.perform : HardwareCall → Prog ε H (Option UInt32)
  | readRegister afePl register => some <$> AfeHardware.readRegister afePl register
  | writeRegister afePl register value => some <$> AfeHardware.writeRegister afePl register value
  | readScalar op afePl => some <$> AfeHardware.readScalar op afePl
  | writeScalar op afePl value => some <$> AfeHardware.writeScalar op afePl value
  | readChannelScalar command => some <$> AfeHardware.readChannelScalar command
  | writeChannelScalar command => some <$> AfeHardware.writeChannelScalar command
  | readVbiasControl => some <$> AfeHardware.readVbiasControl
  | writeVbiasControl value enable => some <$> AfeHardware.writeVbiasControl value enable
  | setReset asserted => (fun _ ↦ none) <$> AfeHardware.setReset asserted
  | doReset => (fun _ ↦ none) <$> AfeHardware.doReset
  | setPowerState enabled => (fun _ ↦ none) <$> AfeHardware.setPowerState enabled
  | align => (fun _ ↦ none) <$> AfeHardware.align
  | beginConfigureFrontend counts => (fun _ ↦ none) <$> AfeHardware.beginConfigureFrontend counts
  | configureAfe config => (fun _ ↦ none) <$> AfeHardware.configureAfe config
  | configureChannel config => (fun _ ↦ none) <$> AfeHardware.configureChannel config
  | applyConfigureFrontend => (fun _ ↦ none) <$> AfeHardware.applyConfigureFrontend
  | writeFunction afePl name value => some <$> AfeHardware.writeFunction afePl name value

/-! ## Dispatch -/

/-- The call a command makes and the bookkeeping after its success, or `none` when it is
rejected. -/
def dispatch (command : RpuWireCommand) (config : ConfigState) :
    Option (HardwareCall × ConfigState) :=
  let afe := if command.target = .afe then some command.afePl else none
  match command.op with
  | .readRegister => afe.map fun afe ↦ (.readRegister afe command.register, config)
  | .writeRegister => afe.map fun afe ↦ (.writeRegister afe command.register command.value, config)
  | .readAttenuation | .readBias => afe.map fun afe ↦ (.readScalar command.op afe, config)
  | .setAttenuation | .setBias =>
    afe.map fun afe ↦ (.writeScalar command.op afe command.value, config)
  | .readTrim | .readOffset => some (.readChannelScalar command, config)
  | .setTrim | .setOffset => some (.writeChannelScalar command, config)
  | .readVbiasControl => some (.readVbiasControl, config)
  | .setVbiasControl => some (.writeVbiasControl command.value (command.flags != 0), config)
  | .setReset => some (.setReset (command.flags != 0), config)
  | .doReset => some (.doReset, config)
  | .setPowerState => some (.setPowerState (command.flags != 0), config)
  | .align => some (.align, config)
  | .beginConfigureFrontend =>
    command.configureCounts.toOption.map fun counts ↦
      (.beginConfigureFrontend counts, .begin counts)
  | .configureAfe => do
    let record ← command.afeConfig.toOption
    if config.active ∧ config.receivedAfes < config.expectedAfes then
      some (.configureAfe record, { config with receivedAfes := config.receivedAfes + 1 })
    else
      none
  | .configureChannel => do
    let record ← command.channelConfig.toOption
    if config.active ∧ config.receivedChannels < config.expectedChannels then
      some (.configureChannel record,
        { config with receivedChannels := config.receivedChannels + 1 })
    else
      none
  | .applyConfigureFrontend =>
    if config.active ∧ config.receivedAfes = config.expectedAfes ∧
        config.receivedChannels = config.expectedChannels then
      some (.applyConfigureFrontend, .default)
    else
      none
  | .writeFunction => do
    let afe ← afe
    let name ← command.functionName.toOption
    let value ← u16TryFrom command.value
    some (.writeFunction afe name value, config)
  | .status | .readAlignment => none

/-- The calls that open, extend or close a configuration sequence. -/
def HardwareCall.configures : HardwareCall → Prop
  | .beginConfigureFrontend _ | .configureAfe _ | .configureChannel _ | .applyConfigureFrontend =>
    True
  | _ => False

/-- What a dispatch says about the configuration sequence: it opens one, extends the open one within
its counts, closes a complete one, or does not concern it. -/
inductive Configures (command : RpuWireCommand) (config : ConfigState) :
    HardwareCall → ConfigState → Prop
  | «begin» {counts : RpuWireConfigCounts} (op : command.op = .beginConfigureFrontend)
      (decoded : command.configureCounts = .ok counts) :
      Configures command config (.beginConfigureFrontend counts) (.begin counts)
  | afe {record : RpuWireAfeConfig} (op : command.op = .configureAfe)
      (decoded : command.afeConfig = .ok record) (active : config.active = true)
      (slot : config.receivedAfes < config.expectedAfes) :
      Configures command config (.configureAfe record)
        { config with receivedAfes := config.receivedAfes + 1 }
  | channel {record : RpuWireChannelConfig} (op : command.op = .configureChannel)
      (decoded : command.channelConfig = .ok record) (active : config.active = true)
      (slot : config.receivedChannels < config.expectedChannels) :
      Configures command config (.configureChannel record)
        { config with receivedChannels := config.receivedChannels + 1 }
  | apply (op : command.op = .applyConfigureFrontend) (active : config.active = true)
      (afes : config.receivedAfes = config.expectedAfes)
      (channels : config.receivedChannels = config.expectedChannels) :
      Configures command config .applyConfigureFrontend .default
  | other {call : HardwareCall} (outside : ¬ call.configures)
      (op : command.op ≠ .beginConfigureFrontend ∧ command.op ≠ .configureAfe ∧
        command.op ≠ .configureChannel ∧ command.op ≠ .applyConfigureFrontend) :
      Configures command config call config

theorem configures_of_dispatch {command : RpuWireCommand} {config next : ConfigState}
    {call : HardwareCall} (h : dispatch command config = some (call, next)) :
    Configures command config call next := by
  cases hop : command.op with
  | beginConfigureFrontend =>
    simp only [dispatch, hop, Option.map_eq_some_iff] at h
    obtain ⟨counts, hcounts, hpair⟩ := h
    cases hpair
    cases hdecoded : command.configureCounts with
    | error e => simp [hdecoded, Except.toOption] at hcounts
    | ok counts' =>
      simp only [hdecoded, Except.toOption, Option.some.injEq] at hcounts
      exact .begin hop (hcounts ▸ hdecoded)
  | configureAfe =>
    cases hdecoded : command.afeConfig with
    | error e => simp [dispatch, hop, hdecoded, Except.toOption] at h
    | ok record =>
      simp only [dispatch, hop, hdecoded, Except.toOption, Option.bind_eq_bind, Option.bind_some]
        at h
      split at h
      · rename_i hslot
        cases h
        exact .afe hop hdecoded hslot.1 hslot.2
      · cases h
  | configureChannel =>
    cases hdecoded : command.channelConfig with
    | error e => simp [dispatch, hop, hdecoded, Except.toOption] at h
    | ok record =>
      simp only [dispatch, hop, hdecoded, Except.toOption, Option.bind_eq_bind, Option.bind_some]
        at h
      split at h
      · rename_i hslot
        cases h
        exact .channel hop hdecoded hslot.1 hslot.2
      · cases h
  | applyConfigureFrontend =>
    simp only [dispatch, hop] at h
    split at h
    · rename_i hcomplete
      cases h
      exact .apply hop hcomplete.1 hcomplete.2.1 hcomplete.2.2
    · cases h
  | status | readAlignment => simp [dispatch, hop] at h
  | writeFunction =>
    simp only [dispatch, hop, Option.bind_eq_bind, Option.bind_eq_some_iff] at h
    obtain ⟨afe, -, name, -, value, -, hpair⟩ := h
    cases hpair
    exact .other (fun h ↦ h) (by simp [hop])
  | readRegister | writeRegister | readAttenuation | readBias | setAttenuation | setBias =>
    simp only [dispatch, hop, Option.map_eq_some_iff] at h
    obtain ⟨afe, -, hpair⟩ := h
    cases hpair
    exact .other (fun h ↦ h) (by simp [hop])
  | readTrim | readOffset | setTrim | setOffset | readVbiasControl | setVbiasControl | setReset
  | doReset | setPowerState | align =>
    simp only [dispatch, hop] at h
    cases h
    exact .other (fun h ↦ h) (by simp [hop])

namespace RpuRuntime

/-- The state after a call and the answer to it. -/
def conclude (runtime : RpuRuntime H) (next : ConfigState) :
    EStateM.Result (Abort ε) H (Option UInt32) →
      EStateM.Result (Abort ApplyError) (RpuRuntime H) (Option UInt32)
  | .ok readback hardware =>
    .ok readback { runtime with hardware := hardware, configState := next }
  | .error (.error _) hardware =>
    .error (.error .hardwareFault) { runtime with hardware := hardware }
  | .error .panic hardware => .error .panic { runtime with hardware := hardware }

section Calls

omit [AfeHardware H ε]

variable {α : Type}

/-- A call whose success leaves the bookkeeping alone. -/
theorem map_hw (f : α → Option UInt32) (m : Prog ε H α) (runtime : RpuRuntime H) :
    (f <$> hw m) runtime = runtime.conclude runtime.configState ((f <$> m) runtime.hardware) := by
  rw [run_map, run_map]
  simp only [hw, mapError, zoom, hardwareLens]
  rcases m runtime.hardware with _ | ⟨_ | _, _⟩ <;> rfl

/-- A call whose success sets the bookkeeping. -/
theorem hw_setConfigState (m : Prog ε H Unit) (next : ConfigState) (runtime : RpuRuntime H) :
    (hw m >>= fun _ ↦ setConfigState next >>= fun _ ↦ pure none) runtime =
      runtime.conclude next (((fun _ ↦ none) <$> m) runtime.hardware) := by
  rw [run_bind, run_map]
  simp only [hw, mapError, zoom, hardwareLens]
  rcases m runtime.hardware with _ | ⟨_ | _, _⟩ <;> rfl

/-- A counter below another one can be incremented. -/
theorem checkedIncrement_of_lt {received expected : UInt16} (h : received < expected) :
    (checkedIncrement received : Prog ApplyError (RpuRuntime H) UInt16) = pure (received + 1) := by
  have hlt := UInt16.lt_iff_toNat_lt.mp h
  have hmax : expected.toNat < 65536 := expected.toNat_lt
  have hne : received ≠ 65535 := by
    rintro rfl
    change 65535 < expected.toNat at hlt
    omega
  rw [checkedIncrement, if_neg hne]

end Calls

/-- Commands addressed to one AFE. -/
theorem requireAfe_bind (command : RpuWireCommand) (call : UInt8 → HardwareCall)
    (m : UInt8 → Prog ApplyError (RpuRuntime H) (Option UInt32)) (runtime : RpuRuntime H)
    (h : ∀ afe, m afe runtime =
      runtime.conclude runtime.configState ((call afe).perform runtime.hardware)) :
    (ofResult (requireAfe command) >>= m) runtime =
      match (if command.target = .afe then some command.afePl else none).map
        fun afe ↦ (call afe, runtime.configState) with
      | none => .error (.error .rejected) runtime
      | some (call, next) => runtime.conclude next (call.perform runtime.hardware) := by
  unfold requireAfe
  split
  · exact h command.afePl
  · rfl

/-- Dispatching a command: a rejection without effect or one call. -/
theorem applyCommand_eq (command : RpuWireCommand) (runtime : RpuRuntime H)
    (hstatus : command.op ≠ .status) :
    applyCommand command runtime =
      match dispatch command runtime.configState with
      | none => .error (.error .rejected) runtime
      | some (call, next) => runtime.conclude next (call.perform runtime.hardware) := by
  cases hop : command.op with
  | status => exact absurd hop hstatus
  | readRegister =>
    simp only [applyCommand, dispatch, hop]
    exact requireAfe_bind command (.readRegister · command.register) _ runtime fun afe ↦
      map_hw _ _ _
  | writeRegister =>
    simp only [applyCommand, dispatch, hop]
    exact requireAfe_bind command (.writeRegister · command.register command.value) _ runtime
      fun afe ↦ map_hw _ _ _
  | readAttenuation =>
    simp only [applyCommand, dispatch, hop]
    exact requireAfe_bind command (.readScalar .readAttenuation ·) _ runtime fun afe ↦ map_hw _ _ _
  | readBias =>
    simp only [applyCommand, dispatch, hop]
    exact requireAfe_bind command (.readScalar .readBias ·) _ runtime fun afe ↦ map_hw _ _ _
  | setAttenuation =>
    simp only [applyCommand, dispatch, hop]
    exact requireAfe_bind command (.writeScalar .setAttenuation · command.value) _ runtime
      fun afe ↦ map_hw _ _ _
  | setBias =>
    simp only [applyCommand, dispatch, hop]
    exact requireAfe_bind command (.writeScalar .setBias · command.value) _ runtime
      fun afe ↦ map_hw _ _ _
  | readTrim | readOffset | setTrim | setOffset | readVbiasControl | setVbiasControl | setReset
  | doReset | setPowerState | align =>
    simp only [applyCommand, dispatch, hop]
    exact map_hw _ _ _
  | beginConfigureFrontend =>
    simp only [applyCommand, dispatch, hop, orRejected]
    cases command.configureCounts with
    | ok counts => exact hw_setConfigState _ _ _
    | error e => rfl
  | configureAfe =>
    simp only [applyCommand, dispatch, hop, orRejected]
    cases command.afeConfig with
    | error e => rfl
    | ok record =>
      by_cases hslot : runtime.configState.active ∧
          runtime.configState.receivedAfes < runtime.configState.expectedAfes
      · simp only [Except.mapError, ofResult_ok, pure_bind, run_get_bind,
          ConfigState.requireAfeSlot, if_pos hslot, checkedIncrement_of_lt hslot.2]
        simp only [Except.toOption, Option.bind_eq_bind, Option.bind_some]
        exact hw_setConfigState _ _ _
      · simp only [Except.mapError, ofResult_ok, pure_bind, run_get_bind,
          ConfigState.requireAfeSlot, if_neg hslot]
        simp only [Except.toOption, Option.bind_eq_bind, Option.bind_some]
        rfl
  | configureChannel =>
    simp only [applyCommand, dispatch, hop, orRejected]
    cases command.channelConfig with
    | error e => rfl
    | ok record =>
      by_cases hslot : runtime.configState.active ∧
          runtime.configState.receivedChannels < runtime.configState.expectedChannels
      · simp only [Except.mapError, ofResult_ok, pure_bind, run_get_bind,
          ConfigState.requireChannelSlot, if_pos hslot, checkedIncrement_of_lt hslot.2]
        simp only [Except.toOption, Option.bind_eq_bind, Option.bind_some]
        exact hw_setConfigState _ _ _
      · simp only [Except.mapError, ofResult_ok, pure_bind, run_get_bind,
          ConfigState.requireChannelSlot, if_neg hslot]
        simp only [Except.toOption, Option.bind_eq_bind, Option.bind_some]
        rfl
  | applyConfigureFrontend =>
    simp only [applyCommand, dispatch, hop, run_get_bind, ConfigState.requireComplete]
    split
    · exact hw_setConfigState _ _ _
    · rfl
  | writeFunction =>
    simp only [applyCommand, dispatch, hop, functionName_eq, orRejected, requireAfe]
    split
    · cases command.functionName with
      | error e => rfl
      | ok name =>
        cases hvalue : u16TryFrom command.value with
        | none => rfl
        | some value => exact map_hw _ _ _
    · rfl
  | readAlignment =>
    simp only [applyCommand, dispatch, hop]
    rfl

/-! ## Handling a frame -/

/-- The state in which a frame is handled. -/
def tick (runtime : RpuRuntime H) : RpuRuntime H :=
  { runtime with heartbeat := runtime.heartbeat + 1 }

/-- The reply to a command. -/
def answer (command : RpuWireCommand) (runtime : RpuRuntime H) (status : RpuWireStatus)
    (readback : Option UInt32) (faultCode interlockCode : UInt32) : RpuWireReply where
  sequence := command.sequence
  status := status
  readback := readback
  heartbeat := runtime.heartbeat
  faultCode := faultCode
  interlockCode := interlockCode

variable {input : Vector UInt8 rpuWireCommandLen} {command : RpuWireCommand}
variable {runtime : RpuRuntime H}

theorem handleFrame_of_error {err : RpuWireError}
    (hdecode : RpuWireCommand.decode input.toList = .error err) :
    handleFrame input runtime = .ok (errorReply 0 err runtime.tick).encode runtime.tick := by
  unfold handleFrame
  rw [Core.Checked.decode_eq, hdecode, attempt_ofResult]
  simp only [Core.Checked.encode_eq]
  rfl

theorem handleFrame_of_ok (hdecode : RpuWireCommand.decode input.toList = .ok command) :
    handleFrame input runtime = (RpuWireReply.encode <$> handleCommand command) runtime.tick := by
  unfold handleFrame
  rw [Core.Checked.decode_eq, hdecode, attempt_ofResult]
  simp only [Core.Checked.encode_eq]
  rfl

theorem handleFrame_of_status (hdecode : RpuWireCommand.decode input.toList = .ok command)
    (hstatus : command.op = .status) :
    handleFrame input runtime = .ok (answer command runtime.tick
      (if runtime.interlock.faultCode = 0 then .applied else .fault)
      (some runtime.interlock.code) runtime.interlock.faultCode runtime.interlock.code).encode
      runtime.tick := by
  rw [handleFrame_of_ok hdecode, run_map, handleCommand, run_get_bind, if_pos hstatus]
  rfl

theorem handleFrame_of_interlocked (hdecode : RpuWireCommand.decode input.toList = .ok command)
    (hstatus : command.op ≠ .status) (hready : runtime.interlock.readyForAfe = false) :
    handleFrame input runtime = .ok (answer command runtime.tick .interlocked none
      runtime.interlock.faultCode runtime.interlock.code).encode runtime.tick := by
  have hready' : runtime.tick.interlock.readyForAfe = false := hready
  rw [handleFrame_of_ok hdecode, run_map, handleCommand, run_get_bind, if_neg hstatus, hready']
  rfl

/-- While the interlock is ready, the reply follows the dispatch. -/
theorem handleFrame_of_ready (hdecode : RpuWireCommand.decode input.toList = .ok command)
    (hstatus : command.op ≠ .status) (hready : runtime.interlock.readyForAfe = true) :
    handleFrame input runtime =
      match dispatch command runtime.configState with
      | none => .ok (answer command runtime.tick .rejected none 0 0).encode runtime.tick
      | some (call, next) =>
        match call.perform runtime.hardware with
        | .ok readback hardware => .ok (answer command runtime.tick .applied readback 0 0).encode
            { runtime.tick with hardware := hardware, configState := next }
        | .error (.error _) hardware =>
          .ok (answer command runtime.tick .fault none 1 runtime.interlock.code).encode
            { runtime.tick with hardware := hardware }
        | .error .panic hardware => .error .panic { runtime.tick with hardware := hardware } := by
  have hready' : runtime.tick.interlock.readyForAfe = true := hready
  have hconfig : runtime.tick.configState = runtime.configState := rfl
  have hhardware : runtime.tick.hardware = runtime.hardware := rfl
  rw [handleFrame_of_ok hdecode, run_map, handleCommand, run_get_bind, if_neg hstatus, hready']
  simp only [Bool.not_true, Bool.false_eq_true, if_false]
  rw [run_bind, attempt, applyCommand_eq command _ hstatus, hconfig]
  cases dispatch command runtime.configState with
  | none => rfl
  | some pair =>
    obtain ⟨call, next⟩ := pair
    simp only [hhardware, conclude]
    rcases call.perform runtime.hardware with _ | ⟨_ | _, _⟩ <;> rfl

/-- How handling a frame can go. -/
inductive Handles (input : Vector UInt8 rpuWireCommandLen) (runtime : RpuRuntime H) :
    EStateM.Result (Abort Empty) (RpuRuntime H) (Vector UInt8 rpuWireReplyLen) → Prop
  | undecodable {err : RpuWireError} (decoded : RpuWireCommand.decode input.toList = .error err) :
      Handles input runtime (.ok (errorReply 0 err runtime.tick).encode runtime.tick)
  | status {command : RpuWireCommand} (decoded : RpuWireCommand.decode input.toList = .ok command)
      (op : command.op = .status) :
      Handles input runtime (.ok (answer command runtime.tick
        (if runtime.interlock.faultCode = 0 then .applied else .fault)
        (some runtime.interlock.code) runtime.interlock.faultCode runtime.interlock.code).encode
        runtime.tick)
  | interlocked {command : RpuWireCommand}
      (decoded : RpuWireCommand.decode input.toList = .ok command) (op : command.op ≠ .status)
      (ready : runtime.interlock.readyForAfe = false) :
      Handles input runtime (.ok (answer command runtime.tick .interlocked none
        runtime.interlock.faultCode runtime.interlock.code).encode runtime.tick)
  | rejected {command : RpuWireCommand}
      (decoded : RpuWireCommand.decode input.toList = .ok command) (op : command.op ≠ .status)
      (ready : runtime.interlock.readyForAfe = true)
      (dispatched : dispatch command runtime.configState = none) :
      Handles input runtime (.ok (answer command runtime.tick .rejected none 0 0).encode
        runtime.tick)
  | applied {command : RpuWireCommand} {call : HardwareCall} {next : ConfigState}
      {readback : Option UInt32} {hardware : H}
      (decoded : RpuWireCommand.decode input.toList = .ok command) (op : command.op ≠ .status)
      (ready : runtime.interlock.readyForAfe = true)
      (dispatched : dispatch command runtime.configState = some (call, next))
      (performed : call.perform runtime.hardware = .ok readback hardware) :
      Handles input runtime (.ok (answer command runtime.tick .applied readback 0 0).encode
        { runtime.tick with hardware := hardware, configState := next })
  | fault {command : RpuWireCommand} {call : HardwareCall} {next : ConfigState} {err : ε}
      {hardware : H}
      (decoded : RpuWireCommand.decode input.toList = .ok command) (op : command.op ≠ .status)
      (ready : runtime.interlock.readyForAfe = true)
      (dispatched : dispatch command runtime.configState = some (call, next))
      (performed : call.perform runtime.hardware = .error (.error err) hardware) :
      Handles input runtime (.ok (answer command runtime.tick .fault none 1
        runtime.interlock.code).encode { runtime.tick with hardware := hardware })
  | panicked {command : RpuWireCommand} {call : HardwareCall} {next : ConfigState} {hardware : H}
      (decoded : RpuWireCommand.decode input.toList = .ok command) (op : command.op ≠ .status)
      (ready : runtime.interlock.readyForAfe = true)
      (dispatched : dispatch command runtime.configState = some (call, next))
      (performed : call.perform runtime.hardware = .error .panic hardware) :
      Handles input runtime (.error .panic { runtime.tick with hardware := hardware })

theorem handles (input : Vector UInt8 rpuWireCommandLen) (runtime : RpuRuntime H) :
    Handles input runtime (handleFrame input runtime) := by
  cases hdecode : RpuWireCommand.decode input.toList with
  | error err =>
    rw [handleFrame_of_error hdecode]
    exact .undecodable hdecode
  | ok command =>
    by_cases hstatus : command.op = .status
    · rw [handleFrame_of_status hdecode hstatus]
      exact .status hdecode hstatus
    · cases hready : runtime.interlock.readyForAfe with
      | false =>
        rw [handleFrame_of_interlocked hdecode hstatus hready]
        exact .interlocked hdecode hstatus hready
      | true =>
        rw [handleFrame_of_ready hdecode hstatus hready]
        cases hdispatch : dispatch command runtime.configState with
        | none => exact .rejected hdecode hstatus hready hdispatch
        | some pair =>
          obtain ⟨call, next⟩ := pair
          dsimp only
          cases hperform : call.perform runtime.hardware with
          | ok readback hardware => exact .applied hdecode hstatus hready hdispatch hperform
          | error abort hardware =>
            cases abort with
            | error err => exact .fault hdecode hstatus hready hdispatch hperform
            | panic => exact .panicked hdecode hstatus hready hdispatch hperform

/-- A reply carries the number of the frame, or zero when the frame does not decode. -/
theorem sequence_handleFrame {runtime runtime' : RpuRuntime H}
    {bytes : Vector UInt8 rpuWireReplyLen} (h : handleFrame input runtime = .ok bytes runtime') :
    ∃ reply : RpuWireReply, bytes = reply.encode ∧
      reply.sequence = match RpuWireCommand.decode input.toList with
        | .ok command => command.sequence
        | .error _ => 0 := by
  have hhandles := handles input runtime
  rw [h] at hhandles
  cases hhandles with
  | undecodable decoded | status decoded | interlocked decoded | rejected decoded
  | applied decoded | fault decoded =>
    rw [decoded]
    exact ⟨_, rfl, rfl⟩

end RpuRuntime

/-! ## Steps -/

/-- The command of a frame that is answered as applied. -/
def appliedCommand (runtime : RpuRuntime H) (input : HandledFrame) : Option RpuWireCommand :=
  match RpuWireCommand.decode input.bytes.toList, RpuRuntime.handleFrame input.bytes runtime with
  | .ok command, .ok bytes _ =>
    match RpuWireReply.decode bytes.toList with
    | .ok reply => if reply.status = .applied then some command else none
    | .error _ => none
  | _, _ => none

theorem appliedCommand_of_answer {runtime runtime' : RpuRuntime H} {input : HandledFrame}
    {command : RpuWireCommand} {reply : RpuWireReply}
    (hdecode : RpuWireCommand.decode input.bytes.toList = .ok command)
    (hreply : RpuRuntime.handleFrame input.bytes runtime = .ok reply.encode runtime') :
    appliedCommand runtime input = if reply.status = .applied then some command else none := by
  simp only [appliedCommand, hdecode, hreply, RpuWireReply.decode_encode]

/-- The interlock is ready and a frame decodes to a command whose dispatch is a call. -/
structure Calls (runtime : RpuRuntime H) (input : HandledFrame) (command : RpuWireCommand)
    (call : HardwareCall) (next : ConfigState) : Prop where
  ready : runtime.interlock.readyForAfe = true
  decoded : RpuWireCommand.decode input.bytes.toList = .ok command
  not_status : command.op ≠ .status
  dispatched : dispatch command runtime.configState = some (call, next)

/-- A frame either only advances the heartbeat, or makes one call, whose success moves the
bookkeeping on and is answered as applied. -/
theorem step_frame_cases (runtime : RpuRuntime H) (input : HandledFrame) :
    (step runtime (.frame input) = runtime.tick ∧
      ∀ command, appliedCommand runtime input = some command → command.op = .status) ∨
    ∃ command call next, Calls runtime input command call next ∧
      ((∃ readback hardware, call.perform runtime.hardware = .ok readback hardware ∧
        step runtime (.frame input) =
          { runtime.tick with hardware := hardware, configState := next } ∧
        appliedCommand runtime input = some command) ∨
      ∃ abort hardware, call.perform runtime.hardware = .error abort hardware ∧
        step runtime (.frame input) = { runtime.tick with hardware := hardware } ∧
        appliedCommand runtime input = none) := by
  simp only [step, final]
  cases hdecode : RpuWireCommand.decode input.bytes.toList with
  | error err =>
    have hreply : RpuRuntime.handleFrame input.bytes runtime = _ :=
      RpuRuntime.handleFrame_of_error hdecode
    refine Or.inl ⟨by rw [hreply], fun command happlied ↦ ?_⟩
    simp [appliedCommand, hdecode] at happlied
  | ok command =>
    by_cases hstatus : command.op = .status
    · have hreply : RpuRuntime.handleFrame input.bytes runtime = _ :=
        RpuRuntime.handleFrame_of_status hdecode hstatus
      refine Or.inl ⟨by rw [hreply], fun command' happlied ↦ ?_⟩
      rw [appliedCommand_of_answer hdecode hreply] at happlied
      split at happlied
      · cases happlied
        exact hstatus
      · cases happlied
    · cases hready : runtime.interlock.readyForAfe with
      | false =>
        have hreply := RpuRuntime.handleFrame_of_interlocked hdecode hstatus hready
        refine Or.inl ⟨by rw [hreply], fun command' happlied ↦ ?_⟩
        rw [appliedCommand_of_answer hdecode hreply] at happlied
        cases happlied
      | true =>
        have hreply := RpuRuntime.handleFrame_of_ready hdecode hstatus hready
        cases hdispatch : dispatch command runtime.configState with
        | none =>
          rw [hdispatch] at hreply
          refine Or.inl ⟨by rw [hreply], fun command' happlied ↦ ?_⟩
          rw [appliedCommand_of_answer hdecode hreply] at happlied
          cases happlied
        | some pair =>
          obtain ⟨call, next⟩ := pair
          rw [hdispatch] at hreply
          refine Or.inr ⟨command, call, next, ⟨hready, hdecode, hstatus, hdispatch⟩, ?_⟩
          dsimp only at hreply
          cases hperform : call.perform runtime.hardware with
          | ok readback hardware =>
            rw [hperform] at hreply
            refine Or.inl ⟨readback, hardware, rfl, by rw [hreply], ?_⟩
            rw [appliedCommand_of_answer hdecode hreply]
            rfl
          | error abort hardware =>
            rw [hperform] at hreply
            refine Or.inr ⟨abort, hardware, rfl, ?_⟩
            cases abort with
            | error e =>
              refine ⟨by rw [hreply], ?_⟩
              rw [appliedCommand_of_answer hdecode hreply]
              rfl
            | panic =>
              refine ⟨by rw [hreply], ?_⟩
              simp [appliedCommand, hdecode, hreply]

end DaphneSc.Rpu.Runtime
