import DaphneSc.Core.RpuWireAccepts

/-!
# Commands and their frames

The frame of a command determines the command: the operation code gives its constructor, and the
fields that constructor uses give its arguments, the identifiers by their board position or channel
number. Function names are carried byte for byte, behind their length.
-/

namespace DaphneSc.Core.RpuWire

open Afe Bytes

/-! ## Function names -/

/-- The bytes of a name that was set, behind its length. -/
theorem length_toUTF8 (name : String) : name.toUTF8.data.toList.length = name.utf8ByteSize := by
  simp

theorem setFunctionName_eq_ok_iff {payload after : Payload} {name : String} :
    setFunctionName payload name = .ok after ↔
      (1 ≤ name.utf8ByteSize ∧ name.utf8ByteSize ≤ 31) ∧
        after = put (payload.set 0 (UInt8.ofNat name.utf8ByteSize)) 1 name.toUTF8.data.toList := by
  unfold setFunctionName
  simp only [length_toUTF8, List.isEmpty_iff_length_eq_zero]
  split
  · rename_i hempty
    constructor
    · intro h
      cases h
    · rintro ⟨⟨hpositive, -⟩, -⟩
      omega
  · rename_i hempty
    split
    · rename_i hlong
      constructor
      · intro h
        cases h
      · rintro ⟨⟨-, hshort⟩, -⟩
        exact absurd hshort (Nat.not_le.mpr hlong)
    · rename_i hshort
      constructor
      · intro h
        cases h
        exact ⟨⟨Nat.one_le_iff_ne_zero.mpr hempty, Nat.not_lt.mp hshort⟩, rfl⟩
      · rintro ⟨-, rfl⟩
        rfl

theorem fromUTF8?_toUTF8 (name : String) :
    String.fromUTF8? name.toUTF8.data.toList.toByteArray = some name := by
  have hbytes : name.toUTF8.data.toList.toByteArray = name.toByteArray := by
    apply ByteArray.ext
    rw [List.data_toByteArray, Array.toArray_toList, String.toUTF8_eq_toByteArray]
  rw [hbytes, String.fromUTF8?, dif_pos name.isValidUTF8]
  rfl

theorem functionName_of_set {payload after : Payload} {name : String}
    (h : setFunctionName payload name = .ok after) {frame : RpuWireCommand}
    (hop : frame.op = .writeFunction) (hpayload : frame.payload = after) :
    frame.functionName = .ok name := by
  obtain ⟨⟨hpositive, hshort⟩, rfl⟩ := setFunctionName_eq_ok_iff.mp h
  have hlength : frame.payload[0].toNat = name.utf8ByteSize := by
    simp only [hpayload, put, Vector.getElem_mapIdx, Vector.getElem_set]
    simp
    omega
  have hslice : slice frame.payload.toList 1 name.utf8ByteSize = name.toUTF8.data.toList := by
    rw [hpayload, ← length_toUTF8]
    apply slice_put_self
    rw [length_toUTF8]
    exact Nat.add_le_add_left hshort 1
  have hrange : ¬ (name.utf8ByteSize = 0 ∨ name.utf8ByteSize > rpuWireFunctionNameMax) := by
    change ¬ (name.utf8ByteSize = 0 ∨ name.utf8ByteSize > 31)
    omega
  unfold RpuWireCommand.functionName
  rw [hop, hlength]
  dsimp only
  rw [if_neg hrange, hslice, fromUTF8?_toUTF8]
  rfl

namespace RpuWireCommand

/-! ## Reading a command back -/

def afeOf (frame : RpuWireCommand) : Option AfeId := (AfeId.fromBoard frame.afeBoard).toOption

def channelTargetOf (frame : RpuWireCommand) : Option ChannelTarget :=
  match frame.target with
  | .none => none
  | .afe => frame.afeOf.map .afe
  | .channel => (ChannelId.new frame.channel).toOption.map .one
  | .all => some .all

/-- The command of a frame; the frames of a configuration have none. -/
def commandOf (frame : RpuWireCommand) : Option AfeCommand :=
  let value := frame.value.toUInt16
  let flag := frame.flags != 0
  match frame.op with
  | .readRegister => frame.afeOf.map (.readRegister · frame.register.toUInt8)
  | .writeRegister => frame.afeOf.map (.writeRegister · frame.register.toUInt8 value)
  | .readAttenuation => frame.afeOf.map .readAttenuation
  | .setAttenuation => frame.afeOf.map (.setAttenuation · value)
  | .readBias => frame.afeOf.map .readBias
  | .setBias => frame.afeOf.map (.setBias · value)
  | .readTrim => frame.channelTargetOf.map .readTrim
  | .setTrim => frame.channelTargetOf.map (.setTrim · value flag)
  | .readOffset => frame.channelTargetOf.map .readOffset
  | .setOffset => frame.channelTargetOf.map (.setOffset · value flag)
  | .readVbiasControl => some .readVbiasControl
  | .setVbiasControl => some (.setVbiasControl value flag)
  | .setReset => some (.setReset flag)
  | .doReset => some .doReset
  | .setPowerState => some (.setPowerState flag)
  | .align => some .align
  | .writeFunction => do
    let afe ← frame.afeOf
    let name ← frame.functionName.toOption
    some (.writeFunction afe name value)
  | .readAlignment => frame.afeOf.map .readAlignment
  | .status | .beginConfigureFrontend | .configureAfe | .configureChannel
  | .applyConfigureFrontend => none

theorem afeOf_eq (frame : RpuWireCommand) (afe : AfeId) (h : frame.afeBoard = afe.board) :
    frame.afeOf = some afe := by
  have hafe : AfeId.fromBoard frame.afeBoard = .ok afe := AfeId.fromBoard_eq_ok_iff.mpr h.symm
  rw [afeOf, hafe]
  rfl

theorem channelTargetOf_eq {frame : RpuWireCommand} (wire : RpuWireCommand) {target : ChannelTarget}
    (htarget : frame.target = (wire.setChannelTarget target).target)
    (hboard : frame.afeBoard = (wire.setChannelTarget target).afeBoard)
    (hchannel : frame.channel = (wire.setChannelTarget target).channel) :
    frame.channelTargetOf = some target := by
  unfold channelTargetOf
  rw [htarget]
  cases target with
  | one channel =>
    have hnew : ChannelId.new frame.channel = .ok channel :=
      ChannelId.new_eq_ok_iff.mpr hchannel.symm
    change (ChannelId.new frame.channel).toOption.map _ = _
    rw [hnew]
    rfl
  | afe afe =>
    change frame.afeOf.map _ = _
    rw [afeOf_eq frame afe hboard]
    rfl
  | all => rfl

theorem toUInt32_ne_zero (flag : Bool) : (flag.toUInt32 != 0) = flag := by
  cases flag <;> rfl

theorem fromAfeCommand_writeFunction {sequence : UInt64} {afe : AfeId} {name : String}
    {value : UInt16} {frame : RpuWireCommand} :
    fromAfeCommand sequence (.writeFunction afe name value) = .ok frame ↔
      ∃ payload, setFunctionName (status sequence).payload name = .ok payload ∧
        frame = { (status sequence).setAfe afe with
          op := .writeFunction, value := value.toUInt32, payload := payload } := by
  unfold fromAfeCommand
  cases hset : setFunctionName (status sequence).payload name with
  | error err => simp [hset, bind, Except.bind]
  | ok payload => simp [hset, bind, Except.bind, pure, Except.pure, eq_comm]

/-- A command is read back from its frame. -/
theorem commandOf_fromAfeCommand {sequence : UInt64} {command : AfeCommand} {frame : RpuWireCommand}
    (h : fromAfeCommand sequence command = .ok frame) : frame.commandOf = some command := by
  cases command with
  | configureFrontend afes channels biasControl => cases h
  | writeFunction afe name value =>
    obtain ⟨payload, hset, rfl⟩ := fromAfeCommand_writeFunction.mp h
    unfold commandOf
    dsimp only
    rw [afeOf_eq _ afe rfl, functionName_of_set hset rfl rfl]
    simp [Except.toOption]
  | readRegister afe register | writeRegister afe register value =>
    cases h
    simp only [commandOf]
    rw [afeOf_eq _ afe rfl]
    simp
  | readAttenuation afe | readBias afe | readAlignment afe | setAttenuation afe value
  | setBias afe value =>
    cases h
    simp only [commandOf]
    rw [afeOf_eq _ afe rfl]
    simp
  | readTrim target | readOffset target | setTrim target value gain | setOffset target value gain =>
    cases h
    simp only [commandOf, Option.map_eq_some_iff]
    exact ⟨target, channelTargetOf_eq (status sequence) rfl rfl rfl, by simp [toUInt32_ne_zero]⟩
  | readVbiasControl | doReset | align =>
    cases h
    rfl
  | setVbiasControl value enable =>
    cases h
    simp [commandOf, toUInt32_ne_zero]
  | setReset flag | setPowerState flag =>
    cases h
    simp [commandOf, toUInt32_ne_zero]

theorem sequence_setChannelTarget (wire : RpuWireCommand) (target : ChannelTarget) :
    (wire.setChannelTarget target).sequence = wire.sequence := by
  cases target <;> rfl

theorem sequence_fromAfeCommand {sequence : UInt64} {command : AfeCommand} {frame : RpuWireCommand}
    (h : fromAfeCommand sequence command = .ok frame) :
    frame.sequence = sequence := by
  cases command
  case configureFrontend => cases h
  case writeFunction afe name value =>
    obtain ⟨payload, -, rfl⟩ := fromAfeCommand_writeFunction.mp h
    rfl
  all_goals
    cases h
    first
      | rfl
      | exact sequence_setChannelTarget _ _

theorem exists_error_iff {ε α : Type} {result : Except ε α} :
    (∃ err, result = .error err) ↔ ∀ a, result ≠ .ok a := by
  cases result <;> simp

/-- Only function names can make a command fail to be built. -/
theorem fromAfeCommand_error_iff {sequence : UInt64} {command : AfeCommand}
    (hconfigure : ∀ afes channels biasControl,
      command ≠ .configureFrontend afes channels biasControl) :
    (∃ err, fromAfeCommand sequence command = .error err) ↔
      ∃ afe name value, command = .writeFunction afe name value ∧
        (name.utf8ByteSize = 0 ∨ 31 < name.utf8ByteSize) := by
  cases command
  case configureFrontend afes channels biasControl =>
    exact absurd rfl (hconfigure afes channels biasControl)
  case writeFunction afe name value =>
    rw [exists_error_iff]
    simp only [ne_eq, fromAfeCommand_writeFunction, setFunctionName_eq_ok_iff]
    constructor
    · intro hnone
      refine ⟨afe, name, value, rfl, ?_⟩
      by_contra hsize
      exact hnone _ ⟨_, ⟨by omega, rfl⟩, rfl⟩
    · rintro ⟨_, _, _, heq, hsize⟩ frame ⟨payload, ⟨hbounds, -⟩, -⟩
      cases heq
      omega
  all_goals simp [fromAfeCommand]

end RpuWireCommand

/-- A command is determined by the bytes of its frame, and so is its sequence number. A function
name is read back exactly, and only a name that is empty or longer than 31 bytes makes a command
fail. -/
theorem command_determined :
    (∀ sequence command frame, RpuWireCommand.fromAfeCommand sequence command = .ok frame →
      ∃ decoded, RpuWireCommand.decode frame.encode.toList = .ok decoded ∧
        decoded.sequence = sequence ∧ decoded.commandOf = some command) ∧
    (∀ sequence sequence' command command' frame frame',
      RpuWireCommand.fromAfeCommand sequence command = .ok frame →
      RpuWireCommand.fromAfeCommand sequence' command' = .ok frame' →
      frame.encode = frame'.encode → sequence = sequence' ∧ command = command') ∧
    (∀ sequence afe name value frame,
      RpuWireCommand.fromAfeCommand sequence (.writeFunction afe name value) = .ok frame →
      (RpuWireCommand.decode frame.encode.toList >>= RpuWireCommand.functionName) = .ok name) ∧
    ∀ sequence command, (∀ afes channels biasControl,
      command ≠ .configureFrontend afes channels biasControl) →
      ((∃ err, RpuWireCommand.fromAfeCommand sequence command = .error err) ↔
        ∃ afe name value, command = .writeFunction afe name value ∧
          (name.utf8ByteSize = 0 ∨ 31 < name.utf8ByteSize)) := by
  have hrecover : ∀ sequence command frame,
      RpuWireCommand.fromAfeCommand sequence command = .ok frame →
      ∃ decoded, RpuWireCommand.decode frame.encode.toList = .ok decoded ∧
        decoded.sequence = sequence ∧ decoded.commandOf = some command :=
    fun _ _ frame h ↦ ⟨frame, RpuWireCommand.decode_encode frame,
      RpuWireCommand.sequence_fromAfeCommand h, RpuWireCommand.commandOf_fromAfeCommand h⟩
  refine ⟨hrecover, ?_, ?_, fun _ _ ↦ RpuWireCommand.fromAfeCommand_error_iff⟩
  · intro sequence sequence' command command' frame frame' h h' hbytes
    obtain ⟨decoded, hdecoded, rfl, hcommand⟩ := hrecover _ _ _ h
    obtain ⟨decoded', hdecoded', rfl, hcommand'⟩ := hrecover _ _ _ h'
    rw [hbytes, hdecoded'] at hdecoded
    cases hdecoded
    exact ⟨rfl, Option.some.inj (hcommand.symm.trans hcommand')⟩
  · intro sequence afe name value frame h
    obtain ⟨payload, hset, rfl⟩ := RpuWireCommand.fromAfeCommand_writeFunction.mp h
    rw [RpuWireCommand.decode_encode]
    simp only [bind, Except.bind]
    apply functionName_of_set hset <;> rfl

end DaphneSc.Core.RpuWire
