import DaphneSc.Rpu.Runtime
import DaphneSc.Slots.Basic

/-!
# The memory-mapped AFE backend

The backend drives the front ends through 32-bit registers. The DACs cannot be read, so it keeps
what it last sent: attenuation, bias, the bias control, and the half words of every trim and offset
channel. The records of a configuration sequence are staged until they are applied together.
-/

namespace DaphneSc.Rpu.Mmio

open Core.Afe Core.AfeHw Core.AfeFunctions Core.RpuWire Rpu.Runtime Program Slots

def defaultSpinLimit : UInt32 := 100000
def dacGoBit : UInt8 := 1
def dacBusyBit : UInt8 := 0
def dac12bitMax : UInt32 := 0x0FFF

/-- Access to the register window. -/
class RegisterIo (I : Type) (ε : outParam Type) where
  read32 (offset : UInt32) : Prog ε I UInt32
  write32 (offset value : UInt32) : Prog ε I Unit

/-- A register window that reads as zero and takes every write. -/
structure ZeroIo where
  deriving DecidableEq

instance : RegisterIo ZeroIo Empty where
  read32 _ := pure 0
  write32 _ _ := pure ()

structure MmioAfeConfig where
  spinLimit : UInt32
  deriving DecidableEq, Repr

def MmioAfeConfig.default : MmioAfeConfig := ⟨defaultSpinLimit⟩

inductive MmioAfeError (ε : Type) where
  | io (e : ε)
  | invalidAfe (afe : UInt8)
  | invalidChannel (channel : UInt8)
  | invalidValue (value : UInt32)
  | invalidFunction
  | invalidFunctionField
  | alignmentFailed
  | timeout
  | unsupported
  deriving DecidableEq, Repr

/-! ## Checks -/

section Checks

variable {ε : Type}

def validateAfe (afePl : UInt8) : Except (MmioAfeError ε) Unit :=
  if afePl.toNat < afeCount then .ok () else .error (.invalidAfe afePl)

def requireU16 (value : UInt32) : Except (MmioAfeError ε) UInt16 :=
  match u16TryFrom value with
  | some value => .ok value
  | none => .error (.invalidValue value)

def require12bit (value : UInt32) : Except (MmioAfeError ε) UInt16 :=
  if value ≤ dac12bitMax then .ok value.toUInt16 else .error (.invalidValue value)

theorem require12bit_eq_ok_iff {value : UInt32} {value12 : UInt16} :
    (require12bit value : Except (MmioAfeError ε) UInt16) = .ok value12 ↔
      value.toNat < 4096 ∧ value12 = value.toUInt16 := by
  have hle : value ≤ dac12bitMax ↔ value.toNat < 4096 := by
    rw [UInt32.le_iff_toNat_le]
    exact Nat.lt_succ_iff.symm
  unfold require12bit
  by_cases h : value ≤ dac12bitMax
  · rw [if_pos h, Except.ok.injEq]
    exact ⟨fun heq ↦ ⟨hle.mp h, heq.symm⟩, fun heq ↦ heq.2.symm⟩
  · rw [if_neg h]
    exact ⟨nofun, fun hlt ↦ absurd (hle.mpr hlt.1) h⟩

def functionError (err : AfeFunctionError) (value : UInt16) : MmioAfeError ε :=
  match err with
  | .unknownName => .invalidFunction
  | .invalidValue => .invalidValue value.toUInt32
  | .invalidBitField => .invalidFunctionField

end Checks

def bit (value : UInt32) (bitIndex : UInt8) : UInt32 :=
  (value >>> bitIndex.toUInt32) &&& 1

def bits (value : UInt32) (start «end» : UInt8) : UInt32 :=
  let width := «end» - start + 1
  (value >>> start.toUInt32) &&& (((1 : UInt32) <<< width.toUInt32) - 1)

/-! ## Bits under their run-time checks -/

namespace Checked

variable {ε σ : Type}

def bit (value : UInt32) (bitIndex : UInt8) : Prog ε σ UInt32 := do
  let shifted ← checkedShr value bitIndex.toUInt32
  return shifted &&& 1

def bits (value : UInt32) (start «end» : UInt8) : Prog ε σ UInt32 := do
  let difference ← checkedSub «end» start
  let width ← checkedAdd difference 1
  let shifted ← checkedShr value start.toUInt32
  let bound ← checkedShl (1 : UInt32) width.toUInt32
  let ones ← checkedSub bound 1
  return shifted &&& ones

theorem bit_eq (value : UInt32) {bitIndex : UInt8} (h : bitIndex.toNat < 32) :
    (bit value bitIndex : Prog ε σ UInt32) = pure (Mmio.bit value bitIndex) := by
  have hshift : bitIndex.toUInt32.toNat < 32 := by rwa [UInt8.toNat_toUInt32]
  rw [bit, checkedShr_of_lt _ _ hshift, pure_bind, Mmio.bit]

theorem bits_eq (value : UInt32) {start «end» : UInt8} (hle : start ≤ «end»)
    (hend : «end».toNat < 31) :
    (bits value start «end» : Prog ε σ UInt32) = pure (Mmio.bits value start «end») := by
  have horder : start.toNat ≤ «end».toNat := UInt8.le_iff_toNat_le.mp hle
  have hdifference : («end» - start).toNat = «end».toNat - start.toNat :=
    UInt8.toNat_sub_of_le _ _ hle
  have hadd : («end» - start).toNat + 1 < 2 ^ 8 := by omega
  have hwidth : («end» - start + 1).toNat = «end».toNat - start.toNat + 1 := by
    rw [UInt8.toNat_add, hdifference]
    exact Nat.mod_eq_of_lt (by change _ + 1 < 256; omega)
  have hstart : start.toUInt32.toNat < 32 := by
    rw [UInt8.toNat_toUInt32]
    omega
  have hshift : («end» - start + 1).toUInt32.toNat < 32 := by
    rw [UInt8.toNat_toUInt32, hwidth]
    omega
  rw [bits, checkedSub_of_le _ _ horder, pure_bind, checkedAdd_of_lt _ _ hadd, pure_bind,
    checkedShr_of_lt _ _ hstart, pure_bind, checkedShl_of_lt _ _ hshift, pure_bind,
    checkedSub_of_le _ _ (Core.Checked.one_le_shiftLeft hshift), pure_bind, Mmio.bits]

end Checked

/-! ## State -/

structure StagedConfig where
  active : Bool
  counts : RpuWireConfigCounts
  afes : Vector (Option RpuWireAfeConfig) afeCount
  channels : Vector (Option RpuWireChannelConfig) channelCount
  deriving DecidableEq

namespace StagedConfig

def new (counts : RpuWireConfigCounts) : StagedConfig where
  active := true
  counts := counts
  afes := Vector.replicate _ none
  channels := Vector.replicate _ none

def default : StagedConfig where
  active := false
  counts := ⟨0, 0, 0⟩
  afes := Vector.replicate _ none
  channels := Vector.replicate _ none

def receivedAfes (staged : StagedConfig) : UInt16 := UInt16.ofNat (filled staged.afes).length

def receivedChannels (staged : StagedConfig) : UInt16 :=
  UInt16.ofNat (filled staged.channels).length

def validateCounts {ε : Type} (staged : StagedConfig) : Except (MmioAfeError ε) Unit :=
  if staged.receivedAfes = staged.counts.afeCount ∧
      staged.receivedChannels = staged.counts.channelCount then
    .ok ()
  else
    .error .unsupported

theorem validateCounts_eq_ok_iff {ε : Type} {staged : StagedConfig} :
    (staged.validateCounts : Except (MmioAfeError ε) Unit) = .ok () ↔
      staged.receivedAfes = staged.counts.afeCount ∧
      staged.receivedChannels = staged.counts.channelCount := by
  simp [validateCounts]

end StagedConfig

/-- The half words of all channels of all AFEs. -/
abbrev Halves := Vector (Vector UInt16 channelsPerAfe) afeCount

structure AfeMmioBackend (I : Type) where
  io : I
  config : MmioAfeConfig
  attenuation : Vector UInt16 afeCount
  bias : Vector UInt16 afeCount
  trimHalves : Halves
  offsetHalves : Halves
  vbiasControl : UInt16
  vbiasEnabled : Bool
  stagedConfig : StagedConfig
  deriving DecidableEq

namespace AfeMmioBackend

variable {I ε α : Type}

def withConfig (io : I) (config : MmioAfeConfig) : AfeMmioBackend I where
  io := io
  config := config
  attenuation := Vector.replicate _ 0
  bias := Vector.replicate _ 0
  trimHalves := Vector.replicate _ (Vector.replicate _ 0)
  offsetHalves := Vector.replicate _ (Vector.replicate _ 0)
  vbiasControl := 0
  vbiasEnabled := false
  stagedConfig := .default

def new (io : I) : AfeMmioBackend I := withConfig io .default

def ioLens : Lens (AfeMmioBackend I) I where
  view := io
  update io backend := { backend with io := io }
  view_update _ _ := rfl

/-- Programs of the backend. -/
abbrev BackendProg (I ε α : Type) := Prog (MmioAfeError ε) (AfeMmioBackend I) α

/-- The numbers below a small bound, as the source's ranges of `u8`. -/
def upTo (n : ℕ) : List UInt8 := (List.range n).map UInt8.ofNat

variable [RegisterIo I ε]

def read (offset : UInt32) : BackendProg I ε UInt32 :=
  mapError .io (zoom ioLens (RegisterIo.read32 offset))

def write (offset value : UInt32) : BackendProg I ε Unit :=
  mapError .io (zoom ioLens (RegisterIo.write32 offset value))

/-! ## Waiting -/

/-- Read a register until its value is accepted, at most `limit` times. -/
def pollWith (offset : UInt32) (accept : UInt32 → BackendProg I ε Bool) : ℕ → BackendProg I ε Unit
  | 0 => fail .timeout
  | limit + 1 => do
    let value ← read offset
    if ← accept value then return () else pollWith offset accept limit

/-- A poll whose test makes no check of its own. -/
def poll (offset : UInt32) (accept : UInt32 → Bool) : ℕ → BackendProg I ε Unit :=
  pollWith offset fun value ↦ pure (accept value)

theorem poll_succ (offset : UInt32) (accept : UInt32 → Bool) (limit : ℕ) :
    (poll offset accept (limit + 1) : BackendProg I ε Unit) =
      read offset >>= fun value ↦ if accept value then pure () else poll offset accept limit :=
  rfl

def waitAfeReady : BackendProg I ε Unit := do
  let backend ← get
  pollWith afeGlobalControlOffset
    (fun value ↦ do
      let busy ← Checked.bits value afeGlobalBusyBitsStart afeGlobalBusyBitsEnd
      return busy == 0)
    backend.config.spinLimit.toNat

def waitDacReady : BackendProg I ε Unit := do
  let backend ← get
  pollWith dacGainBiasControlOffset
    (fun value ↦ do
      let busy ← Checked.bit value dacBusyBit
      return busy == 0)
    backend.config.spinLimit.toNat

def waitFrontendDelayctrlReady : BackendProg I ε Unit := do
  let backend ← get
  pollWith frontendStatusOffset
    (fun value ↦ do
      let ready ← Checked.bit value frontendDelayctrlReadyBit
      return ready != 0)
    backend.config.spinLimit.toNat

theorem waitAfeReady_eq : (waitAfeReady : BackendProg I ε Unit) = get >>= fun backend ↦
    poll afeGlobalControlOffset
      (fun value ↦ bits value afeGlobalBusyBitsStart afeGlobalBusyBitsEnd == 0)
      backend.config.spinLimit.toNat := by
  unfold waitAfeReady poll
  simp only [Checked.bits_eq _ (show afeGlobalBusyBitsStart ≤ afeGlobalBusyBitsEnd by decide)
    (by decide), pure_bind]

theorem waitDacReady_eq : (waitDacReady : BackendProg I ε Unit) = get >>= fun backend ↦
    poll dacGainBiasControlOffset (fun value ↦ bit value dacBusyBit == 0)
      backend.config.spinLimit.toNat := by
  unfold waitDacReady poll
  simp only [Checked.bit_eq _ (show dacBusyBit.toNat < 32 by decide), pure_bind]

theorem waitFrontendDelayctrlReady_eq :
    (waitFrontendDelayctrlReady : BackendProg I ε Unit) = get >>= fun backend ↦
      poll frontendStatusOffset (fun value ↦ bit value frontendDelayctrlReadyBit != 0)
        backend.config.spinLimit.toNat := by
  unfold waitFrontendDelayctrlReady poll
  simp only [Checked.bit_eq _ (show frontendDelayctrlReadyBit.toNat < 32 by decide), pure_bind]

/-! ## Control bits and DAC routes -/

def setBit (offset : UInt32) (bitIndex : UInt8) (asserted : Bool) : BackendProg I ε Unit := do
  let value ← read offset
  let mask ← checkedShl (1 : UInt32) bitIndex.toUInt32
  write offset (if asserted then value ||| mask else value &&& ~~~mask)

theorem setBit_eq (offset : UInt32) {bitIndex : UInt8} (h : bitIndex.toNat < 32)
    (asserted : Bool) : (setBit offset bitIndex asserted : BackendProg I ε Unit) =
      read offset >>= fun value ↦
        write offset (if asserted then value ||| (1 : UInt32) <<< bitIndex.toUInt32
          else value &&& ~~~((1 : UInt32) <<< bitIndex.toUInt32)) := by
  have hshift : bitIndex.toUInt32.toNat < 32 := by rwa [UInt8.toNat_toUInt32]
  unfold setBit
  simp only [checkedShl_of_lt (1 : UInt32) _ hshift, pure_bind]

def triggerDac : BackendProg I ε Unit := do
  waitDacReady
  setBit dacGainBiasControlOffset dacGoBit true
  waitDacReady
  setBit dacGainBiasControlOffset dacGoBit false
  waitDacReady

def writeDacRoute (route : DacRoute) (value : UInt16) : BackendProg I ε Unit := do
  waitDacReady
  write (dacGainBiasOffset route.chip) (dacGainBiasWord route value)
  triggerDac

/-! ## Trim and offset channels -/

/-- The register an operation writes. -/
def trimOrOffsetRegister (op : RpuWireOp) (afePl : UInt8) : BackendProg I ε UInt32 :=
  match op with
  | .setTrim => do
    let offset ← Core.Checked.afeDacTrimOffset afePl
    okOr offset (.invalidAfe afePl)
  | .setOffset => do
    let offset ← Core.Checked.afeDacOffsetOffset afePl
    okOr offset (.invalidAfe afePl)
  | _ => fail .unsupported

omit [RegisterIo I ε] in
theorem trimOrOffsetRegister_eq (op : RpuWireOp) (afePl : UInt8) :
    (trimOrOffsetRegister op afePl : BackendProg I ε UInt32) = match op with
      | .setTrim => okOr (afeDacTrimOffset afePl) (.invalidAfe afePl)
      | .setOffset => okOr (afeDacOffsetOffset afePl) (.invalidAfe afePl)
      | _ => fail .unsupported := by
  unfold trimOrOffsetRegister
  simp only [Core.Checked.afeDacTrimOffset_eq, Core.Checked.afeDacOffsetOffset_eq, pure_bind]

/-- The cache an operation works on; no other operation gets here. -/
def writtenHalves (op : RpuWireOp) (backend : AfeMmioBackend I) : BackendProg I ε Halves :=
  match op with
  | .setTrim => pure backend.trimHalves
  | .setOffset => pure backend.offsetHalves
  | _ => stop

def storeHalves (op : RpuWireOp) (cache : Halves) (backend : AfeMmioBackend I) :
    AfeMmioBackend I :=
  match op with
  | .setTrim => { backend with trimHalves := cache }
  | _ => { backend with offsetHalves := cache }

/-- The word for a channel's register, with the companion's half as it was last sent. -/
def channelWord (afeChannel : UInt8) (half companionHalf : UInt16) : UInt32 :=
  if dacChannelIsHighHalf afeChannel then
    dacPairWord companionHalf half
  else
    dacPairWord half companionHalf

/-- The other channel of the register that a channel is written with. -/
def companionChannel (afeChannel : UInt8) : BackendProg I ε UInt8 := do
  let companion ← Core.Checked.dacCompanionChannel afeChannel
  okOr companion (.invalidChannel afeChannel)

omit [RegisterIo I ε] in
theorem companionChannel_eq (afeChannel : UInt8) :
    (companionChannel afeChannel : BackendProg I ε UInt8) =
      okOr (dacCompanionChannel afeChannel) (.invalidChannel afeChannel) := by
  rw [companionChannel, Core.Checked.dacCompanionChannel_eq, pure_bind]

def writeTrimOrOffsetChannel (op : RpuWireOp) (afePl afeChannel : UInt8) (value : UInt16)
    (gain : Bool) : BackendProg I ε Unit := do
  let offset ← trimOrOffsetRegister op afePl
  let companion ← companionChannel afeChannel
  let half := dacTrimOffsetHalf afeChannel value gain false
  let backend ← get
  let cache ← writtenHalves op backend
  let halves ← index cache afePl.toNat
  let halves ← setAt halves afeChannel.toNat half
  let cache ← setAt cache afePl.toNat halves
  modify (storeHalves op cache)
  let companionHalf ← index halves companion.toNat
  let word := channelWord afeChannel half companionHalf
  waitAfeReady
  write offset word
  waitAfeReady

/-- The half words of one AFE an operation reads. -/
def readHalves (op : RpuWireOp) (afePl : UInt8) (backend : AfeMmioBackend I) :
    BackendProg I ε (Vector UInt16 channelsPerAfe) :=
  match op with
  | .readTrim => index backend.trimHalves afePl.toNat
  | .readOffset => index backend.offsetHalves afePl.toNat
  | _ => fail .unsupported

def readTrimOrOffsetChannel (op : RpuWireOp) (afePl afeChannel : UInt8) :
    BackendProg I ε UInt32 := do
  ofResult (validateAfe afePl)
  failIf (afeChannel.toNat ≥ channelsPerAfe) (.invalidChannel afeChannel)
  let backend ← get
  let halves ← readHalves op afePl backend
  let half ← index halves afeChannel.toNat
  return (half &&& 0x0FFF).toUInt32

/-! ## AFE registers and functions -/

def controlRegister (afePl : UInt8) : BackendProg I ε UInt32 := do
  let offset ← Core.Checked.afeControlOffset afePl
  okOr offset (.invalidAfe afePl)

omit [RegisterIo I ε] in
theorem controlRegister_eq (afePl : UInt8) : (controlRegister afePl : BackendProg I ε UInt32) =
    okOr (afeControlOffset afePl) (.invalidAfe afePl) := by
  rw [controlRegister, Core.Checked.afeControlOffset_eq, pure_bind]

def readRegister (afePl : UInt8) (register : UInt16) : BackendProg I ε UInt32 := do
  let offset ← controlRegister afePl
  waitAfeReady
  write offset afeSpiTriggerWord
  waitAfeReady
  write offset (afeRegisterAddressWord register)
  waitAfeReady
  let value ← read offset
  write offset afeSpiIdleWord
  return value &&& 0xFFFF

def writeRegister (afePl : UInt8) (register : UInt16) (value : UInt32) :
    BackendProg I ε UInt32 := do
  let value ← ofResult (requireU16 value)
  let offset ← controlRegister afePl
  waitAfeReady
  write offset (afeRegisterWord register value)
  waitAfeReady
  write offset afeSpiTriggerWord
  waitAfeReady
  write offset (afeRegisterAddressWord register)
  waitAfeReady
  let readback ← read offset
  write offset afeSpiIdleWord
  return readback &&& 0xFFFF

/-- A result of the function table, with its errors translated for this value. -/
def orFunctionError (result : Except AfeFunctionError α) (value : UInt16) : BackendProg I ε α :=
  ofResult (result.mapError fun err ↦ functionError err value)

/-- The same of a computation that makes run-time checks. -/
def withFunctionError (m : Prog AfeFunctionError (AfeMmioBackend I) α) (value : UInt16) :
    BackendProg I ε α :=
  mapError (fun err ↦ functionError err value) m

omit [RegisterIo I ε] in
theorem withFunctionError_ofResult (result : Except AfeFunctionError α) (value : UInt16) :
    (withFunctionError (ofResult result) value : BackendProg I ε α) =
      orFunctionError result value := mapError_ofResult _ _

def writeAfeFunction (afePl : UInt8) (name : String) (value : UInt16) : BackendProg I ε UInt32 := do
  ofResult (validateAfe afePl)
  let spec ← orFunctionError (validateAfeFunctionValue name value) value
  let _ ← withFunctionError (Core.Checked.mask spec.field) value
  let current ← readRegister afePl spec.field.register
  let updated ← withFunctionError
    (Core.Checked.replaceAfeFunctionBits current.toUInt16 spec.field value) value
  let _ ← writeRegister afePl spec.field.register updated.toUInt32
  let readback ← readRegister afePl spec.field.register
  let extracted ← withFunctionError
    (Core.Checked.extractAfeFunctionBits readback.toUInt16 spec.field) value
  return extracted.toUInt32

theorem writeAfeFunction_eq (afePl : UInt8) (name : String) (value : UInt16) :
    (writeAfeFunction afePl name value : BackendProg I ε UInt32) = do
      ofResult (validateAfe afePl)
      let spec ← orFunctionError (validateAfeFunctionValue name value) value
      let _ ← orFunctionError spec.field.mask value
      let current ← readRegister afePl spec.field.register
      let updated ← orFunctionError
        (replaceAfeFunctionBits current.toUInt16 spec.field value) value
      let _ ← writeRegister afePl spec.field.register updated.toUInt32
      let readback ← readRegister afePl spec.field.register
      let extracted ← orFunctionError
        (extractAfeFunctionBits readback.toUInt16 spec.field) value
      return extracted.toUInt32 := by
  unfold writeAfeFunction
  simp only [Core.Checked.mask_eq, Core.Checked.replaceAfeFunctionBits_eq,
    Core.Checked.extractAfeFunctionBits_eq, withFunctionError_ofResult]

/-! ## Scalars -/

def readScalar (op : RpuWireOp) (afePl : UInt8) : BackendProg I ε UInt32 := do
  ofResult (validateAfe afePl)
  let backend ← get
  match op with
  | .readAttenuation => do
    let value ← index backend.attenuation afePl.toNat
    return value.toUInt32
  | .readBias => do
    let value ← index backend.bias afePl.toNat
    return value.toUInt32
  | _ => fail .unsupported

def cacheAttenuation (afePl : UInt8) (value : UInt16) : BackendProg I ε Unit := do
  let backend ← get
  let attenuation ← setAt backend.attenuation afePl.toNat value
  modify fun backend ↦ { backend with attenuation := attenuation }

def cacheBias (afePl : UInt8) (value : UInt16) : BackendProg I ε Unit := do
  let backend ← get
  let bias ← setAt backend.bias afePl.toNat value
  modify fun backend ↦ { backend with bias := bias }

def writeScalar (op : RpuWireOp) (afePl : UInt8) (value : UInt32) : BackendProg I ε UInt32 := do
  ofResult (validateAfe afePl)
  let value ← ofResult (require12bit value)
  match op with
  | .setAttenuation => do
    let route ← index afeGainDacRoutes afePl.toNat
    writeDacRoute route value
    cacheAttenuation afePl value
    return value.toUInt32
  | .setBias => do
    let route ← index afeBiasDacRoutes afePl.toNat
    writeDacRoute route value
    cacheBias afePl value
    return value.toUInt32
  | _ => fail .unsupported

def readChannelScalar (command : RpuWireCommand) : BackendProg I ε UInt32 := do
  failIf (command.target ≠ .channel) .unsupported
  readTrimOrOffsetChannel command.op command.afePl command.afeChannel

/-- Write a value to every channel a command addresses. -/
def writeTargets (command : RpuWireCommand) (value : UInt16) (gain : Bool) :
    BackendProg I ε Unit :=
  match command.target with
  | .channel => writeTrimOrOffsetChannel command.op command.afePl command.afeChannel value gain
  | .afe => do
    ofResult (validateAfe command.afePl)
    (upTo channelsPerAfe).forM fun afeChannel ↦
      writeTrimOrOffsetChannel command.op command.afePl afeChannel value gain
  | .all =>
    (upTo afeCount).forM fun afePl ↦
      (upTo channelsPerAfe).forM fun afeChannel ↦
        writeTrimOrOffsetChannel command.op afePl afeChannel value gain
  | .none => fail .unsupported

def writeChannelScalar (command : RpuWireCommand) : BackendProg I ε UInt32 := do
  let value ← ofResult (require12bit command.value)
  let gain := command.flags != 0
  writeTargets command value gain
  return value.toUInt32

def readVbiasControl : BackendProg I ε UInt32 := do
  let backend ← get
  return backend.vbiasControl.toUInt32

def writeVbiasControl (value : UInt32) (enable : Bool) : BackendProg I ε UInt32 := do
  let value ← ofResult (require12bit value)
  writeDacRoute vbiasDacRoute value
  write biasEnableOffset enable.toUInt32
  modify fun backend ↦ { backend with vbiasControl := value, vbiasEnabled := enable }
  return value.toUInt32

/-! ## Global control -/

def setReset (asserted : Bool) : BackendProg I ε Unit :=
  setBit afeGlobalControlOffset afeGlobalResetBit asserted

def doReset : BackendProg I ε Unit := do
  setReset true
  setReset false

def setPowerState (enabled : Bool) : BackendProg I ε Unit :=
  setBit afeGlobalControlOffset afeGlobalPowerstateBit enabled

/-! ## Front-end alignment -/

/-- The tap numbers below a count. It is irreducible, so that unification never unrolls a scan. -/
@[irreducible] def taps (count : UInt32) : List UInt32 := (List.range count.toNat).map UInt32.ofNat

def pulseFrontendControlBit (bitIndex : UInt8) : BackendProg I ε Unit := do
  setBit frontendControlOffset bitIndex true
  setBit frontendControlOffset bitIndex false

def setFrontendDelayVtc (enabled : Bool) : BackendProg I ε Unit :=
  setBit frontendControlOffset frontendDelayEnVtcBit enabled

def delayOffset (afeBoard : UInt8) : BackendProg I ε UInt32 := do
  let offset ← Core.Checked.frontendDelayOffset afeBoard
  okOr offset (.invalidAfe afeBoard)

def bitslipOffset (afeBoard : UInt8) : BackendProg I ε UInt32 := do
  let offset ← Core.Checked.frontendBitslipOffset afeBoard
  okOr offset (.invalidAfe afeBoard)

def frameClockOffset (afeBoard : UInt8) : BackendProg I ε UInt32 := do
  let offset ← Core.Checked.spyBufferFrameClockOffset afeBoard 0
  okOr offset (.invalidAfe afeBoard)

section Offsets

omit [RegisterIo I ε]

theorem delayOffset_eq (afeBoard : UInt8) : (delayOffset afeBoard : BackendProg I ε UInt32) =
    okOr (frontendDelayOffset afeBoard) (.invalidAfe afeBoard) := by
  rw [delayOffset, Core.Checked.frontendDelayOffset_eq, pure_bind]

theorem bitslipOffset_eq (afeBoard : UInt8) : (bitslipOffset afeBoard : BackendProg I ε UInt32) =
    okOr (frontendBitslipOffset afeBoard) (.invalidAfe afeBoard) := by
  rw [bitslipOffset, Core.Checked.frontendBitslipOffset_eq, pure_bind]

theorem frameClockOffset_eq (afeBoard : UInt8) :
    (frameClockOffset afeBoard : BackendProg I ε UInt32) =
      okOr (spyBufferFrameClockOffset afeBoard 0) (.invalidAfe afeBoard) := by
  rw [frameClockOffset, Core.Checked.spyBufferFrameClockOffset_eq, pure_bind]

end Offsets

def setFrontendDelay (afeBoard : UInt8) (value : UInt32) : BackendProg I ε Unit := do
  let offset ← delayOffset afeBoard
  failIf (value ≥ frontendDelayTaps) (.invalidValue value)
  write offset value

def setFrontendBitslip (afeBoard : UInt8) (value : UInt32) : BackendProg I ε Unit := do
  let offset ← bitslipOffset afeBoard
  failIf (value ≥ frontendBitslipTaps) (.invalidValue value)
  write offset value

def readFrontendBitslip (afeBoard : UInt8) : BackendProg I ε UInt32 := do
  let offset ← bitslipOffset afeBoard
  let value ← read offset
  return value &&& 0x0F

def resetFrontendDelayValues : BackendProg I ε Unit :=
  (upTo afeCount).forM fun afeBoard ↦ do
    setFrontendBitslip afeBoard 0
    setFrontendDelay afeBoard 0

def triggerFrontendSnapshot : BackendProg I ε Unit :=
  write frontendTriggerOffset frontendTriggerWord

def readFrameClock (afeBoard : UInt8) : BackendProg I ε UInt32 := do
  let offset ← frameClockOffset afeBoard
  read offset

def scanFrontendWordAfterWrite (afeBoard : UInt8) : BackendProg I ε UInt32 := do
  triggerFrontendSnapshot
  readFrameClock afeBoard

/-- The best run of equal words so far and the run in progress. -/
structure DelayScan where
  bestStart : UInt32
  bestLen : UInt32
  currentStart : UInt32
  currentLen : UInt32
  previousWord : UInt32
  havePrevious : Bool

namespace DelayScan

def start : DelayScan := ⟨0, 0, 0, 0, 0, false⟩

/-- Keep the run in progress as the best one if it is longer. -/
def keepBest (scan : DelayScan) : DelayScan :=
  if scan.currentLen > scan.bestLen then
    { scan with bestStart := scan.currentStart, bestLen := scan.currentLen }
  else
    scan

end DelayScan

def scanDelayTap (afeBoard : UInt8) (scan : DelayScan) (tap : UInt32) :
    BackendProg I ε DelayScan := do
  setFrontendDelay afeBoard tap
  let word ← scanFrontendWordAfterWrite afeBoard
  if scan.havePrevious && word == scan.previousWord then
    let currentLen ← checkedAdd scan.currentLen 1
    return { scan with currentLen := currentLen }
  else
    return { scan.keepBest with
      currentStart := tap
      currentLen := 1
      previousWord := word
      havePrevious := true }

def setBestFrontendDelay (afeBoard : UInt8) : BackendProg I ε Unit := do
  let scan ← (taps frontendDelayTaps).foldlM (scanDelayTap afeBoard) DelayScan.start
  let scan := scan.keepBest
  failIf (scan.bestLen = 0) .alignmentFailed
  let last ← checkedSub scan.bestLen 1
  let delay ← checkedAdd scan.bestStart (last / 2)
  setFrontendDelay afeBoard delay

def scanBitslipTap (afeBoard : UInt8) (matched : Option UInt32) (tap : UInt32) :
    BackendProg I ε (Option UInt32) := do
  setFrontendBitslip afeBoard tap
  let word ← scanFrontendWordAfterWrite afeBoard
  return if matched.isNone && word == frontendExpectedFclkWord then some tap else matched

/-- The matched tap; without a match the initial bitslip is restored. -/
def chosenBitslip (afeBoard : UInt8) (initialBitslip : UInt32) (matched : Option UInt32) :
    BackendProg I ε UInt32 :=
  match matched with
  | some tap => pure tap
  | none => do
    setFrontendBitslip afeBoard initialBitslip
    fail .alignmentFailed

def setBestFrontendBitslip (afeBoard : UInt8) : BackendProg I ε Unit := do
  let initialBitslip ← readFrontendBitslip afeBoard
  let matched ← (taps frontendBitslipTaps).foldlM (scanBitslipTap afeBoard) none
  let finalBitslip ← chosenBitslip afeBoard initialBitslip matched
  setFrontendBitslip afeBoard finalBitslip
  let alignedWord ← scanFrontendWordAfterWrite afeBoard
  failIf (alignedWord ≠ frontendExpectedFclkWord) .alignmentFailed
  (taps frontendVerifyReads).forM fun _ ↦ do
    let verifyWord ← scanFrontendWordAfterWrite afeBoard
    failIf (verifyWord ≠ frontendExpectedFclkWord) .alignmentFailed

def alignFrontend : BackendProg I ε Unit := do
  resetFrontendDelayValues
  pulseFrontendControlBit frontendDelayctrlResetBit
  pulseFrontendControlBit frontendSerdesResetBit
  setFrontendDelayVtc false
  waitFrontendDelayctrlReady
  -- The delay VTC is enabled again whether or not the search went well.
  let result ← attempt ((upTo afeCount).forM fun afeBoard ↦ do
    setBestFrontendDelay afeBoard
    setBestFrontendBitslip afeBoard)
  let vtcResult ← attempt (setFrontendDelayVtc true)
  ofResult result
  ofResult vtcResult

/-! ## Staged configuration -/

def beginConfigureFrontend (counts : RpuWireConfigCounts) : BackendProg I ε Unit :=
  modify fun backend ↦ { backend with stagedConfig := .new counts }

def configureAfe (config : RpuWireAfeConfig) : BackendProg I ε Unit := do
  ofResult (validateAfe config.afePl)
  let backend ← get
  failIf (backend.stagedConfig.active = false) .unsupported
  let afes ← setAt backend.stagedConfig.afes config.afePl.toNat (some config)
  modify fun backend ↦
    { backend with stagedConfig := { backend.stagedConfig with afes := afes } }

def configureChannel (config : RpuWireChannelConfig) : BackendProg I ε Unit := do
  ofResult (validateAfe config.afePl)
  failIf (config.afeChannel.toNat ≥ channelsPerAfe ∨ config.channel.toNat ≥ channelCount)
    (.invalidChannel config.channel)
  let backend ← get
  failIf (backend.stagedConfig.active = false) .unsupported
  let channels ← setAt backend.stagedConfig.channels config.channel.toNat (some config)
  modify fun backend ↦
    { backend with stagedConfig := { backend.stagedConfig with channels := channels } }

def applyStagedChannel (config : RpuWireChannelConfig) : BackendProg I ε Unit := do
  let trim ← ofResult (require12bit config.trim.toUInt32)
  let offset ← ofResult (require12bit config.offset.toUInt32)
  writeTrimOrOffsetChannel .setTrim config.afePl config.afeChannel trim false
  writeTrimOrOffsetChannel .setOffset config.afePl config.afeChannel offset false

/-- The functions an AFE record sets, in order, with their values. -/
def stagedFunctions (config : RpuWireAfeConfig) : List (String × UInt16) :=
  [("SERIALIZED_DATA_RATE", 1),
    ("ADC_RESOLUTION_RESET", config.adc.resolution.toUInt16),
    ("ADC_OUTPUT_FORMAT", config.adc.outputFormat.toUInt16),
    ("LSB_MSB_FIRST", config.adc.msbFirst.toUInt16),
    ("LPF_PROGRAMMABILITY", config.pga.lpfCutFrequency.toUInt16),
    ("PGA_INTEGRATOR_DISABLE", config.pga.integratorDisable.toUInt16),
    ("PGA_GAIN_CONTROL", config.pga.gain.toUInt16),
    ("PGA_CLAMP_LEVEL", 2),
    ("ACTIVE_TERMINATION_ENABLE", 0),
    ("LNA_INPUT_CLAMP_SETTING", config.lna.clamp.toUInt16),
    ("LNA_GAIN", config.lna.gain.toUInt16),
    ("LNA_INTEGRATOR_DISABLE", config.lna.integratorDisable.toUInt16)]

/-- A zero bias is not written. -/
def applyStagedBias (config : RpuWireAfeConfig) : BackendProg I ε Unit :=
  if config.bias ≠ 0 then do
    let bias ← ofResult (require12bit config.bias.toUInt32)
    let biasRoute ← index afeBiasDacRoutes config.afePl.toNat
    writeDacRoute biasRoute bias
    cacheBias config.afePl bias
  else
    return ()

def applyStagedAfe (config : RpuWireAfeConfig) : BackendProg I ε Unit := do
  let attenuation ← ofResult (require12bit config.attenuation.toUInt32)
  let attenuationRoute ← index afeGainDacRoutes config.afePl.toNat
  writeDacRoute attenuationRoute attenuation
  cacheAttenuation config.afePl attenuation
  applyStagedBias config
  (stagedFunctions config).forM fun (name, value) ↦ do
    let _ ← writeAfeFunction config.afePl name value

/-- Bring the front ends into a staged configuration. -/
def programStaged (staged : StagedConfig) : BackendProg I ε Unit := do
  doReset
  setPowerState true
  (filled staged.channels).forM applyStagedChannel
  let _ ← writeVbiasControl staged.counts.biasControl.toUInt32 true
  (filled staged.afes).forM applyStagedAfe
  setPowerState true

def applyConfigureFrontend : BackendProg I ε Unit := do
  let backend ← get
  failIf (backend.stagedConfig.active = false) .unsupported
  ofResult backend.stagedConfig.validateCounts
  programStaged backend.stagedConfig
  modify fun backend ↦ { backend with stagedConfig := .default }

instance : AfeHardware (AfeMmioBackend I) (MmioAfeError ε) where
  readRegister := readRegister
  writeRegister := writeRegister
  readScalar := readScalar
  writeScalar := writeScalar
  readChannelScalar := readChannelScalar
  writeChannelScalar := writeChannelScalar
  readVbiasControl := readVbiasControl
  writeVbiasControl := writeVbiasControl
  setReset := setReset
  doReset := doReset
  setPowerState := setPowerState
  align := alignFrontend
  beginConfigureFrontend := beginConfigureFrontend
  configureAfe := configureAfe
  configureChannel := configureChannel
  applyConfigureFrontend := applyConfigureFrontend
  writeFunction := writeAfeFunction

end AfeMmioBackend

end DaphneSc.Rpu.Mmio
