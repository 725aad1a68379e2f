import DaphneSc.Rpu.ApplyErrors

/-!
# A register window with a register file behind it

The window never fails and never reports busy. Its global control register reads back what was last
written to it, and each AFE behind it keeps a file of 16-bit registers, which the backend reads and
writes in transactions of several accesses. Under these assumptions the operations of the backend
complete, and only the two registers concerned change.
-/

namespace DaphneSc.Rpu.RegisterFile

open Core.Afe Core.AfeHw Core.AfeFunctions Core.RpuWire Rpu.Runtime Rpu.Mmio
open Rpu.Mmio.AfeMmioBackend Rpu.ApplyErrors Program Slots

variable {I ε α : Type}

/-! ## Assumptions -/

/-- The registers behind a window, as its state holds them. Between transactions it is at rest. -/
structure RegisterView (I : Type) where
  rest : I → Prop
  control : I → UInt32
  registers : I → UInt8 → UInt16 → UInt16

/-- At rest, and with the registers of an earlier state. -/
structure RegisterView.Keeps (view : RegisterView I) (io io' : I) : Prop where
  rest : view.rest io'
  control : view.control io' = view.control io
  registers : view.registers io' = view.registers io

/-- Write one register of one AFE. -/
def setRegister (registers : UInt8 → UInt16 → UInt16) (afePl : UInt8) (register value : UInt16) :
    UInt8 → UInt16 → UInt16 := fun afe number ↦
  if afe = afePl ∧ number = register then value else registers afe number

/-- The busy bits of a value of the global control register. -/
def busyBits (value : UInt32) : UInt32 := bits value afeGlobalBusyBitsStart afeGlobalBusyBitsEnd

/-- What is assumed of the window. The source's transactions use register zero of an AFE themselves,
so nothing is assumed of it; nor of the AFE registers when the reset bit is set. -/
structure IsRegisterFile [RegisterIo I ε] (view : RegisterView I) : Prop where
  read_ok : ∀ offset io, ∃ value io', (RegisterIo.read32 offset : Prog ε I UInt32) io =
    .ok value io'
  write_ok : ∀ offset value io, ∃ io', (RegisterIo.write32 offset value : Prog ε I Unit) io =
    .ok () io'
  afe_idle : ∀ {value io io'},
    (RegisterIo.read32 afeGlobalControlOffset : Prog ε I UInt32) io = .ok value io' →
      busyBits value = 0
  dac_idle : ∀ {value io io'},
    (RegisterIo.read32 dacGainBiasControlOffset : Prog ε I UInt32) io = .ok value io' →
      bit value dacBusyBit = 0
  read_keeps : ∀ {offset value io io'}, view.rest io →
    (RegisterIo.read32 offset : Prog ε I UInt32) io = .ok value io' → view.Keeps io io'
  read_control : ∀ {value io io'}, view.rest io →
    (RegisterIo.read32 afeGlobalControlOffset : Prog ε I UInt32) io = .ok value io' →
      value = view.control io
  write_control : ∀ {value io io'}, view.rest io → busyBits value = 0 →
    (RegisterIo.write32 afeGlobalControlOffset value : Prog ε I Unit) io = .ok () io' →
      view.rest io' ∧ view.control io' = value ∧
        (bit value afeGlobalResetBit = 0 → view.registers io' = view.registers io)
  write_other : ∀ {offset value io io'}, view.rest io → offset ≠ afeGlobalControlOffset →
    (∀ afePl, afeControlOffset afePl ≠ some offset) →
    (RegisterIo.write32 offset value : Prog ε I Unit) io = .ok () io' → view.Keeps io io'
  read_register : ∀ {afePl register value} {backend backend' : AfeMmioBackend I},
    view.rest backend.io → 0 < register → register ≤ 0xFF →
    (readRegister afePl register : BackendProg I ε UInt32) backend = .ok value backend' →
      value = (view.registers backend.io afePl register).toUInt32 ∧
        view.Keeps backend.io backend'.io
  write_register : ∀ {afePl register value readback} {backend backend' : AfeMmioBackend I},
    view.rest backend.io → 0 < register → register ≤ 0xFF →
    (writeRegister afePl register value : BackendProg I ε UInt32) backend = .ok readback backend' →
      view.rest backend'.io ∧ view.control backend'.io = view.control backend.io ∧
        view.registers backend'.io =
          setRegister (view.registers backend.io) afePl register value.toUInt16

/-! ## Offsets -/

/-- An offset of neither the global control register nor an AFE's register file. -/
structure IsOther (offset : UInt32) : Prop where
  control : offset ≠ afeGlobalControlOffset
  afe : ∀ afePl, afeControlOffset afePl ≠ some offset

/-- The registers of the AFEs are twelve bytes apart. -/
theorem toNat_of_afeRegisterOffset {base offset : UInt32} {afePl : UInt8} (hbase : base.toNat ≤ 12)
    (h : afeRegisterOffset base afePl = some offset) :
    afePl.toNat < 5 ∧ offset.toNat = base.toNat + 12 * afePl.toNat := by
  obtain ⟨hafe, rfl⟩ := afeRegisterOffset_eq_some_iff.mp h
  have hlt : afePl.toNat < 5 := hafe
  have hstride : afeRegisterStride.toNat = 12 := rfl
  refine ⟨hlt, ?_⟩
  rw [UInt32.toNat_add, UInt32.toNat_mul, UInt8.toNat_toUInt32, hstride]
  omega

theorem toNat_of_afeControlOffset {offset : UInt32} {afePl : UInt8}
    (h : afeControlOffset afePl = some offset) :
    afePl.toNat < 5 ∧ offset.toNat = 4 + 12 * afePl.toNat :=
  toNat_of_afeRegisterOffset (by decide) h

/-- An offset beyond the AFEs is another one. -/
theorem isOther_of_gt {offset : UInt32} (h : 52 < offset.toNat) : IsOther offset where
  control := by
    rintro rfl
    exact absurd h (by decide)
  afe afePl hafe := by
    obtain ⟨hlt, hoffset⟩ := toNat_of_afeControlOffset hafe
    omega

/-- So are the registers of the trim and offset DACs between the AFEs' files. -/
theorem isOther_of_dac {base offset : UInt32} {afePl : UInt8}
    (hbase : base.toNat = 8 ∨ base.toNat = 12)
    (h : afeRegisterOffset base afePl = some offset) : IsOther offset := by
  obtain ⟨-, hoffset⟩ := toNat_of_afeRegisterOffset (by omega) h
  constructor
  · rintro rfl
    have hzero : afeGlobalControlOffset.toNat = 0 := rfl
    omega
  · intro afe hafe
    obtain ⟨-, hcontrol⟩ := toNat_of_afeControlOffset hafe
    omega

theorem isOther_dacGainBias (chip : DacChip) : IsOther (dacGainBiasOffset chip) := by
  cases chip <;> exact isOther_of_gt (by decide)

/-! ## Completion -/

section Completion

variable [RegisterIo I ε] {view : RegisterView I}

theorem run_read {offset value : UInt32} {backend : AfeMmioBackend I} {io' : I}
    (h : (RegisterIo.read32 offset : Prog ε I UInt32) backend.io = .ok value io') :
    (read offset : BackendProg I ε UInt32) backend = .ok value { backend with io := io' } := by
  simp only [AfeMmioBackend.read, mapError, zoom, ioLens, h]

theorem run_write {offset value : UInt32} {backend : AfeMmioBackend I} {io' : I}
    (h : (RegisterIo.write32 offset value : Prog ε I Unit) backend.io = .ok () io') :
    (write offset value : BackendProg I ε Unit) backend = .ok () { backend with io := io' } := by
  simp only [AfeMmioBackend.write, mapError, zoom, ioLens, h]

/-- A poll whose first value is accepted ends there. -/
theorem run_poll {offset value : UInt32} {accept : UInt32 → Bool} {limit : ℕ}
    {backend : AfeMmioBackend I} {io' : I} (hlimit : 0 < limit) (haccept : accept value = true)
    (h : (RegisterIo.read32 offset : Prog ε I UInt32) backend.io = .ok value io') :
    (poll offset accept limit : BackendProg I ε Unit) backend =
      .ok () { backend with io := io' } := by
  obtain ⟨limit, rfl⟩ := Nat.exists_eq_succ_of_ne_zero hlimit.ne'
  rw [poll_succ, run_bind, run_read h]
  simp only [haccept, if_true]
  rfl

/-- Nothing but an error of the configuration keeps an operation from completing. -/
def completes : Terms (AfeMmioBackend I) (MmioAfeError ε) where
  inv backend := 0 < backend.config.spinLimit.toNat
  fault _ := False
  refusal _ := True

theorem IsRegisterFile.serves (h : IsRegisterFile view) :
    Serves (completes : Terms (AfeMmioBackend I) (MmioAfeError ε)) where
  read offset backend hlimit := by
    obtain ⟨value, io', hread⟩ := h.read_ok offset backend.io
    unfold wp
    rw [run_read hread]
    exact ⟨hlimit, trivial⟩
  write offset value backend hlimit := by
    obtain ⟨io', hwrite⟩ := h.write_ok offset value backend.io
    unfold wp
    rw [run_write hwrite]
    exact ⟨hlimit, trivial⟩
  waitAfeReady backend hlimit := by
    obtain ⟨value, io', hread⟩ := h.read_ok afeGlobalControlOffset backend.io
    have hidle : (busyBits value == 0) = true := beq_iff_eq.mpr (h.afe_idle hread)
    have hrun : (poll afeGlobalControlOffset
      (fun value ↦ bits value afeGlobalBusyBitsStart afeGlobalBusyBitsEnd == 0)
      backend.config.spinLimit.toNat : BackendProg I ε Unit) backend = _ :=
      run_poll hlimit hidle hread
    rw [waitAfeReady_eq]
    unfold wp
    rw [run_get_bind, hrun]
    exact ⟨hlimit, trivial⟩
  waitDacReady backend hlimit := by
    obtain ⟨value, io', hread⟩ := h.read_ok dacGainBiasControlOffset backend.io
    have hidle : (bit value dacBusyBit == 0) = true := beq_iff_eq.mpr (h.dac_idle hread)
    have hrun : (poll dacGainBiasControlOffset (fun value ↦ bit value dacBusyBit == 0)
      backend.config.spinLimit.toNat : BackendProg I ε Unit) backend = _ :=
      run_poll hlimit hidle hread
    rw [waitDacReady_eq]
    unfold wp
    rw [run_get_bind, hrun]
    exact ⟨hlimit, trivial⟩
  refusal _ _ := trivial
  storeHalves op cache backend hlimit := by
    unfold storeHalves
    split <;> exact hlimit
  attenuation _ _ hlimit := hlimit
  bias _ _ hlimit := hlimit
  vbias _ _ _ hlimit := hlimit

/-- A staged configuration whose values are valid is programmed to its end. -/
theorem IsRegisterFile.programs (h : IsRegisterFile view) {staged : StagedConfig}
    (hstaged : WellStaged staged) (hvalid : ValidValues staged) {backend : AfeMmioBackend I}
    (hlimit : 0 < backend.config.spinLimit.toNat) :
    ∃ backend', (programStaged staged : BackendProg I ε Unit) backend = .ok () backend' := by
  have hdecides := h.serves.decides_programStaged hstaged backend hlimit
  cases hresult : (programStaged staged : BackendProg I ε Unit) backend with
  | ok _ backend' => exact ⟨backend', rfl⟩
  | error abort backend' =>
    rcases post_of_error hdecides hresult with hfault | ⟨-, hinvalid⟩
    · exact hfault.elim
    · exact absurd hvalid hinvalid

end Completion

/-! ## Operations that keep the registers -/

/-- A backend whose window is at rest keeps the registers behind it. -/
def RegisterView.bound (view : RegisterView I) : Bound (AfeMmioBackend I) where
  rel s t := view.rest s.io → view.Keeps s.io t.io
  refl _ hrest := ⟨hrest, rfl, rfl⟩
  trans h h' hrest := by
    have hfirst := h hrest
    have hsecond := h' hfirst.rest
    exact ⟨hsecond.rest, hsecond.control.trans hfirst.control,
      hsecond.registers.trans hfirst.registers⟩

/-- What does not touch the window keeps the registers. -/
theorem RegisterView.bound_of_io {view : RegisterView I} {s t : AfeMmioBackend I}
    (h : t.io = s.io) :
    view.bound.rel s t := by
  intro hrest
  rw [h]
  exact ⟨hrest, rfl, rfl⟩

section Keeps

variable {view : RegisterView I}

theorem within_cacheAttenuation (afePl : UInt8) (value : UInt16) :
    Within view.bound (cacheAttenuation afePl value : BackendProg I ε Unit) :=
  within_bind within_get fun _ ↦ within_bind (within_setAt _ _ _) fun _ ↦
    within_modify fun _ ↦ RegisterView.bound_of_io rfl

theorem within_cacheBias (afePl : UInt8) (value : UInt16) :
    Within view.bound (cacheBias afePl value : BackendProg I ε Unit) :=
  within_bind within_get fun _ ↦ within_bind (within_setAt _ _ _) fun _ ↦
    within_modify fun _ ↦ RegisterView.bound_of_io rfl

/-- The register of a trim or offset operation is that of its DACs. -/
theorem isOther_of_trimOrOffsetRegister {op : RpuWireOp} {afePl : UInt8} {offset : UInt32}
    {backend backend' : AfeMmioBackend I}
    (h : (trimOrOffsetRegister op afePl : BackendProg I ε UInt32) backend = .ok offset backend') :
    IsOther offset := by
  have hpost : wp (trimOrOffsetRegister op afePl : BackendProg I ε UInt32)
      (fun offset _ ↦ IsOther offset) (fun _ _ ↦ True) backend := by
    rw [trimOrOffsetRegister_eq]
    split
    · rw [wp_okOr]
      exact ⟨fun _ hoffset ↦ isOther_of_dac (Or.inl rfl) hoffset, fun _ ↦ trivial⟩
    · rw [wp_okOr]
      exact ⟨fun _ hoffset ↦ isOther_of_dac (Or.inr rfl) hoffset, fun _ ↦ trivial⟩
    · trivial
  exact post_of_ok hpost h

variable [RegisterIo I ε]

namespace IsRegisterFile

variable (h : IsRegisterFile view)

include h

theorem within_read (offset : UInt32) :
    Within view.bound (AfeMmioBackend.read offset : BackendProg I ε UInt32) := by
  intro backend
  obtain ⟨value, io', hread⟩ := h.read_ok offset backend.io
  unfold wp
  rw [run_read hread]
  exact fun hrest ↦ h.read_keeps hrest hread

theorem within_write {offset : UInt32} (hoffset : IsOther offset) (value : UInt32) :
    Within view.bound (AfeMmioBackend.write offset value : BackendProg I ε Unit) := by
  intro backend
  obtain ⟨io', hwrite⟩ := h.write_ok offset value backend.io
  unfold wp
  rw [run_write hwrite]
  exact fun hrest ↦ h.write_other hrest hoffset.control hoffset.afe hwrite

theorem within_poll (offset : UInt32) (accept : UInt32 → Bool) (limit : ℕ) :
    Within view.bound (poll offset accept limit : BackendProg I ε Unit) := by
  induction limit with
  | zero => exact within_fail _
  | succ limit ih =>
    rw [poll_succ]
    exact within_bind (h.within_read offset) fun _ ↦ within_ite (within_pure _) ih

theorem within_waitAfeReady : Within view.bound (waitAfeReady : BackendProg I ε Unit) := by
  rw [waitAfeReady_eq]
  exact within_bind within_get fun _ ↦ h.within_poll _ _ _

theorem within_waitDacReady : Within view.bound (waitDacReady : BackendProg I ε Unit) := by
  rw [waitDacReady_eq]
  exact within_bind within_get fun _ ↦ h.within_poll _ _ _

theorem within_setBit {offset : UInt32} (hoffset : IsOther offset) (bitIndex : UInt8)
    (asserted : Bool) :
    Within view.bound (setBit offset bitIndex asserted : BackendProg I ε Unit) :=
  within_bind (h.within_read offset) fun _ ↦ within_bind (within_checkedShl _ _) fun _ ↦
    h.within_write hoffset _

theorem within_writeDacRoute (route : DacRoute) (value : UInt16) :
    Within view.bound (writeDacRoute route value : BackendProg I ε Unit) := by
  have hcontrol : IsOther dacGainBiasControlOffset := isOther_of_gt (by decide)
  exact within_bind h.within_waitDacReady fun _ ↦
    within_bind (h.within_write (isOther_dacGainBias _) _) fun _ ↦
    within_bind h.within_waitDacReady fun _ ↦
    within_bind (h.within_setBit hcontrol _ _) fun _ ↦
    within_bind h.within_waitDacReady fun _ ↦
    within_bind (h.within_setBit hcontrol _ _) fun _ ↦ h.within_waitDacReady

theorem within_writeVbiasControl (value : UInt32) (enable : Bool) :
    Within view.bound (writeVbiasControl value enable : BackendProg I ε UInt32) :=
  within_bind (within_ofResult _) fun _ ↦
    within_bind (h.within_writeDacRoute _ _) fun _ ↦
    within_bind (h.within_write (isOther_of_gt (by decide)) _) fun _ ↦
    within_bind (within_modify fun _ ↦ RegisterView.bound_of_io rfl) fun _ ↦ within_pure _

/-- A trim or offset operation writes the register of its DACs only. -/
theorem within_writeTrimOrOffsetChannel (op : RpuWireOp) (afePl afeChannel : UInt8) (value : UInt16)
    (gain : Bool) : Within view.bound
      (writeTrimOrOffsetChannel op afePl afeChannel value gain : BackendProg I ε Unit) := by
  have hregister : Within view.bound (trimOrOffsetRegister op afePl : BackendProg I ε UInt32) :=
    within_trimOrOffsetRegister _ _
  have hcache (backend : AfeMmioBackend I) :
      Within view.bound (writtenHalves op backend : BackendProg I ε Halves) := by
    unfold writtenHalves
    split
    · exact within_pure _
    · exact within_pure _
    · exact within_stop
  have hstore (cache : Halves) (s : AfeMmioBackend I) :
      view.bound.rel s (storeHalves op cache s) := by
    apply RegisterView.bound_of_io
    unfold storeHalves
    split <;> rfl
  exact within_bind_of hregister isOther_of_trimOrOffsetRegister fun _ hoffset ↦
    within_bind (within_companionChannel _) fun _ ↦ within_bind within_get fun backend ↦
    within_bind (hcache backend) fun _ ↦ within_bind (within_index _ _) fun _ ↦
    within_bind (within_setAt _ _ _) fun _ ↦ within_bind (within_setAt _ _ _) fun cache ↦
    within_bind (within_modify fun s ↦ hstore cache s) fun _ ↦
    within_bind (within_index _ _) fun _ ↦ within_bind h.within_waitAfeReady fun _ ↦
    within_bind (h.within_write hoffset _) fun _ ↦ h.within_waitAfeReady

theorem within_applyStagedChannel (config : RpuWireChannelConfig) :
    Within view.bound (applyStagedChannel config : BackendProg I ε Unit) :=
  within_bind (within_ofResult _) fun _ ↦ within_bind (within_ofResult _) fun _ ↦
    within_bind (h.within_writeTrimOrOffsetChannel _ _ _ _ _) fun _ ↦
    h.within_writeTrimOrOffsetChannel _ _ _ _ _

theorem within_applyStagedBias (config : RpuWireAfeConfig) :
    Within view.bound (applyStagedBias config : BackendProg I ε Unit) :=
  within_ite (within_bind (within_ofResult _) fun _ ↦ within_bind (within_index _ _) fun _ ↦
    within_bind (h.within_writeDacRoute _ _) fun _ ↦ within_cacheBias _ _) (within_pure _)

end IsRegisterFile

end Keeps

/-! ## Control bits -/

/-- The mask of one bit. -/
def bitMask (bitIndex : UInt8) : UInt32 := 1 <<< bitIndex.toUInt32

/-- A value with one bit set or cleared. -/
def withBit (value : UInt32) (bitIndex : UInt8) (asserted : Bool) : UInt32 :=
  if asserted then value ||| bitMask bitIndex else value &&& ~~~bitMask bitIndex

theorem toBitVec_withBit (value : UInt32) (bitIndex : UInt8) (asserted : Bool) :
    (withBit value bitIndex asserted).toBitVec = Bits.insert (bitMask bitIndex).toBitVec
      (if asserted then (bitMask bitIndex).toBitVec else 0#32) value.toBitVec := by
  cases asserted with
  | false => exact Bits.and_not_eq_insert _ _
  | true => exact Bits.or_eq_insert _ _

/-- Other bits are kept. -/
theorem withBit_and_of_disjoint {bitIndex : UInt8} {other : UInt32}
    (h : bitMask bitIndex &&& other = 0) (value : UInt32) (asserted : Bool) :
    withBit value bitIndex asserted &&& other = value &&& other := by
  apply UInt32.toBitVec_inj.mp
  rw [UInt32.toBitVec_and, UInt32.toBitVec_and, toBitVec_withBit]
  apply Bits.insert_and_of_disjoint
  rw [← UInt32.toBitVec_and, h]
  rfl

theorem withBit_and_self (value : UInt32) (bitIndex : UInt8) (asserted : Bool) :
    withBit value bitIndex asserted &&& bitMask bitIndex =
      if asserted then bitMask bitIndex else 0 := by
  apply UInt32.toBitVec_inj.mp
  rw [UInt32.toBitVec_and, toBitVec_withBit, Bits.insert_and_self]
  cases asserted with
  | false => exact BitVec.zero_and
  | true => exact BitVec.and_self

/-- Reading bits off a word reads them under their mask. -/
theorem shiftRight_and_eq {mask low shift : UInt32} (h : mask >>> shift = low) (value : UInt32) :
    (value >>> shift) &&& low = (value &&& mask) >>> shift := by
  rw [UInt32.shiftRight_and, h]

theorem busyBits_eq (value : UInt32) : busyBits value = (value &&& 0x1C) >>> 2 :=
  shiftRight_and_eq (by decide) value

theorem bit_reset_eq (value : UInt32) :
    bit value afeGlobalResetBit = (value &&& bitMask afeGlobalResetBit) >>> 0 :=
  shiftRight_and_eq (by decide) value

theorem bit_power_eq (value : UInt32) :
    bit value afeGlobalPowerstateBit = (value &&& bitMask afeGlobalPowerstateBit) >>> 1 :=
  shiftRight_and_eq (by decide) value

theorem busyBits_withBit_reset (value : UInt32) (asserted : Bool) :
    busyBits (withBit value afeGlobalResetBit asserted) = busyBits value := by
  rw [busyBits_eq, busyBits_eq, withBit_and_of_disjoint (by decide)]

theorem busyBits_withBit_power (value : UInt32) (asserted : Bool) :
    busyBits (withBit value afeGlobalPowerstateBit asserted) = busyBits value := by
  rw [busyBits_eq, busyBits_eq, withBit_and_of_disjoint (by decide)]

theorem bit_reset_of_cleared (value : UInt32) :
    bit (withBit value afeGlobalResetBit false) afeGlobalResetBit = 0 := by
  rw [bit_reset_eq, withBit_and_self]
  decide

theorem bit_power_of_set (value : UInt32) :
    bit (withBit value afeGlobalPowerstateBit true) afeGlobalPowerstateBit = 1 := by
  rw [bit_power_eq, withBit_and_self]
  decide

theorem bit_reset_withBit_power (value : UInt32) (asserted : Bool) :
    bit (withBit value afeGlobalPowerstateBit asserted) afeGlobalResetBit =
      bit value afeGlobalResetBit := by
  rw [bit_reset_eq, bit_reset_eq, withBit_and_of_disjoint (by decide)]

/-- At rest, out of reset and powered. -/
structure RegisterView.Powered (view : RegisterView I) (io : I) : Prop where
  rest : view.rest io
  reset : bit (view.control io) afeGlobalResetBit = 0
  power : bit (view.control io) afeGlobalPowerstateBit = 1

theorem RegisterView.Powered.of_control {view : RegisterView I} {io io' : I} (h : view.Powered io)
    (hrest : view.rest io') (hcontrol : view.control io' = view.control io) : view.Powered io' where
  rest := hrest
  reset := hcontrol ▸ h.reset
  power := hcontrol ▸ h.power

theorem wp_orFunctionError {result : Except AfeFunctionError α} {value : UInt16}
    {Q : α → AfeMmioBackend I → Prop} {s : AfeMmioBackend I} (h : ∀ a, result = .ok a → Q a s) :
    wp (orFunctionError result value : BackendProg I ε α) Q (fun _ _ ↦ True) s := by
  cases result with
  | ok a => exact h a rfl
  | error err => trivial

section Operations

variable {view : RegisterView I} [RegisterIo I ε]

namespace IsRegisterFile

variable (h : IsRegisterFile view)

include h

/-- A control bit is set or cleared; the AFE registers survive unless the reset bit is then set. -/
theorem wp_setControlBit {bitIndex : UInt8} {asserted : Bool} {s : AfeMmioBackend I}
    (hbit : bitIndex.toNat < 32)
    (hbusy : ∀ value, busyBits (withBit value bitIndex asserted) = busyBits value)
    (hrest : view.rest s.io) :
    wp (setBit afeGlobalControlOffset bitIndex asserted : BackendProg I ε Unit)
      (fun _ t ↦ view.rest t.io ∧
        view.control t.io = withBit (view.control s.io) bitIndex asserted ∧
        (bit (withBit (view.control s.io) bitIndex asserted) afeGlobalResetBit = 0 →
          view.registers t.io = view.registers s.io)) (fun _ _ ↦ True) s := by
  obtain ⟨value, io, hread⟩ := h.read_ok afeGlobalControlOffset s.io
  obtain ⟨io', hwrite⟩ :=
    h.write_ok afeGlobalControlOffset (withBit value bitIndex asserted) io
  have hkeeps := h.read_keeps hrest hread
  have hvalue : value = view.control s.io := h.read_control hrest hread
  have hidle : busyBits (withBit value bitIndex asserted) = 0 := by
    rw [hbusy, h.afe_idle hread]
  have hwritten := h.write_control hkeeps.rest hidle hwrite
  have hrun : (setBit afeGlobalControlOffset bitIndex asserted : BackendProg I ε Unit) s =
      .ok () { s with io := io' } := by
    rw [setBit_eq _ hbit, run_bind, run_read hread]
    exact run_write hwrite
  unfold wp
  rw [hrun, ← hvalue, ← hkeeps.registers]
  exact hwritten

/-- After a reset the reset bit is clear. -/
theorem wp_doReset {s : AfeMmioBackend I} (hrest : view.rest s.io) :
    wp (doReset : BackendProg I ε Unit)
      (fun _ t ↦ view.rest t.io ∧ bit (view.control t.io) afeGlobalResetBit = 0)
      (fun _ _ ↦ True) s := by
  unfold doReset
  rw [wp_bind]
  refine wp_mono (h.wp_setControlBit (by decide) (fun _ ↦ busyBits_withBit_reset _ _) hrest)
    (fun _ t ht ↦ ?_) fun _ _ h ↦ h
  refine wp_mono (h.wp_setControlBit (by decide) (fun _ ↦ busyBits_withBit_reset _ _) ht.1)
    (fun _ t' ht' ↦ ⟨ht'.1, ?_⟩) fun _ _ h ↦ h
  rw [ht'.2.1]
  exact bit_reset_of_cleared _

/-- Powering the AFEs out of reset keeps their registers. -/
theorem wp_setPowerState {s : AfeMmioBackend I} (hrest : view.rest s.io)
    (hreset : bit (view.control s.io) afeGlobalResetBit = 0) :
    wp (setPowerState true : BackendProg I ε Unit)
      (fun _ t ↦ view.Powered t.io ∧ view.registers t.io = view.registers s.io)
      (fun _ _ ↦ True) s := by
  refine wp_mono (h.wp_setControlBit (by decide) (fun _ ↦ busyBits_withBit_power _ _) hrest)
    (fun _ t ht ↦ ?_) fun _ _ h ↦ h
  obtain ⟨hrest', hcontrol, hregisters⟩ := ht
  have hreset' : bit (view.control t.io) afeGlobalResetBit = 0 := by
    rw [hcontrol, bit_reset_withBit_power, hreset]
  refine ⟨⟨hrest', hreset', ?_⟩, hregisters (hcontrol ▸ hreset')⟩
  rw [hcontrol]
  exact bit_power_of_set _

/-! ## Functions -/

theorem wp_readRegister {afePl : UInt8} {register : UInt16} {s : AfeMmioBackend I}
    (hrest : view.rest s.io) (hpos : 0 < register) (hle : register ≤ 0xFF) :
    wp (readRegister afePl register : BackendProg I ε UInt32)
      (fun value t ↦ value = (view.registers s.io afePl register).toUInt32 ∧
        view.Keeps s.io t.io) (fun _ _ ↦ True) s :=
  wp_of_ok fun _ _ hread ↦ h.read_register hrest hpos hle hread

theorem wp_writeRegister {afePl : UInt8} {register : UInt16} {value : UInt32}
    {s : AfeMmioBackend I} (hrest : view.rest s.io) (hpos : 0 < register) (hle : register ≤ 0xFF) :
    wp (writeRegister afePl register value : BackendProg I ε UInt32)
      (fun _ t ↦ view.rest t.io ∧ view.control t.io = view.control s.io ∧
        view.registers t.io = setRegister (view.registers s.io) afePl register value.toUInt16)
      (fun _ _ ↦ True) s :=
  wp_of_ok fun _ _ hwrite ↦ h.write_register hrest hpos hle hwrite

/-- Writing a function replaces its field in its register and leaves every other register alone. -/
theorem wp_writeAfeFunction {afePl : UInt8} {name : String} {value : UInt16}
    {spec : AfeFunctionSpec} {s : AfeMmioBackend I} (hspec : findAfeFunction name = some spec)
    (hpos : 0 < spec.field.register) (hle : spec.field.register ≤ 0xFF)
    (hpowered : view.Powered s.io) :
    wp (writeAfeFunction afePl name value : BackendProg I ε UInt32)
      (fun _ t ↦ view.Powered t.io ∧ ∃ updated,
        replaceAfeFunctionBits (view.registers s.io afePl spec.field.register) spec.field value =
          .ok updated ∧
        view.registers t.io =
          setRegister (view.registers s.io) afePl spec.field.register updated)
      (fun _ _ ↦ True) s := by
  rw [writeAfeFunction_eq, wp_bind, wp_ofResult]
  refine ⟨fun _ _ ↦ ?_, fun _ _ ↦ trivial⟩
  rw [wp_bind]
  apply wp_orFunctionError
  intro spec' hvalid
  obtain rfl : spec' = spec := spec_of_valid hspec hvalid
  rw [wp_bind]
  apply wp_orFunctionError
  intro _ _
  rw [wp_bind]
  refine wp_mono (h.wp_readRegister hpowered.rest hpos hle) (fun current t ht ↦ ?_) fun _ _ h ↦ h
  obtain ⟨rfl, hkeeps⟩ := ht
  rw [UInt16.toUInt16_toUInt32, wp_bind]
  apply wp_orFunctionError
  intro updated hupdated
  rw [wp_bind]
  refine wp_mono (h.wp_writeRegister hkeeps.rest hpos hle) (fun _ t' ht' ↦ ?_) fun _ _ h ↦ h
  obtain ⟨hrest', hcontrol', hregisters'⟩ := ht'
  rw [UInt16.toUInt16_toUInt32, hkeeps.registers] at hregisters'
  rw [wp_bind]
  refine wp_mono (h.wp_readRegister hrest' hpos hle) (fun _ t'' ht'' ↦ ?_) fun _ _ h ↦ h
  have hkeeps'' := ht''.2
  rw [wp_bind]
  apply wp_orFunctionError
  intro _ _
  refine ⟨hpowered.of_control hkeeps''.rest ?_, updated, hupdated, ?_⟩
  · rw [hkeeps''.control, hcontrol', hkeeps.control]
  · rw [hkeeps''.registers, hregisters']

end IsRegisterFile

end Operations

end DaphneSc.Rpu.RegisterFile
