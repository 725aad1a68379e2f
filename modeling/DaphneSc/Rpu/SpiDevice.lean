import DaphneSc.Rpu.RegisterFile

/-!
# AFEs behind a register window

A device to which the assumptions on a register file apply: the global control register, and on each
AFE's bus a chip whose register zero switches between writing and readout. The transactions of the
backend read and write its registers.
-/

namespace DaphneSc.Rpu.SpiDevice

open Core.Afe Core.AfeHw Rpu.Mmio Rpu.Mmio.AfeMmioBackend Rpu.RegisterFile Program
open Core.RpuWire (u16TryFrom)

/-! ## An AFE on its bus -/

/-- An AFE on its serial bus. Register zero switches to readout, in which a word selects the
register to be shifted out. -/
structure SpiAfe where
  readout : Bool
  output : UInt16
  registers : UInt16 → UInt16

namespace SpiAfe

def addressOf (word : UInt32) : UInt16 := ((word >>> 16) &&& 0xFF).toUInt16

def shift (word : UInt32) (afe : SpiAfe) : SpiAfe :=
  if addressOf word = 0 then
    { afe with readout := word &&& 2 != 0 }
  else if afe.readout then
    { afe with output := afe.registers (addressOf word) }
  else
    { afe with registers := Function.update afe.registers (addressOf word) word.toUInt16 }

theorem toNat_afeRegisterWord {register : UInt16} (h : register ≤ 0xFF) (value : UInt16) :
    (afeRegisterWord register value).toNat = register.toNat * 65536 + value.toNat := by
  have hregister : register.toNat < 256 := Nat.lt_succ_of_le h
  have hvalue : value.toNat < 2 ^ 16 := value.toNat_lt
  have haddress : (register.toUInt32 &&& 0xFF).toNat = register.toNat := by
    rw [UInt32.toNat_and]
    exact (Nat.and_two_pow_sub_one_eq_mod register.toNat 8).trans (Nat.mod_eq_of_lt hregister)
  have hshift : ((register.toUInt32 &&& 0xFF) <<< 16).toNat = register.toNat <<< 16 := by
    rw [UInt32.toNat_shiftLeft, haddress]
    apply Nat.mod_eq_of_lt
    change register.toNat <<< 16 < 2 ^ 32
    rw [Nat.shiftLeft_eq]
    omega
  rw [afeRegisterWord, UInt32.toNat_or, hshift, UInt16.toNat_toUInt32,
    ← Nat.shiftLeft_add_eq_or_of_lt hvalue, Nat.shiftLeft_eq]

theorem afeRegisterAddressWord_eq (register : UInt16) :
    afeRegisterAddressWord register = afeRegisterWord register 0 := by
  rw [afeRegisterWord, afeRegisterAddressWord]
  exact (UInt32.or_zero).symm

theorem addressOf_afeRegisterWord {register : UInt16} (h : register ≤ 0xFF) (value : UInt16) :
    addressOf (afeRegisterWord register value) = register := by
  have hregister : register.toNat < 256 := Nat.lt_succ_of_le h
  have hvalue : value.toNat < 2 ^ 16 := value.toNat_lt
  have hshift : (afeRegisterWord register value >>> 16).toNat = register.toNat := by
    rw [UInt32.toNat_shiftRight, toNat_afeRegisterWord h]
    change (register.toNat * 65536 + value.toNat) >>> 16 = register.toNat
    rw [Nat.shiftRight_eq_div_pow]
    omega
  apply UInt16.toNat_inj.mp
  rw [addressOf, UInt32.toNat_toUInt16, UInt32.toNat_and, hshift]
  have hand : register.toNat &&& 255 = register.toNat :=
    (Nat.and_two_pow_sub_one_eq_mod register.toNat 8).trans (Nat.mod_eq_of_lt hregister)
  change (register.toNat &&& 255) % 65536 = register.toNat
  omega

theorem toUInt16_afeRegisterWord {register : UInt16} (h : register ≤ 0xFF) (value : UInt16) :
    (afeRegisterWord register value).toUInt16 = value := by
  apply UInt16.toNat_inj.mp
  have hvalue : value.toNat < 2 ^ 16 := value.toNat_lt
  rw [UInt32.toNat_toUInt16, toNat_afeRegisterWord h]
  omega

theorem shift_trigger (afe : SpiAfe) :
    afe.shift afeSpiTriggerWord = { afe with readout := true } := rfl

theorem shift_idle (afe : SpiAfe) : afe.shift afeSpiIdleWord = { afe with readout := false } := rfl

section Selected

variable {afe : SpiAfe} {register : UInt16} (hpos : 0 < register) (hle : register ≤ 0xFF)

include hpos hle

/-- In readout an address selects the output. -/
theorem shift_address (hreadout : afe.readout = true) :
    afe.shift (afeRegisterAddressWord register) =
      { afe with output := afe.registers register } := by
  have hne : register ≠ 0 := (UInt16.ne_of_lt hpos).symm
  rw [afeRegisterAddressWord_eq, shift, addressOf_afeRegisterWord hle, if_neg hne, if_pos hreadout]

/-- Otherwise a word is written to its address. -/
theorem shift_value (hreadout : afe.readout = false) (value : UInt16) :
    afe.shift (afeRegisterWord register value) =
      { afe with registers := Function.update afe.registers register value } := by
  have hne : register ≠ 0 := (UInt16.ne_of_lt hpos).symm
  rw [shift, addressOf_afeRegisterWord hle, if_neg hne, if_neg (by simp [hreadout]),
    toUInt16_afeRegisterWord hle]

end Selected

end SpiAfe

/-! ## The window -/

/-- The control register and the AFEs; every other register reads as zero. -/
structure SpiIo where
  control : UInt32
  afes : UInt8 → SpiAfe

namespace SpiIo

/-- The AFE whose register file is at an offset. -/
def afeAt (offset : UInt32) : Option UInt8 :=
  (upTo afeCount).find? fun afePl ↦ afeControlOffset afePl == some offset

/-- The window is never busy. -/
def readControl (io : SpiIo) : UInt32 := if busyBits io.control = 0 then io.control else 0

def read (io : SpiIo) (offset : UInt32) : UInt32 :=
  if offset = afeGlobalControlOffset then
    io.readControl
  else
    match afeAt offset with
    | some afePl => (io.afes afePl).output.toUInt32
    | none => 0

def write (offset value : UInt32) (io : SpiIo) : SpiIo :=
  if offset = afeGlobalControlOffset then
    { io with control := value }
  else
    match afeAt offset with
    | some afePl =>
      { io with afes := Function.update io.afes afePl ((io.afes afePl).shift value) }
    | none => io

instance : RegisterIo SpiIo Empty where
  read32 offset := do
    let io ← get
    return io.read offset
  write32 offset value := modify (write offset value)

def view : RegisterView SpiIo where
  rest io := ∀ afePl, (io.afes afePl).readout = false
  control := readControl
  registers io afePl := (io.afes afePl).registers

theorem afeAt_eq {offset : UInt32} {afePl : UInt8} (h : afeControlOffset afePl = some offset) :
    afeAt offset = some afePl := by
  obtain ⟨hlt, hoffset⟩ := afeRegisterOffset_eq_some_iff.mp h
  rw [← hoffset]
  have hall : ∀ n < 5, afeAt (afeControlBaseOffset + afeRegisterStride * (UInt8.ofNat n).toUInt32) =
      some (UInt8.ofNat n) := by decide +kernel
  have hafe := hall afePl.toNat hlt
  rwa [UInt8.ofNat_toNat] at hafe

theorem ne_control {offset : UInt32} {afePl : UInt8} (h : afeControlOffset afePl = some offset) :
    offset ≠ afeGlobalControlOffset := by
  rintro rfl
  obtain ⟨-, hoffset⟩ := toNat_of_afeControlOffset h
  have hzero : afeGlobalControlOffset.toNat = 0 := rfl
  omega

theorem read_afe {offset : UInt32} {afePl : UInt8} (h : afeControlOffset afePl = some offset)
    (io : SpiIo) : io.read offset = (io.afes afePl).output.toUInt32 := by
  simp [read, ne_control h, afeAt_eq h]

theorem write_afe {offset : UInt32} {afePl : UInt8} (h : afeControlOffset afePl = some offset)
    (value : UInt32) (io : SpiIo) : io.write offset value =
      { io with afes := Function.update io.afes afePl ((io.afes afePl).shift value) } := by
  simp [write, ne_control h, afeAt_eq h]

theorem run_write (offset value : UInt32) (s : AfeMmioBackend SpiIo) :
    (AfeMmioBackend.write offset value : BackendProg SpiIo Empty Unit) s =
      .ok () { s with io := s.io.write offset value } := rfl

theorem run_read (offset : UInt32) (s : AfeMmioBackend SpiIo) :
    (AfeMmioBackend.read offset : BackendProg SpiIo Empty UInt32) s = .ok (s.io.read offset) s :=
      rfl

/-- Waiting changes nothing. -/
theorem eq_of_wait {s t : AfeMmioBackend SpiIo}
    (h : (waitAfeReady : BackendProg SpiIo Empty Unit) s = .ok () t) : t = s := by
  have hpoll (offset : UInt32) (accept : UInt32 → Bool) (limit : ℕ) :
      Within (.keeps id) (poll offset accept limit : BackendProg SpiIo Empty Unit) := by
    induction limit with
    | zero => exact within_fail _
    | succ limit ih =>
      rw [poll_succ]
      exact within_bind (fun _ ↦ rfl) fun _ ↦ within_ite (within_pure _) ih
  rw [waitAfeReady_eq] at h
  exact (within_bind within_get fun _ ↦ hpoll _ _ _).ok h

/-! ## Transactions -/

/-- One AFE is exchanged for another. -/
def replace (afePl : UInt8) (f : SpiAfe → SpiAfe) (s : AfeMmioBackend SpiIo) :
    AfeMmioBackend SpiIo :=
  { s with io := { s.io with afes := Function.update s.io.afes afePl (f (s.io.afes afePl)) } }

theorem replace_replace (afePl : UInt8) (f g : SpiAfe → SpiAfe) (s : AfeMmioBackend SpiIo) :
    replace afePl g (replace afePl f s) = replace afePl (g ∘ f) s := by
  simp [replace]

theorem eq_of_write {offset : UInt32} {afePl : UInt8} (h : afeControlOffset afePl = some offset)
    {word : UInt32} {s t : AfeMmioBackend SpiIo}
    (hwrite : (AfeMmioBackend.write offset word : BackendProg SpiIo Empty Unit) s = .ok () t) :
    t = replace afePl (SpiAfe.shift word) s := by
  rw [run_write, write_afe h] at hwrite
  exact (EStateM.Result.ok.inj hwrite).2.symm

theorem eq_of_read {offset : UInt32} {afePl : UInt8} (h : afeControlOffset afePl = some offset)
    {value : UInt32} {s t : AfeMmioBackend SpiIo}
    (hread : (AfeMmioBackend.read offset : BackendProg SpiIo Empty UInt32) s = .ok value t) :
    value = (s.io.afes afePl).output.toUInt32 ∧ t = s := by
  rw [run_read, read_afe h] at hread
  exact ⟨(EStateM.Result.ok.inj hread).1.symm, (EStateM.Result.ok.inj hread).2.symm⟩

theorem some_of_okOr {α : Type} {a : Option α} {e : MmioAfeError Empty} {b : α}
    {s t : AfeMmioBackend SpiIo} (h : (okOr a e : BackendProg SpiIo Empty α) s = .ok b t) :
    a = some b ∧ t = s := by
  cases a with
  | none => cases h
  | some b' =>
    cases h
    exact ⟨rfl, rfl⟩

/-- The words of a read of a register. -/
def readWords (register : UInt16) : SpiAfe → SpiAfe :=
  SpiAfe.shift afeSpiIdleWord ∘ SpiAfe.shift (afeRegisterAddressWord register) ∘
    SpiAfe.shift afeSpiTriggerWord

theorem eq_of_readRegister {afePl : UInt8} {register : UInt16} {value : UInt32}
    {s t : AfeMmioBackend SpiIo}
    (h : (readRegister afePl register : BackendProg SpiIo Empty UInt32) s = .ok value t) :
    t = replace afePl (readWords register) s ∧
      value = (readWords register (s.io.afes afePl)).output.toUInt32 &&& 0xFFFF := by
  simp only [readRegister, controlRegister_eq, bind_eq_ok_iff] at h
  obtain ⟨offset, s₀, hoffset, _, s₁, hwait₁, _, s₂, htrigger, _, s₃, hwait₂, _, s₄, haddress, _,
    s₅, hwait₃, output, s₆, hread, _, s₇, hidle, hvalue⟩ := h
  obtain ⟨hafe, rfl⟩ := some_of_okOr hoffset
  obtain rfl := eq_of_wait hwait₁
  obtain rfl := eq_of_write hafe htrigger
  obtain rfl := eq_of_wait hwait₂
  obtain rfl := eq_of_write hafe haddress
  obtain rfl := eq_of_wait hwait₃
  obtain ⟨houtput, rfl⟩ := eq_of_read hafe hread
  obtain rfl := eq_of_write hafe hidle
  rw [replace_replace, replace_replace] at hvalue
  cases hvalue
  refine ⟨rfl, ?_⟩
  rw [houtput]
  simp [replace, readWords, SpiAfe.shift_idle]

theorem toUInt16_of_requireU16 {value : UInt32} {checked : UInt16} {s t : AfeMmioBackend SpiIo}
    (h : (ofResult (Mmio.requireU16 value) : BackendProg SpiIo Empty UInt16) s = .ok checked t) :
    checked = value.toUInt16 ∧ t = s := by
  unfold Mmio.requireU16 u16TryFrom at h
  by_cases hle : value ≤ 65535
  · rw [if_pos hle] at h
    cases h
    exact ⟨rfl, rfl⟩
  · rw [if_neg hle] at h
    cases h

/-- The words of a write of a register. -/
def writeWords (register value : UInt16) : SpiAfe → SpiAfe :=
  readWords register ∘ SpiAfe.shift (afeRegisterWord register value)

theorem eq_of_writeRegister {afePl : UInt8} {register : UInt16} {value readback : UInt32}
    {s t : AfeMmioBackend SpiIo}
    (h : (writeRegister afePl register value : BackendProg SpiIo Empty UInt32) s =
      .ok readback t) : t = replace afePl (writeWords register value.toUInt16) s := by
  simp only [writeRegister, controlRegister_eq, bind_eq_ok_iff] at h
  obtain ⟨checked, s₀, hchecked, offset, s₁, hoffset, _, s₂, hwait₁, _, s₃, hvalue, _, s₄, hwait₂,
    _, s₅, htrigger, _, s₆, hwait₃, _, s₇, haddress, _, s₈, hwait₄, output, s₉, hread, _, s₁₀,
      hidle,
    hreadback⟩ := h
  obtain ⟨rfl, rfl⟩ := toUInt16_of_requireU16 hchecked
  obtain ⟨hafe, rfl⟩ := some_of_okOr hoffset
  obtain rfl := eq_of_wait hwait₁
  obtain rfl := eq_of_write hafe hvalue
  obtain rfl := eq_of_wait hwait₂
  obtain rfl := eq_of_write hafe htrigger
  obtain rfl := eq_of_wait hwait₃
  obtain rfl := eq_of_write hafe haddress
  obtain rfl := eq_of_wait hwait₄
  obtain ⟨-, rfl⟩ := eq_of_read hafe hread
  obtain rfl := eq_of_write hafe hidle
  rw [replace_replace, replace_replace, replace_replace] at hreadback
  cases hreadback
  rfl

section Transactions

variable {afe : SpiAfe} {register : UInt16} (hpos : 0 < register) (hle : register ≤ 0xFF)
variable (hreadout : afe.readout = false)

include hpos hle hreadout

theorem readWords_eq : readWords register afe = { afe with output := afe.registers register } := by
  simp only [readWords, Function.comp_apply, SpiAfe.shift_trigger, SpiAfe.shift_idle,
    SpiAfe.shift_address hpos hle, ← hreadout]

theorem writeWords_eq (value : UInt16) : writeWords register value afe =
    { afe with output := value, registers := Function.update afe.registers register value } := by
  have hread : readWords register (afe.shift (afeRegisterWord register value)) = _ :=
    readWords_eq hpos hle (by rw [SpiAfe.shift_value hpos hle hreadout]; exact hreadout)
  rw [writeWords, Function.comp_apply, hread, SpiAfe.shift_value hpos hle hreadout]
  simp

end Transactions

/-! ## The assumptions hold -/

/-- An exchange that leaves readout off keeps the window at rest. -/
theorem rest_replace {afePl : UInt8} {f : SpiAfe → SpiAfe} {s : AfeMmioBackend SpiIo}
    (hrest : view.rest s.io) (hreadout : (f (s.io.afes afePl)).readout = false) :
    view.rest (replace afePl f s).io := by
  intro other
  change (Function.update s.io.afes afePl (f (s.io.afes afePl)) other).readout = false
  by_cases heq : other = afePl
  · rw [heq, Function.update_self, hreadout]
  · rw [Function.update_of_ne heq]
    exact hrest other

theorem registers_replace {afePl : UInt8} {f : SpiAfe → SpiAfe} {s : AfeMmioBackend SpiIo}
    (other : UInt8) (number : UInt16) : view.registers (replace afePl f s).io other number =
      if other = afePl then (f (s.io.afes afePl)).registers number
      else view.registers s.io other number := by
  by_cases heq : other = afePl
  · simp [view, replace, heq]
  · simp [view, replace, heq]

theorem busyBits_readControl (io : SpiIo) : busyBits io.readControl = 0 := by
  by_cases h : busyBits io.control = 0
  · rw [readControl, if_pos h, h]
  · rw [readControl, if_neg h]
    decide

/-- The window is a register file. -/
theorem isRegisterFile : IsRegisterFile view where
  read_ok offset io := ⟨_, _, rfl⟩
  write_ok offset value io := ⟨_, rfl⟩
  afe_idle h := by
    cases h
    exact busyBits_readControl _
  dac_idle h := by
    cases h
    have hnone : afeAt dacGainBiasControlOffset = none := by decide +kernel
    have hne : dacGainBiasControlOffset ≠ afeGlobalControlOffset := by decide
    rw [read, if_neg hne, hnone]
    change bit 0 dacBusyBit = 0
    decide
  read_keeps hrest h := by
    cases h
    exact ⟨hrest, rfl, rfl⟩
  read_control hrest h := by
    cases h
    rfl
  write_control hrest hidle h := by
    cases h
    exact ⟨hrest, if_pos hidle, fun _ ↦ rfl⟩
  write_other {offset value io io'} hrest hcontrol hafe h := by
    cases h
    have hnone : afeAt offset = none := by
      apply List.find?_eq_none.mpr
      intro afePl _
      simpa using hafe afePl
    rw [write, if_neg hcontrol, hnone]
    exact ⟨hrest, rfl, rfl⟩
  read_register {afePl register value backend backend'} hrest hpos hle h := by
    obtain ⟨rfl, rfl⟩ := eq_of_readRegister h
    have hafe := readWords_eq hpos hle (hrest afePl)
    have hlow : ((backend.io.afes afePl).registers register).toUInt32 &&& 0xFFFF =
        ((backend.io.afes afePl).registers register).toUInt32 := by
      apply UInt32.toNat_inj.mp
      rw [UInt32.toNat_and, UInt16.toNat_toUInt32]
      exact (Nat.and_two_pow_sub_one_eq_mod _ 16).trans (Nat.mod_eq_of_lt (UInt16.toNat_lt _))
    refine ⟨by rw [hafe, hlow]; rfl, rest_replace hrest (by rw [hafe]; exact hrest afePl), rfl, ?_⟩
    funext other number
    rw [registers_replace, hafe]
    by_cases heq : other = afePl
    · simp [heq, view]
    · simp [heq]
  write_register {afePl register value readback backend backend'} hrest hpos hle h := by
    obtain rfl := eq_of_writeRegister h
    have hafe := writeWords_eq hpos hle (hrest afePl) value.toUInt16
    refine ⟨rest_replace hrest (by rw [hafe]; exact hrest afePl), rfl, ?_⟩
    funext other number
    rw [registers_replace, hafe, setRegister]
    by_cases heq : other = afePl
    · by_cases hnumber : number = register
      · simp [heq, hnumber]
      · simp [heq, hnumber, view]
    · simp [heq]

end SpiIo

end DaphneSc.Rpu.SpiDevice
