import DaphneSc.Rpu.RegisterFile
import Mathlib.Data.List.Pairwise

/-!
# The fields of all AFE functions

Writing a function reads its register, replaces the bits of its field and writes the register back.
Over registers that hold what is stored in them this is a store of named values: the well-formed
fields of the table share no bit and are wide enough for their values, so each of them holds the
value last written to it, whatever is written to its neighbours in between.
-/

namespace DaphneSc.Rpu.FunctionFields

open Core.Afe Core.AfeFunctions Rpu.Mmio Rpu.Mmio.AfeMmioBackend Rpu.RegisterFile Program

/-! ## Writing a function -/

/-- Access to the registers of the AFEs. -/
structure RegisterAccess (ε σ : Type) where
  readRegister (afePl : UInt8) (register : UInt16) : Prog (MmioAfeError ε) σ UInt32
  writeRegister (afePl : UInt8) (register : UInt16) (value : UInt32) :
    Prog (MmioAfeError ε) σ UInt32

section Write

variable {ε σ : Type}

/-- Writing a function through a given access to the registers. -/
def writeFunctionOn (access : RegisterAccess ε σ) (afePl : UInt8) (name : String)
    (value : UInt16) : Prog (MmioAfeError ε) σ UInt32 := do
  let orError {α : Type} (result : Except AfeFunctionError α) : Prog (MmioAfeError ε) σ α :=
    ofResult (result.mapError fun err ↦ functionError err value)
  ofResult (validateAfe afePl)
  let spec ← orError (validateAfeFunctionValue name value)
  let _ ← orError spec.field.mask
  let current ← access.readRegister afePl spec.field.register
  let updated ← orError (replaceAfeFunctionBits current.toUInt16 spec.field value)
  let _ ← access.writeRegister afePl spec.field.register updated.toUInt32
  let readback ← access.readRegister afePl spec.field.register
  let extracted ← orError (extractAfeFunctionBits readback.toUInt16 spec.field)
  return extracted.toUInt32

/-- The backend writes a function through its own access to the registers. -/
theorem writeAfeFunction_eq_writeFunctionOn {I : Type} [RegisterIo I ε] :
    (writeAfeFunction : UInt8 → String → UInt16 → BackendProg I ε UInt32) =
      writeFunctionOn ⟨readRegister, writeRegister⟩ := by
  funext afePl name value
  rw [writeAfeFunction_eq]
  rfl

end Write

/-! ## Registers that hold what is stored -/

/-- The registers of the AFEs, with the number of accesses made to them. -/
structure AfeRegisters where
  registers : UInt8 → UInt16 → UInt16
  accesses : ℕ

namespace AfeRegisters

/-- A read returns what the register holds, and a write stores the value. -/
def access : RegisterAccess Empty AfeRegisters where
  readRegister afePl register := modifyGet fun map ↦
    ((map.registers afePl register).toUInt32, { map with accesses := map.accesses + 1 })
  writeRegister afePl register value := modifyGet fun map ↦
    (value &&& 0xFFFF, {
      registers := setRegister map.registers afePl register value.toUInt16
      accesses := map.accesses + 1 })

theorem run_readRegister (afePl : UInt8) (register : UInt16) (map : AfeRegisters) :
    access.readRegister afePl register map =
      .ok (map.registers afePl register).toUInt32 { map with accesses := map.accesses + 1 } := rfl

theorem run_writeRegister (afePl : UInt8) (register : UInt16) (value : UInt32)
    (map : AfeRegisters) : access.writeRegister afePl register value map =
      .ok (value &&& 0xFFFF) {
        registers := setRegister map.registers afePl register value.toUInt16
        accesses := map.accesses + 1 } := rfl

end AfeRegisters

open AfeRegisters

/-- Writing a function on such registers. -/
def writeFunction (afePl : UInt8) (name : String) (value : UInt16) :
    Prog (MmioAfeError Empty) AfeRegisters UInt32 :=
  writeFunctionOn AfeRegisters.access afePl name value

/-- A function of the table with a well-formed field and a value it accepts, on an AFE. -/
structure Accepted (afePl : UInt8) (name : String) (value : UInt16) (spec : AfeFunctionSpec)
    (mask : UInt16) : Prop where
  afe : afePl.toNat < afeCount
  find : findAfeFunction name = some spec
  contains : spec.values.contains value = true
  mask : spec.field.mask = .ok mask

/-! ## The table -/

/-- All values a function accepts are below a limit. -/
def areBelow (values : AfeFunctionValues) (limit : ℕ) : Bool :=
  match values with
  | .range _ max => max.toNat < limit
  | .options values => values.all fun value ↦ value.toNat < limit

theorem lt_of_areBelow {values : AfeFunctionValues} {limit : ℕ} (h : areBelow values limit = true)
    {value : UInt16} (hcontains : values.contains value = true) : value.toNat < limit := by
  cases values with
  | range min max =>
    have hmax : max.toNat < limit := of_decide_eq_true h
    have hle : value ≤ max := of_decide_eq_true (Bool.and_elim_right hcontains)
    exact lt_of_le_of_lt (UInt16.le_iff_toNat_le.mp hle) hmax
  | options values =>
    have hmem : value ∈ values := List.contains_iff_mem.mp hcontains
    exact of_decide_eq_true (List.all_eq_true.mp h value hmem)

/-- The bits of a well-formed field, moved down, are low bits, and enough for all values. -/
def isWide (spec : AfeFunctionSpec) : Bool :=
  let width := spec.field.msb.toNat - spec.field.lsb.toNat + 1
  match spec.field.mask with
  | .ok mask => (mask >>> spec.field.lsb.toUInt16).toNat == 2 ^ width - 1 &&
      areBelow spec.values (2 ^ width)
  | .error _ => true

theorem isWide_afeFunctions : (afeFunctions.all isWide) = true := by decide +kernel

/-- An accepted value fits its field. -/
theorem fits_of_isWide {spec : AfeFunctionSpec} {mask value : UInt16} (h : isWide spec = true)
    (hmask : spec.field.mask = .ok mask) (hcontains : spec.values.contains value = true) :
    spec.field.Fits mask value := by
  unfold isWide at h
  rw [hmask] at h
  obtain ⟨hlow, hbelow⟩ := Bool.and_eq_true_iff.mp h
  have hvalue := lt_of_areBelow hbelow hcontains
  have hshift : ((value <<< spec.field.lsb.toUInt16) &&& mask) >>> spec.field.lsb.toUInt16 =
      value &&& (mask >>> spec.field.lsb.toUInt16) := by
    apply UInt16.toBitVec_inj.mp
    simp only [UInt16.toBitVec_shiftRight, UInt16.toBitVec_and, UInt16.toBitVec_shiftLeft]
    exact Bits.shiftLeft_and_shiftRight _ _ _
  unfold AfeBitField.Fits
  rw [hshift]
  apply UInt16.toNat_inj.mp
  rw [UInt16.toNat_and, eq_of_beq hlow, Nat.and_two_pow_sub_one_eq_mod, Nat.mod_eq_of_lt hvalue]

/-- Two functions have different names, and fields in different registers or without a bit in
common. -/
def areApart (spec spec' : AfeFunctionSpec) : Bool :=
  spec.name != spec'.name && (spec.field.register != spec'.field.register ||
    match spec.field.mask, spec'.field.mask with
    | .ok mask, .ok mask' => mask &&& mask' == 0
    | _, _ => true)

theorem areApart_afeFunctions : afeFunctions.Pairwise fun spec spec' ↦ areApart spec spec' =
    true := by
  decide +kernel

theorem areApart_symm {spec spec' : AfeFunctionSpec} (h : areApart spec spec' = true) :
    areApart spec' spec = true := by
  unfold areApart at h ⊢
  rw [bne_comm (a := spec'.name), bne_comm (a := spec'.field.register)]
  cases hmask : spec.field.mask with
  | error err =>
    rw [hmask] at h
    cases spec'.field.mask with
    | error err' => exact h
    | ok mask' => exact h
  | ok mask =>
    rw [hmask] at h
    cases hmask' : spec'.field.mask with
    | error err' =>
      rw [hmask'] at h
      exact h
    | ok mask' =>
      rw [hmask'] at h
      dsimp only at h ⊢
      rw [UInt16.and_comm]
      exact h

/-- Different functions of the table are apart. -/
theorem areApart_of_ne {spec spec' : AfeFunctionSpec} (hmem : spec ∈ afeFunctions)
    (hmem' : spec' ∈ afeFunctions) (hne : spec ≠ spec') : areApart spec spec' = true := by
  have hsymm : Std.Symm fun spec spec' ↦ areApart spec spec' = true :=
    ⟨fun _ _ h ↦ areApart_symm h⟩
  exact List.Pairwise.forall areApart_afeFunctions hmem hmem' hne

theorem find_spec {name : String} {spec : AfeFunctionSpec} (h : findAfeFunction name = some spec) :
    spec ∈ afeFunctions ∧ spec.name = name :=
  ⟨List.mem_of_find?_eq_some h,
    eq_of_beq (List.find?_some (p := fun spec : AfeFunctionSpec ↦ spec.name == name) h)⟩

/-! ## One write -/

section OneWrite

variable {afePl : UInt8} {name : String} {value mask : UInt16} {spec : AfeFunctionSpec}

theorem validate_of_accepted (h : Accepted afePl name value spec mask) :
    validateAfeFunctionValue name value = .ok spec := by
  unfold validateAfeFunctionValue
  rw [h.find]
  exact if_pos h.contains

/-- An accepted write stores the value in its field and returns it. -/
theorem writeFunction_of_accepted (h : Accepted afePl name value spec mask) (map : AfeRegisters) :
    ∃ updated, replaceAfeFunctionBits (map.registers afePl spec.field.register) spec.field value =
        .ok updated ∧
      writeFunction afePl name value map = .ok value.toUInt32
        { registers := setRegister map.registers afePl spec.field.register updated
          accesses := map.accesses + 3 } := by
  obtain ⟨hmem, -⟩ := find_spec h.find
  have hfits := fits_of_isWide (List.all_eq_true.mp isWide_afeFunctions spec hmem) h.mask h.contains
  obtain ⟨updated, hupdated⟩ : ∃ updated, replaceAfeFunctionBits
      (map.registers afePl spec.field.register) spec.field value = .ok updated := by
    unfold replaceAfeFunctionBits
    rw [h.mask]
    exact ⟨_, rfl⟩
  have hextract := extract_of_replaced h.mask hfits hupdated
  have hafe : (validateAfe afePl : Except (MmioAfeError Empty) Unit) = .ok () := if_pos h.afe
  have hstored : setRegister map.registers afePl spec.field.register updated afePl
      spec.field.register = updated := if_pos ⟨rfl, rfl⟩
  refine ⟨updated, hupdated, ?_⟩
  unfold writeFunction writeFunctionOn
  rw [hafe, validate_of_accepted h]
  simp only [Except.mapError, ofResult_ok, pure_bind, h.mask]
  rw [run_bind, run_readRegister]
  dsimp only
  rw [UInt16.toUInt16_toUInt32, hupdated]
  simp only [ofResult_ok, pure_bind]
  rw [run_bind, run_writeRegister]
  dsimp only
  rw [run_bind, run_readRegister]
  dsimp only
  rw [UInt16.toUInt16_toUInt32, UInt16.toUInt16_toUInt32, hstored, hextract]
  rfl

/-- A write that is not accepted fails without an access. -/
theorem writeFunction_of_not_accepted (h : ¬ ∃ spec mask, Accepted afePl name value spec mask)
    (map : AfeRegisters) : ∃ err, writeFunction afePl name value map = .error (.error err) map := by
  unfold writeFunction writeFunctionOn
  by_cases hafe : afePl.toNat < afeCount
  · rw [validateAfe, if_pos hafe]
    cases hvalid : validateAfeFunctionValue name value with
    | error err => exact ⟨_, rfl⟩
    | ok spec =>
      cases hmask : spec.field.mask with
      | error err =>
        simp only [Except.mapError, ofResult_ok, ofResult_error, pure_bind, hmask, fail_bind]
        exact ⟨_, rfl⟩
      | ok mask =>
        refine absurd ⟨spec, mask, ?_⟩ h
        unfold validateAfeFunctionValue at hvalid
        cases hfind : findAfeFunction name with
        | none =>
          rw [hfind] at hvalid
          cases hvalid
        | some spec' =>
          rw [hfind] at hvalid
          by_cases hcontains : spec'.values.contains value = true
          · simp only [hcontains, if_true, Except.ok.injEq] at hvalid
            subst hvalid
            exact ⟨hafe, hfind, hcontains, hmask⟩
          · simp [hcontains] at hvalid
  · rw [validateAfe, if_neg hafe]
    exact ⟨_, rfl⟩

end OneWrite

/-! ## Sequences of writes -/

/-- A write of a function of an AFE. -/
structure Call where
  afePl : UInt8
  name : String
  value : UInt16

/-- The registers, and the values last written with success. -/
structure Progress where
  map : AfeRegisters
  written : UInt8 → String → Option UInt16

/-- Carry out a write, and remember its value when it succeeds. -/
def perform (progress : Progress) (call : Call) : Progress :=
  match writeFunction call.afePl call.name call.value progress.map with
  | .ok _ map =>
    { map := map
      written := fun afePl name ↦
        if afePl = call.afePl ∧ name = call.name then some call.value
        else progress.written afePl name }
  | .error _ map => { progress with map := map }

/-- Carry out writes one after the other, from registers with some content. -/
def performAll (initial : UInt8 → UInt16 → UInt16) (calls : List Call) : Progress :=
  calls.foldl perform ⟨⟨initial, 0⟩, fun _ _ ↦ none⟩

/-- Every well-formed field holds the value last written to it, or what it held at first. -/
def Holds (initial : UInt8 → UInt16 → UInt16) (progress : Progress) : Prop :=
  ∀ afePl : UInt8, ∀ spec ∈ afeFunctions, ∀ mask, spec.field.mask = .ok mask →
    extractAfeFunctionBits (progress.map.registers afePl spec.field.register) spec.field =
      match progress.written afePl spec.name with
      | some value => .ok value
      | none => extractAfeFunctionBits (initial afePl spec.field.register) spec.field

/-- Replacing the field of a function leaves the fields of the others as they were. -/
theorem extract_setRegister_of_ne {registers : UInt8 → UInt16 → UInt16} {afePl afe : UInt8}
    {spec other : AfeFunctionSpec} {mask otherMask value updated : UInt16}
    (hmem : spec ∈ afeFunctions) (hother : other ∈ afeFunctions)
    (hmask : spec.field.mask = .ok mask)
    (hotherMask : other.field.mask = .ok otherMask) (hne : afe ≠ afePl ∨ other ≠ spec)
    (hupdated : replaceAfeFunctionBits (registers afePl spec.field.register) spec.field value =
      .ok updated) :
    extractAfeFunctionBits
        (setRegister registers afePl spec.field.register updated afe other.field.register)
        other.field =
      extractAfeFunctionBits (registers afe other.field.register) other.field := by
  by_cases hsame : afe = afePl ∧ other.field.register = spec.field.register
  · obtain ⟨rfl, hregister⟩ := hsame
    have hapart := areApart_of_ne hmem hother (hne.resolve_left (fun h ↦ h rfl)).symm
    have hdisjoint : mask &&& otherMask = 0 := by
      simp only [areApart, hmask, hotherMask, hregister, bne_self_eq_false, Bool.false_or,
        Bool.and_eq_true, beq_iff_eq] at hapart
      exact hapart.2
    rw [setRegister, if_pos ⟨rfl, hregister⟩,
      extract_of_replaced_disjoint hmask hotherMask hdisjoint hupdated, hregister]
  · rw [setRegister, if_neg hsame]

/-- One write keeps all fields at the values last written. -/
theorem holds_perform {initial : UInt8 → UInt16 → UInt16} {progress : Progress}
    (h : Holds initial progress) (call : Call) : Holds initial (perform progress call) := by
  by_cases haccepted : ∃ spec mask, Accepted call.afePl call.name call.value spec mask
  · obtain ⟨spec, mask, haccepted⟩ := haccepted
    obtain ⟨updated, hupdated, hrun⟩ := writeFunction_of_accepted haccepted progress.map
    obtain ⟨hmem, hname⟩ := find_spec haccepted.find
    intro afePl other hother otherMask hotherMask
    unfold perform
    rw [hrun]
    dsimp only
    by_cases hsame : afePl = call.afePl ∧ other = spec
    · obtain ⟨rfl, rfl⟩ := hsame
      have hfits := fits_of_isWide (List.all_eq_true.mp isWide_afeFunctions other hmem)
        haccepted.mask haccepted.contains
      rw [if_pos ⟨rfl, hname⟩, setRegister, if_pos ⟨rfl, rfl⟩,
        extract_of_replaced haccepted.mask hfits hupdated]
    · have hne : afePl ≠ call.afePl ∨ other ≠ spec := not_and_or.mp hsame
      have hnot : ¬ (afePl = call.afePl ∧ other.name = call.name) := by
        rintro ⟨hafe, hnames⟩
        have hapart := areApart_of_ne hother hmem (hne.resolve_left (fun h ↦ h hafe))
        rw [areApart, hnames, hname, bne_self_eq_false, Bool.false_and] at hapart
        exact Bool.false_ne_true hapart
      rw [if_neg hnot,
        extract_setRegister_of_ne hmem hother haccepted.mask hotherMask hne hupdated]
      exact h afePl other hother otherMask hotherMask
  · obtain ⟨err, hrun⟩ := writeFunction_of_not_accepted haccepted progress.map
    unfold perform
    rw [hrun]
    exact h

/-- Whatever the registers hold, a write that is accepted returns its value, one that is not fails
without an access, and after any sequence of writes every well-formed field of the table holds, on
every AFE, the value last written to it with success, or what it held at first. -/
theorem functions_hold (initial : UInt8 → UInt16 → UInt16) (calls : List Call) :
    (∀ (call : Call) (map : AfeRegisters),
      ((∃ map', writeFunction call.afePl call.name call.value map =
          .ok call.value.toUInt32 map') ↔
        ∃ spec mask, Accepted call.afePl call.name call.value spec mask) ∧
      ((∃ err, writeFunction call.afePl call.name call.value map = .error (.error err) map) ↔
        ¬ ∃ spec mask, Accepted call.afePl call.name call.value spec mask)) ∧
      Holds initial (performAll initial calls) := by
  constructor
  · intro call map
    by_cases haccepted : ∃ spec mask, Accepted call.afePl call.name call.value spec mask
    · have hreturns : ∃ map', writeFunction call.afePl call.name call.value map =
          .ok call.value.toUInt32 map' := by
        obtain ⟨spec, mask, haccepted⟩ := haccepted
        obtain ⟨updated, -, hrun⟩ := writeFunction_of_accepted haccepted map
        exact ⟨_, hrun⟩
      refine ⟨iff_of_true hreturns haccepted, iff_of_false ?_ (not_not_intro haccepted)⟩
      rintro ⟨err, hfails⟩
      obtain ⟨map', hrun⟩ := hreturns
      rw [hrun] at hfails
      cases hfails
    · have hfails := writeFunction_of_not_accepted haccepted map
      refine ⟨iff_of_false ?_ haccepted, iff_of_true hfails haccepted⟩
      rintro ⟨map', hrun⟩
      obtain ⟨err, hfails⟩ := hfails
      rw [hrun] at hfails
      cases hfails
  · have hfold : ∀ progress, Holds initial progress →
        Holds initial (calls.foldl perform progress) := by
      induction calls with
      | nil => exact fun _ h ↦ h
      | cons call calls ih => exact fun progress h ↦ ih _ (holds_perform h call)
    exact hfold _ fun _ _ _ _ _ ↦ rfl

end DaphneSc.Rpu.FunctionFields
