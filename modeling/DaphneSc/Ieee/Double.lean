import Mathlib.Data.EReal.Basic

/-!
# IEEE doubles by their bits

A double is a number, finite or infinite, or not a number. All finite doubles are integer multiples
of the smallest positive one, so they are compared as integers, and comparisons with what is not a
number are false.
-/

namespace Ieee

/-- What the bits of a double stand for. Finite values are counted in units of `2 ^ (-1074)`. -/
inductive Datum where
  | nan (negative : Bool)
  | infinite (negative : Bool)
  | finite (negative : Bool) (units : ℕ)
  deriving DecidableEq, Repr

def decode (bits : UInt64) : Datum :=
  let negative : Bool := 2 ^ 63 ≤ bits.toNat
  let exponent := bits.toNat / 2 ^ 52 % 2 ^ 11
  let fraction := bits.toNat % 2 ^ 52
  if exponent = 2047 then
    if fraction = 0 then .infinite negative else .nan negative
  else if exponent = 0 then .finite negative fraction
  else .finite negative ((2 ^ 52 + fraction) * 2 ^ (exponent - 1))

/-- The integer of a sign and a magnitude. -/
def signed (negative : Bool) (units : ℕ) : ℤ := if negative then -units else units

namespace Datum

/-- The operator `<`. -/
def lt : Datum → Datum → Bool
  | finite s m, finite t n => signed s m < signed t n
  | finite _ _, infinite t => !t
  | infinite s, finite _ _ => s
  | infinite s, infinite t => s && !t
  | _, _ => false

def isNaN : Datum → Bool
  | nan _ => true
  | _ => false

/-! ## Decimal fractions -/

/-- The quotient rounded to the nearest integer, and to an even one in the middle. -/
def divRoundEven (m n : ℕ) : ℕ :=
  let quotient := m / n
  let remainder := m % n
  if 2 * remainder < n then quotient
  else if n < 2 * remainder then quotient + 1
  else quotient + quotient % 2

def sign (negative : Bool) : List Char := if negative then ['-'] else []

/-- The decimal fraction with a fixed number of places. -/
def toFixed (places : ℕ) : Datum → List Char
  | nan negative => sign negative ++ ['n', 'a', 'n']
  | infinite negative => sign negative ++ ['i', 'n', 'f']
  | finite negative units =>
    let scaled := divRoundEven (units * 10 ^ places) (2 ^ 1074)
    let fraction := Nat.toDigits 10 (scaled % 10 ^ places)
    sign negative ++ Nat.toDigits 10 (scaled / 10 ^ places) ++ ['.'] ++
      List.replicate (places - fraction.length) '0' ++ fraction

/-! ## Extended reals -/

noncomputable def finiteValue (negative : Bool) (units : ℕ) : ℝ :=
  signed negative units * 2 ^ (-1074 : ℤ)

/-- The number that a double stands for, if any. -/
noncomputable def value : Datum → Option EReal
  | nan _ => none
  | infinite negative => some (if negative then ⊥ else ⊤)
  | finite negative units => some (finiteValue negative units)

theorem finiteValue_lt_iff {s t : Bool} {m n : ℕ} :
    finiteValue s m < finiteValue t n ↔ signed s m < signed t n := by
  have hunit : (0 : ℝ) < 2 ^ (-1074 : ℤ) := zpow_pos zero_lt_two _
  rw [finiteValue, finiteValue, mul_lt_mul_iff_left₀ hunit, Int.cast_lt]

variable {a b : Datum} {x y : EReal}

theorem value_eq_none_iff : a.value = none ↔ a.isNaN = true := by
  cases a with
  | nan negative => exact ⟨fun _ ↦ rfl, fun _ ↦ rfl⟩
  | infinite negative => simp [value, isNaN]
  | finite negative units => simp [value, isNaN]

theorem exists_value_iff : (∃ x, a.value = some x) ↔ a.isNaN = false := by
  rw [← Option.ne_none_iff_exists', ne_eq, value_eq_none_iff, Bool.not_eq_true]

/-- Numbers are compared as what they stand for. -/
theorem lt_eq_true_iff (ha : a.value = some x) (hb : b.value = some y) :
    a.lt b = true ↔ x < y := by
  cases a with
  | nan s => cases ha
  | infinite s =>
    obtain rfl := Option.some.inj ha
    cases b with
    | nan t => cases hb
    | infinite t =>
      obtain rfl := Option.some.inj hb
      cases s <;> cases t <;> simp [lt]
    | finite t n =>
      obtain rfl := Option.some.inj hb
      cases s with
      | true => simp [lt, EReal.bot_lt_coe]
      | false => simp [lt]
  | finite s m =>
    obtain rfl := Option.some.inj ha
    cases b with
    | nan t => cases hb
    | infinite t =>
      obtain rfl := Option.some.inj hb
      cases t with
      | true => simp [lt]
      | false => simp [lt, EReal.coe_lt_top]
    | finite t n =>
      obtain rfl := Option.some.inj hb
      rw [EReal.coe_lt_coe_iff, finiteValue_lt_iff, lt, decide_eq_true_iff]

theorem lt_eq_false_iff (ha : a.value = some x) (hb : b.value = some y) :
    a.lt b = false ↔ y ≤ x := by
  rw [← not_lt, ← lt_eq_true_iff ha hb, Bool.not_eq_true]

theorem lt_of_isNaN_left (h : a.isNaN = true) : a.lt b = false := by
  cases a with
  | nan s => cases b <;> rfl
  | infinite s => cases h
  | finite s m => cases h

theorem lt_of_isNaN_right (h : b.isNaN = true) : a.lt b = false := by
  cases b with
  | nan t => cases a <;> rfl
  | infinite t => cases h
  | finite t n => cases h

/-- A comparison that comes out true is one of numbers. -/
theorem exists_of_lt (h : a.lt b = true) :
    ∃ x y, a.value = some x ∧ b.value = some y ∧ x < y := by
  have ha : a.isNaN = false := by
    by_contra hnan
    rw [lt_of_isNaN_left (Bool.not_eq_false _ ▸ hnan)] at h
    cases h
  have hb : b.isNaN = false := by
    by_contra hnan
    rw [lt_of_isNaN_right (Bool.not_eq_false _ ▸ hnan)] at h
    cases h
  obtain ⟨x, hx⟩ := exists_value_iff.mpr ha
  obtain ⟨y, hy⟩ := exists_value_iff.mpr hb
  exact ⟨x, y, hx, hy, (lt_eq_true_iff hx hy).mp h⟩

end Datum

end Ieee
