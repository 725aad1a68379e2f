import DaphneSc.Program.Safe
import Mathlib.Algebra.Group.Nat.Defs

/-!
# Run-time checks of plain arithmetic and slices

In a build with overflow checks, plain arithmetic on unsigned integers stops as soon as the exact
result has no place in the type, a shift stops when its distance is not below the width, and an
index or a slice stops when it reaches past the end in any build. Where a check holds, the operation
is the one that wraps around.
-/

namespace Program

universe u

/-- The unsigned machine integers, with their operations that wrap around. -/
class Unsigned (α : Type) extends Add α, Sub α, Mul α, ShiftLeft α, ShiftRight α where
  width : ℕ
  toNat : α → ℕ

instance : Unsigned UInt8 := ⟨8, UInt8.toNat⟩

instance : Unsigned UInt16 := ⟨16, UInt16.toNat⟩

instance : Unsigned UInt32 := ⟨32, UInt32.toNat⟩

/-! ## Operations -/

section Operations

variable {ε σ α : Type}

/-- A value that is there only if a condition holds. -/
def checked (c : Prop) [Decidable c] (a : α) : Prog ε σ α := if c then pure a else stop

section Arithmetic

variable [Unsigned α]

def checkedAdd (a b : α) : Prog ε σ α :=
  checked (Unsigned.toNat a + Unsigned.toNat b < 2 ^ Unsigned.width α) (a + b)

def checkedSub (a b : α) : Prog ε σ α :=
  checked (Unsigned.toNat b ≤ Unsigned.toNat a) (a - b)

def checkedMul (a b : α) : Prog ε σ α :=
  checked (Unsigned.toNat a * Unsigned.toNat b < 2 ^ Unsigned.width α) (a * b)

/-- Bits that leave the word are no overflow, only the distance is checked. -/
def checkedShl (a distance : α) : Prog ε σ α :=
  checked (Unsigned.toNat distance < Unsigned.width α) (a <<< distance)

def checkedShr (a distance : α) : Prog ε σ α :=
  checked (Unsigned.toNat distance < Unsigned.width α) (a >>> distance)

end Arithmetic

def checkedIndex (xs : List α) (i : ℕ) : Prog ε σ α :=
  match xs[i]? with
  | some a => pure a
  | none => stop

/-- The elements from `start` up to `stop`, which is left out. -/
def checkedSlice (xs : List α) (start stop : ℕ) : Prog ε σ (List α) :=
  checked (start ≤ stop ∧ stop ≤ xs.length) ((xs.drop start).take (stop - start))

/-- A slice as an array of a fixed length. -/
def checkedArray (n : ℕ) (xs : List α) : Prog ε σ (Vector α n) :=
  if h : xs.length = n then pure ⟨xs.toArray, by simpa using h⟩ else stop

end Operations

/-! ## Under the checks -/

section Rules

variable {ε σ α : Type} {c : Prop} [Decidable c]

theorem checked_of (h : c) (a : α) : (checked c a : Prog ε σ α) = pure a := if_pos h

theorem safe_checked {P : α → Prop} {a : α} (h : c) (ha : P a) :
    Safe P (checked c a : Prog ε σ α) := by
  rw [checked_of h]
  exact safe_pure ha

theorem within_checked {B : Bound σ} (a : α) : Within B (checked c a : Prog ε σ α) :=
  within_ite (within_pure _) within_stop

section Arithmetic

variable [Unsigned α]

theorem checkedAdd_of_lt (a b : α)
    (h : Unsigned.toNat a + Unsigned.toNat b < 2 ^ Unsigned.width α) :
    (checkedAdd a b : Prog ε σ α) = pure (a + b) := checked_of h _

theorem checkedSub_of_le (a b : α) (h : Unsigned.toNat b ≤ Unsigned.toNat a) :
    (checkedSub a b : Prog ε σ α) = pure (a - b) := checked_of h _

theorem checkedMul_of_lt (a b : α)
    (h : Unsigned.toNat a * Unsigned.toNat b < 2 ^ Unsigned.width α) :
    (checkedMul a b : Prog ε σ α) = pure (a * b) := checked_of h _

theorem checkedShl_of_lt (a distance : α) (h : Unsigned.toNat distance < Unsigned.width α) :
    (checkedShl a distance : Prog ε σ α) = pure (a <<< distance) := checked_of h _

theorem checkedShr_of_lt (a distance : α) (h : Unsigned.toNat distance < Unsigned.width α) :
    (checkedShr a distance : Prog ε σ α) = pure (a >>> distance) := checked_of h _

variable {B : Bound σ}

theorem within_checkedAdd (a b : α) : Within B (checkedAdd a b : Prog ε σ α) := within_checked _

theorem within_checkedSub (a b : α) : Within B (checkedSub a b : Prog ε σ α) := within_checked _

theorem within_checkedShl (a distance : α) :
    Within B (checkedShl a distance : Prog ε σ α) := within_checked _

end Arithmetic

theorem checkedIndex_of_lt {xs : List α} {i : ℕ} (h : i < xs.length) :
    (checkedIndex xs i : Prog ε σ α) = pure xs[i] := by
  unfold checkedIndex
  rw [List.getElem?_eq_getElem h]

theorem checkedSlice_of_le {xs : List α} {start length : ℕ} (h : start + length ≤ xs.length) :
    (checkedSlice xs start (start + length) : Prog ε σ (List α)) =
      pure ((xs.drop start).take length) := by
  unfold checkedSlice
  rw [checked_of ⟨Nat.le_add_right _ _, h⟩, Nat.add_sub_cancel_left]

theorem checkedArray_of_length {n : ℕ} {xs : List α} (h : xs.length = n) :
    (checkedArray n xs : Prog ε σ (Vector α n)) = pure ⟨xs.toArray, by simpa using h⟩ := dif_pos h

end Rules

end Program
