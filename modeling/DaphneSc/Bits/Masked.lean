import Mathlib.Tactic.Common

/-!
# Words written under a mask

The bits of a value replace the bits of a word under a mask. Under the mask the word then has the
bits of the value, and under any mask that shares no bit with it the bits it had.
-/

namespace Bits

variable {w : ℕ}

/-- Put the bits of a value under a mask into a word. -/
def insert (mask value word : BitVec w) : BitVec w := (word &&& ~~~mask) ||| (value &&& mask)

theorem insert_and_self (mask value word : BitVec w) :
    insert mask value word &&& mask = value &&& mask := by
  ext i hi
  simp only [insert, BitVec.getElem_and, BitVec.getElem_or, BitVec.getElem_not]
  cases mask[i] <;> simp

theorem insert_and_of_disjoint {mask other : BitVec w} (h : mask &&& other = 0#w)
    (value word : BitVec w) : insert mask value word &&& other = word &&& other := by
  ext i hi
  have hbit : (mask[i] && other[i]) = false := by
    rw [← BitVec.getElem_and, h, BitVec.getElem_zero]
  simp only [insert, BitVec.getElem_and, BitVec.getElem_or, BitVec.getElem_not]
  revert hbit
  cases mask[i] <;> cases other[i] <;> simp

/-- Setting the bits of a mask. -/
theorem or_eq_insert (mask word : BitVec w) : word ||| mask = insert mask mask word := by
  ext i hi
  simp only [insert, BitVec.getElem_and, BitVec.getElem_or, BitVec.getElem_not]
  cases mask[i] <;> simp

/-- Clearing the bits of a mask. -/
theorem and_not_eq_insert (mask word : BitVec w) : word &&& ~~~mask = insert mask 0#w word := by
  rw [insert, BitVec.zero_and, BitVec.or_zero]

/-- A value shifted under a mask and back is the value under the mask shifted back. -/
theorem shiftLeft_and_shiftRight (value mask : BitVec w) (shift : ℕ) :
    ((value <<< shift) &&& mask) >>> shift = value &&& (mask >>> shift) := by
  ext i hi
  simp only [BitVec.getElem_ushiftRight, BitVec.getElem_and, BitVec.getLsbD_and,
    BitVec.getLsbD_shiftLeft]
  by_cases h : shift + i < w
  · have hge : ¬ shift + i < shift := by omega
    simp [h, hge, BitVec.getLsbD_eq_getElem hi]
  · simp [BitVec.getLsbD_of_ge _ _ (Nat.not_lt.mp h)]

end Bits
