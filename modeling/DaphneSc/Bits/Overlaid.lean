import Mathlib.Data.Nat.Bitwise
import Mathlib.Tactic.Common

/-!
# A counter laid over a shifted number

A number is shifted to the left and a counter is laid over it by exclusive or; what does not fit the
width is cut off. The low part of the result is the low part of the counter. Above it, the counter
and the number are mixed, so that only their exclusive or is left.
-/

namespace Bits

/-- Lay a counter over a shifted number, and cut the result to the width. -/
def overlay (width shift number counter : ℕ) : ℕ := ((number <<< shift) ^^^ counter) % 2 ^ width

variable {width shift : ℕ}

theorem testBit_overlay (number counter i : ℕ) :
    (overlay width shift number counter).testBit i =
      (decide (i < width) &&
        ((decide (shift ≤ i) && number.testBit (i - shift)) ^^ counter.testBit i)) := by
  rw [overlay, Nat.testBit_mod_two_pow, Nat.testBit_xor, Nat.testBit_shiftLeft]

theorem mod_two_pow_eq_iff {a b : ℕ} :
    a % 2 ^ width = b % 2 ^ width ↔ ∀ i < width, a.testBit i = b.testBit i := by
  constructor
  · intro h i hi
    have hbit := congrArg (Nat.testBit · i) h
    simpa [Nat.testBit_mod_two_pow, hi] using hbit
  · intro h
    apply Nat.eq_of_testBit_eq
    intro i
    rw [Nat.testBit_mod_two_pow, Nat.testBit_mod_two_pow]
    by_cases hi : i < width
    · rw [h i hi]
    · simp [hi]

/-- Two results agree when the counters do in the low part, and above it the exclusive or of the
numbers is that of the counters. -/
theorem overlay_eq_iff (h : shift ≤ width) (number number' counter counter' : ℕ) :
    overlay width shift number counter = overlay width shift number' counter' ↔
      counter % 2 ^ shift = counter' % 2 ^ shift ∧
        (number ^^^ number') % 2 ^ (width - shift) =
          (counter / 2 ^ shift ^^^ counter' / 2 ^ shift) % 2 ^ (width - shift) := by
  have hbits : overlay width shift number counter = overlay width shift number' counter' ↔
      ∀ i < width, ((decide (shift ≤ i) && number.testBit (i - shift)) ^^ counter.testBit i) =
        ((decide (shift ≤ i) && number'.testBit (i - shift)) ^^ counter'.testBit i) := by
    constructor
    · intro heq i hi
      have hbit := congrArg (Nat.testBit · i) heq
      simpa [testBit_overlay, hi] using hbit
    · intro hbits
      apply Nat.eq_of_testBit_eq
      intro i
      rw [testBit_overlay, testBit_overlay]
      by_cases hi : i < width
      · rw [hbits i hi]
      · simp [hi]
  rw [hbits, mod_two_pow_eq_iff, mod_two_pow_eq_iff]
  constructor
  · intro hall
    constructor
    · intro i hi
      have hlow := hall i (hi.trans_le h)
      simpa [Nat.not_le.mpr hi] using hlow
    · intro i hi
      have hhigh := hall (i + shift) (by omega)
      rw [Nat.testBit_xor, Nat.testBit_xor, Nat.testBit_div_two_pow, Nat.testBit_div_two_pow]
      simp only [Nat.le_add_left, decide_true, Bool.true_and, Nat.add_sub_cancel] at hhigh
      revert hhigh
      cases number.testBit i <;> cases number'.testBit i <;>
        cases counter.testBit (i + shift) <;> cases counter'.testBit (i + shift) <;> simp
  · rintro ⟨hlow, hhigh⟩ i hi
    by_cases hshift : shift ≤ i
    · have hbit := hhigh (i - shift) (by omega)
      rw [Nat.testBit_xor, Nat.testBit_xor, Nat.testBit_div_two_pow, Nat.testBit_div_two_pow,
        Nat.sub_add_cancel hshift] at hbit
      revert hbit
      simp only [hshift, decide_true, Bool.true_and]
      cases number.testBit (i - shift) <;> cases number'.testBit (i - shift) <;>
        cases counter.testBit i <;> cases counter'.testBit i <;> simp
    · simpa [hshift] using hlow i (by omega)

end Bits
