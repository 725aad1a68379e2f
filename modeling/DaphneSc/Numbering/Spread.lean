import Mathlib.Data.List.Basic
import Mathlib.Order.Nat
import Mathlib.Tactic.Common

/-!
# Numbers issued around a circle

Numbers are issued in order around a circle of `size` of them, and now and then the last few before
a full turn are skipped. Each issue has a position on the line that covers the circle, and a number
is its position up to `size`. As at most `skip` positions are passed over in a turn, two issues of
the same number have nearly a full turn of other issues between them.
-/

namespace Numbering

variable {size skip : ℕ}

/-- From one position to a later one, `issues` numbers were issued. -/
structure Passed (size skip issues «from» «to» : ℕ) : Prop where
  lt : «from» < «to»
  le : «to» ≤ «from» + issues + skip * («to» / size - «from» / size)

/-- The positions of the issues so far, and the next free position. -/
structure Spread (size skip : ℕ) (positions : List ℕ) (next : ℕ) : Prop where
  before_next : ∀ i a, positions[i]? = some a → Passed size skip (positions.length - i) a next
  between : ∀ i j a b, i < j → positions[i]? = some a → positions[j]? = some b →
    Passed size skip (j - i) a b

theorem spread_nil (next : ℕ) : Spread size skip [] next where
  before_next i a h := by simp at h
  between i j a b _ h := by simp at h

/-- Passing over positions at the end of a turn. -/
theorem Passed.skip_to {issues a next later : ℕ} (h : Passed size skip issues a next)
    (hle : next ≤ later) (hskip : later ≤ next + skip * (later / size - next / size)) :
    Passed size skip issues a later := by
  have hfirst : a / size ≤ next / size := Nat.div_le_div_right h.lt.le
  have hsecond : next / size ≤ later / size := Nat.div_le_div_right hle
  have hturns : later / size - a / size =
      (next / size - a / size) + (later / size - next / size) := by omega
  constructor
  · exact h.lt.trans_le hle
  · calc later ≤ next + skip * (later / size - next / size) := hskip
      _ ≤ a + issues + skip * (next / size - a / size) + skip * (later / size - next / size) :=
        Nat.add_le_add_right h.le _
      _ = a + issues + skip * (later / size - a / size) := by
        rw [hturns, Nat.mul_add, Nat.add_assoc]

theorem Passed.succ {issues a next : ℕ} (h : Passed size skip issues a next) :
    Passed size skip (issues + 1) a (next + 1) := by
  have hturns : next / size - a / size ≤ (next + 1) / size - a / size :=
    Nat.sub_le_sub_right (Nat.div_le_div_right (Nat.le_succ next)) _
  constructor
  · exact h.lt.trans (Nat.lt_succ_self next)
  · calc next + 1 ≤ a + issues + skip * (next / size - a / size) + 1 := Nat.succ_le_succ h.le
      _ ≤ a + issues + skip * ((next + 1) / size - a / size) + 1 :=
        Nat.succ_le_succ (Nat.add_le_add_left (Nat.mul_le_mul_left skip hturns) _)
      _ = a + (issues + 1) + skip * ((next + 1) / size - a / size) := by omega

variable {positions : List ℕ} {next : ℕ}

theorem Spread.skip_to (h : Spread size skip positions next) {later : ℕ} (hle : next ≤ later)
    (hskip : later ≤ next + skip * (later / size - next / size)) :
    Spread size skip positions later where
  before_next i a ha := (h.before_next i a ha).skip_to hle hskip
  between := h.between

/-- Issuing the next number. -/
theorem Spread.issue (h : Spread size skip positions next) :
    Spread size skip (positions ++ [next]) (next + 1) := by
  have hold : ∀ i a, (positions ++ [next])[i]? = some a →
      (i < positions.length ∧ positions[i]? = some a) ∨ (i = positions.length ∧ a = next) := by
    intro i a ha
    rcases Nat.lt_trichotomy i positions.length with hlt | heq | hgt
    · exact Or.inl ⟨hlt, by rwa [List.getElem?_append_left hlt] at ha⟩
    · rw [heq, List.getElem?_concat_length] at ha
      exact Or.inr ⟨heq, (Option.some.inj ha).symm⟩
    · rw [List.getElem?_eq_none (by simp; omega)] at ha
      cases ha
  constructor
  · intro i a ha
    rw [List.length_append, List.length_singleton]
    rcases hold i a ha with ⟨hlt, hmem⟩ | ⟨rfl, rfl⟩
    · have hissues : positions.length + 1 - i = positions.length - i + 1 := by omega
      rw [hissues]
      exact (h.before_next i a hmem).succ
    · rw [Nat.add_sub_cancel_left]
      exact ⟨Nat.lt_succ_self _, Nat.le_add_right _ _⟩
  · intro i j a b hij ha hb
    rcases hold j b hb with ⟨hlt, hmem⟩ | ⟨rfl, rfl⟩
    · rcases hold i a ha with ⟨-, hmem'⟩ | ⟨rfl, -⟩
      · exact h.between i j a b hij hmem' hmem
      · exact absurd hij (Nat.not_lt.mpr hlt.le)
    · rcases hold i a ha with ⟨-, hmem'⟩ | ⟨rfl, -⟩
      · exact h.before_next i a hmem'
      · exact absurd hij (Nat.lt_irrefl _)

/-- Issuing a block of consecutive numbers. -/
theorem Spread.issue_block (h : Spread size skip positions next) (count : ℕ) :
    Spread size skip (positions ++ List.range' next count) (next + count) := by
  induction count generalizing positions next with
  | zero => simpa using h
  | succ count ih =>
    have hblock := ih h.issue
    rwa [List.append_assoc, List.singleton_append, ← List.range'_succ, Nat.add_assoc,
      Nat.add_comm 1 count] at hblock

/-- Between two issues of one number there is nearly a full turn. -/
theorem Spread.turn_le (h : Spread size skip positions next) {i j a b : ℕ} (hij : i < j)
    (ha : positions[i]? = some a) (hb : positions[j]? = some b) (hsame : a % size = b % size) :
    size - skip ≤ j - i := by
  have hpassed := h.between i j a b hij ha hb
  have hdistance : a + size * (b / size - a / size) = b := by
    have hfirst := Nat.mod_add_div a size
    have hsecond := Nat.mod_add_div b size
    have hdiv : a / size ≤ b / size := Nat.div_le_div_right hpassed.lt.le
    rw [Nat.mul_sub]
    have hmul := Nat.mul_le_mul_left size hdiv
    omega
  have hturn : 0 < b / size - a / size := by
    apply Nat.pos_of_ne_zero
    intro hzero
    rw [hzero, Nat.mul_zero, Nat.add_zero] at hdistance
    exact absurd hpassed.lt (Nat.not_lt.mpr hdistance.ge)
  have hle : size * (b / size - a / size) ≤ j - i + skip * (b / size - a / size) := by
    have hbound := hpassed.le
    omega
  calc size - skip ≤ (size - skip) * (b / size - a / size) := Nat.le_mul_of_pos_right _ hturn
    _ = size * (b / size - a / size) - skip * (b / size - a / size) := Nat.sub_mul _ _ _
    _ ≤ j - i := Nat.sub_le_of_le_add hle

end Numbering
