import Mathlib.Data.List.Basic
import Mathlib.Tactic.Common

/-!
# Lists with missing entries

Dropping the missing entries of a list keeps every other entry at its place exactly when no missing
entry comes before a present one.
-/

namespace Slots

variable {α : Type*} {entries : List (Option α)}

/-- No missing entry comes before a present one. -/
def NoGaps (entries : List (Option α)) : Prop :=
  ∀ (i j : ℕ) (a : α), i < j → entries[j]? = some (some a) → ∃ b, entries[i]? = some (some b)

theorem noGaps_cons_some (a : α) : NoGaps (some a :: entries) ↔ NoGaps entries := by
  constructor
  · intro h i j b hij hb
    obtain ⟨c, hc⟩ := h (i + 1) (j + 1) b (Nat.succ_lt_succ hij) (by simpa using hb)
    exact ⟨c, by simpa using hc⟩
  · intro h i j b hij hb
    cases i with
    | zero => exact ⟨a, rfl⟩
    | succ i =>
      obtain ⟨j, rfl⟩ := Nat.exists_eq_succ_of_ne_zero (Nat.ne_zero_of_lt hij)
      obtain ⟨c, hc⟩ := h i j b (Nat.lt_of_succ_lt_succ hij) (by simpa using hb)
      exact ⟨c, by simpa using hc⟩

theorem noGaps_cons_none : NoGaps (none :: entries) ↔ entries.filterMap id = [] := by
  constructor
  · intro h
    apply List.filterMap_eq_nil_iff.mpr
    intro entry hmem
    cases entry with
    | none => rfl
    | some a =>
      obtain ⟨j, hj⟩ := List.mem_iff_getElem?.mp hmem
      obtain ⟨b, hb⟩ := h 0 (j + 1) a (Nat.succ_pos j) (by simpa using hj)
      simp at hb
  · intro h i j a hij ha
    obtain ⟨j, rfl⟩ := Nat.exists_eq_succ_of_ne_zero (Nat.ne_zero_of_lt hij)
    have hmem : some a ∈ entries := List.mem_of_getElem? (by simpa using ha)
    exact absurd (List.filterMap_eq_nil_iff.mp h _ hmem) (by simp)

/-- The present entries are at their places exactly when there is no gap. -/
theorem filterMap_at_places_iff : (∀ (i : ℕ) (a : α), (entries.filterMap id)[i]? = some a →
    entries[i]? = some (some a)) ↔ NoGaps entries := by
  induction entries with
  | nil => simp [NoGaps]
  | cons entry entries ih =>
    cases entry with
    | none =>
      rw [noGaps_cons_none]
      constructor
      · intro h
        apply List.eq_nil_iff_forall_not_mem.mpr
        intro a hmem
        have hpos := List.length_pos_of_mem hmem
        have hfirst := h 0 _ (List.getElem?_eq_getElem hpos)
        simp at hfirst
      · intro h i a ha
        rw [show List.filterMap id (none :: entries) = [] from h] at ha
        cases ha
    | some first =>
      rw [noGaps_cons_some, ← ih, List.filterMap_cons_some (f := id) rfl]
      constructor
      · intro h i a ha
        simpa using h (i + 1) a (by simpa using ha)
      · intro h i a ha
        cases i with
        | zero => simpa using ha
        | succ i => simpa using h i a (by simpa using ha)

/-- Without gaps, entries are present up to their number. -/
theorem noGaps_iff_present :
    NoGaps entries ↔ ∀ i < (entries.filterMap id).length, ∃ a, entries[i]? = some (some a) := by
  constructor
  · intro h i hi
    exact ⟨_, filterMap_at_places_iff.mpr h i _ (List.getElem?_eq_getElem hi)⟩
  · intro h
    induction entries with
    | nil => simp [NoGaps]
    | cons entry entries ih =>
      cases entry with
      | none =>
        rw [List.filterMap_cons_none rfl] at h
        apply noGaps_cons_none.mpr
        by_contra hne
        obtain ⟨a, ha⟩ := h 0 (List.length_pos_iff.mpr hne)
        simp at ha
      | some first =>
        rw [List.filterMap_cons_some (f := id) rfl] at h
        apply (noGaps_cons_some first).mpr
        apply ih
        intro i hi
        obtain ⟨a, ha⟩ := h (i + 1) (by simpa using hi)
        exact ⟨a, by simpa using ha⟩

end Slots
