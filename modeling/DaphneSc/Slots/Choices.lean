import Mathlib.Data.List.Basic
import Mathlib.Logic.Function.Basic
import Mathlib.Tactic.Common

/-!
# Choices of a value for each key

Nested loops over the values of one key after the other go through all ways to choose a value for
each key. The last key varies fastest.
-/

namespace Slots

variable {ι α : Type*} [DecidableEq ι] {values : ι → List α} {i : ι} {l : List ι} {σ τ : ι → α}

/-- All ways to give every key of `l` one of its values, on top of the choice `σ`. -/
def choices (values : ι → List α) : List ι → (ι → α) → List (ι → α)
  | [], σ => [σ]
  | i :: l, σ => (values i).flatMap fun a ↦ choices values l (Function.update σ i a)

theorem choices_cons :
    choices values (i :: l) σ =
      (values i).flatMap fun a ↦ choices values l (Function.update σ i a) := rfl

theorem mem_choices (hl : l.Nodup) :
    τ ∈ choices values l σ ↔ (∀ i ∈ l, τ i ∈ values i) ∧ ∀ i ∉ l, τ i = σ i := by
  induction l generalizing σ with
  | nil =>
    rw [choices, List.mem_singleton]
    constructor
    · intro h
      exact ⟨fun i hi ↦ absurd hi List.not_mem_nil, fun i _ ↦ congrFun h i⟩
    · intro h
      ext i
      exact h.2 i List.not_mem_nil
  | cons i l ih =>
    obtain ⟨hi, hl⟩ := List.nodup_cons.mp hl
    rw [choices_cons, List.mem_flatMap]
    constructor
    · intro h
      obtain ⟨a, ha, hτ⟩ := h
      obtain ⟨hvalues, helse⟩ := (ih hl).mp hτ
      have hia : τ i = a := by rw [helse i hi, Function.update_self]
      constructor
      · intro j hj
        cases List.mem_cons.mp hj with
        | inl heq =>
          rw [heq, hia]
          exact ha
        | inr hmem => exact hvalues j hmem
      · intro j hj
        rw [helse j (fun hmem ↦ hj (List.mem_cons_of_mem _ hmem)),
          Function.update_of_ne (List.ne_of_not_mem_cons hj)]
    · intro h
      refine ⟨τ i, h.1 i List.mem_cons_self, (ih hl).mpr ⟨?_, ?_⟩⟩
      · exact fun j hj ↦ h.1 j (List.mem_cons_of_mem _ hj)
      · intro j hj
        by_cases hji : j = i
        · rw [hji, Function.update_self]
        · rw [Function.update_of_ne hji]
          exact h.2 j (List.not_mem_cons_of_ne_of_not_mem hji hj)

/-- There is a choice when every key has a value. -/
theorem choices_ne_nil (h : ∀ i ∈ l, values i ≠ []) : choices values l σ ≠ [] := by
  induction l generalizing σ with
  | nil => exact List.cons_ne_nil _ _
  | cons i l ih =>
    obtain ⟨hi, hl⟩ := List.forall_mem_cons.mp h
    obtain ⟨a, ha⟩ := List.exists_mem_of_ne_nil _ hi
    intro hnil
    exact ih hl (List.flatMap_eq_nil_iff.mp hnil a ha)

end Slots
