import Mathlib.Data.List.Induction
import Mathlib.Data.List.Nodup
import Mathlib.Logic.Function.Basic

/-!
# Folding records into a function

Each record updates a function at its own key. With distinct keys the result holds every record's
value at its key, and elsewhere what was there before.
-/

namespace Slots

variable {α κ β : Type*} [DecidableEq κ]

/-- Update a function by every record in turn. -/
def updates (key : α → κ) (value : α → β) (records : List α) (f : κ → β) : κ → β :=
  records.foldl (fun f a ↦ Function.update f (key a) (value a)) f

variable {key : α → κ} {value : α → β} {records : List α}

@[simp] theorem updates_nil (f : κ → β) : updates key value [] f = f := rfl

theorem updates_append_singleton (records : List α) (a : α) (f : κ → β) :
    updates key value (records ++ [a]) f =
      Function.update (updates key value records f) (key a) (value a) := by
  simp [updates]

/-- A key no record has keeps its value. -/
theorem updates_of_notMem {k : κ} (h : k ∉ records.map key) (f : κ → β) :
    updates key value records f k = f k := by
  induction records using List.reverseRecOn with
  | nil => rfl
  | append_singleton records a ih =>
    rw [List.map_append, List.mem_append, not_or] at h
    have hne : k ≠ key a := by simpa using h.2
    rw [updates_append_singleton, Function.update_of_ne hne, ih h.1]

/-- With distinct keys, every record's key holds its value. -/
theorem updates_of_mem (hnodup : (records.map key).Nodup) {a : α} (ha : a ∈ records) (f : κ → β) :
    updates key value records f (key a) = value a := by
  induction records using List.reverseRecOn with
  | nil => exact absurd ha List.not_mem_nil
  | append_singleton records b ih =>
    rw [List.map_append, List.nodup_append] at hnodup
    obtain ⟨hrecords, -, hdisjoint⟩ := hnodup
    rw [updates_append_singleton]
    rcases List.mem_append.mp ha with hmem | hmem
    · have hne : key a ≠ key b := hdisjoint _ (List.mem_map_of_mem hmem) _ (by simp)
      rw [Function.update_of_ne hne, ih hrecords hmem]
    · rw [List.mem_singleton.mp hmem, Function.update_self]

/-- With distinct keys, the order of the records does not matter. -/
theorem updates_of_perm {records' : List α} (h : records.Perm records')
    (hnodup' : (records'.map key).Nodup) (f : κ → β) :
    updates key value records f = updates key value records' f := by
  have hnodup : (records.map key).Nodup := (h.map key).nodup_iff.mpr hnodup'
  funext k
  by_cases hk : k ∈ records.map key
  · obtain ⟨a, ha, rfl⟩ := List.mem_map.mp hk
    rw [updates_of_mem hnodup ha, updates_of_mem hnodup' (h.mem_iff.mp ha)]
  · have hk' : k ∉ records'.map key := fun hmem ↦ hk ((h.map key).mem_iff.mpr hmem)
    rw [updates_of_notMem hk, updates_of_notMem hk']

theorem updates_map {γ : Type*} (g : γ → α) (records : List γ) (f : κ → β) :
    updates key value (records.map g) f = updates (key ∘ g) (value ∘ g) records f := by
  rw [updates, updates, List.foldl_map]
  rfl

end Slots
