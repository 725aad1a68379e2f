import Mathlib.Logic.Function.Basic
import Mathlib.Tactic.Common

/-!
# Writes to typed cells

A store of cells takes a write when the cell exists and the value has the type of the one in it.
After a list of writes a cell holds the value of one that it has taken, or what it held before when
it has taken none of them.
-/

namespace Slots

variable {S α κ β τ : Type*}

/-- Reading after writing, where every cell keeps its type. -/
structure TypedStore (read : S → κ → Option β) (write : α → S → S) (key : α → κ) (value : α → β)
    (type : β → τ) : Prop where
  other : ∀ {a s k}, k ≠ key a → read (write a s) k = read s k
  taken : ∀ {a s b}, read s (key a) = some b → type (value a) = type b →
    read (write a s) (key a) = some (value a)
  refused : ∀ {a s b}, read s (key a) = some b → type (value a) ≠ type b →
    read (write a s) (key a) = some b

/-- A record for the cell that has the cell's type. -/
def Takes (key : α → κ) (value : α → β) (type : β → τ) (k : κ) (t : τ) (a : α) : Prop :=
  key a = k ∧ type (value a) = t

variable {read : S → κ → Option β} {write : α → S → S} {key : α → κ} {value : α → β}
  {type : β → τ} {s : S} {k : κ} {b : β} {a : α}

namespace TypedStore

variable (h : TypedStore read write key value type)
include h

theorem read_write_of_takes (hread : read s k = some b)
    (htakes : Takes key value type k (type b) a) :
    read (write a s) k = some (value a) := by
  obtain ⟨rfl, htype⟩ := htakes
  exact h.taken hread htype

theorem read_write_of_not_takes (hread : read s k = some b)
    (htakes : ¬ Takes key value type k (type b) a) : read (write a s) k = some b := by
  by_cases hkey : key a = k
  · subst hkey
    exact h.refused hread fun htype ↦ htakes ⟨rfl, htype⟩
  · exact (h.other (Ne.symm hkey)).trans hread

/-- A cell holds the value of a write that it has taken, or it has taken none and is unchanged. -/
theorem read_foldl (hread : read s k = some b) (records : List α) :
    ∃ b', read (records.foldl (fun s a ↦ write a s) s) k = some b' ∧ type b' = type b ∧
      ((∃ a ∈ records, Takes key value type k (type b) a ∧ b' = value a) ∨
        b' = b ∧ ∀ a ∈ records, ¬ Takes key value type k (type b) a) := by
  induction records generalizing s b with
  | nil => exact ⟨b, hread, rfl, .inr ⟨rfl, fun _ h ↦ absurd h List.not_mem_nil⟩⟩
  | cons a records ih =>
    rw [List.foldl_cons]
    by_cases htakes : Takes key value type k (type b) a
    · obtain ⟨b', hread', htype, hlast⟩ := ih (h.read_write_of_takes hread htakes)
      have htype' : type (value a) = type b := htakes.2
      rw [htype'] at htype hlast
      refine ⟨b', hread', htype, .inl ?_⟩
      rcases hlast with ⟨a', hmem, hlast⟩ | ⟨heq, -⟩
      · exact ⟨a', List.mem_cons_of_mem a hmem, hlast⟩
      · exact ⟨a, List.mem_cons_self, htakes, heq⟩
    · obtain ⟨b', hread', htype, hlast⟩ := ih (h.read_write_of_not_takes hread htakes)
      refine ⟨b', hread', htype, ?_⟩
      rcases hlast with ⟨a', hmem, hlast⟩ | ⟨heq, hnone⟩
      · exact .inl ⟨a', List.mem_cons_of_mem a hmem, hlast⟩
      · exact .inr ⟨heq, List.forall_mem_cons.2 ⟨htakes, hnone⟩⟩

/-- Writes to other cells leave a cell alone. -/
theorem read_foldl_of_ne {records : List α} (hne : ∀ a ∈ records, k ≠ key a) :
    read (records.foldl (fun s a ↦ write a s) s) k = read s k := by
  induction records generalizing s with
  | nil => rfl
  | cons a records ih =>
    obtain ⟨ha, hrecords⟩ := List.forall_mem_cons.1 hne
    rw [List.foldl_cons, ih hrecords, h.other ha]

end TypedStore

/-! ## Cells in a function -/

variable [DecidableEq κ] [DecidableEq τ]

/-- Write to a cell that exists and has the type of the value. -/
def put (key : α → κ) (value : α → β) (type : β → τ) (a : α) (f : κ → Option β) : κ → Option β :=
  match f (key a) with
  | none => f
  | some b => if type (value a) = type b then Function.update f (key a) (some (value a)) else f

theorem typedStore_put (key : α → κ) (value : α → β) (type : β → τ) :
    TypedStore (fun f k ↦ f k) (put key value type) key value type where
  other := by
    intro a f k hne
    cases hread : f (key a) with
    | none => simp only [put, hread]
    | some b =>
      simp only [put, hread]
      by_cases htype : type (value a) = type b
      · rw [if_pos htype, Function.update_of_ne hne]
      · rw [if_neg htype]
  taken := by
    intro a f b hread htype
    simp only [put, hread, if_pos htype, Function.update_self]
  refused := by
    intro a f b hread htype
    simp only [put, hread, if_neg htype]

end Slots
