import Mathlib.Data.List.Infix
import Mathlib.Data.List.Range
import Mathlib.Order.Nat
import Mathlib.Tactic.Common

/-!
# Searching and replacing in place

A search runs from a cursor on and gives the first position at which the needle stands. The
replacement of all occurrences works in place: it moves the cursor behind each replacement, so that
what has been put in is never searched again.
-/

namespace Strings

variable {α : Type*} [DecidableEq α]
variable {value needle replacement done skipped rest : List α} {cursor cursor' i : ℕ}

/-- The first position from `cursor` on at which `needle` stands. -/
def find (value needle : List α) (cursor : ℕ) : Option ℕ :=
  (List.range' cursor (value.length + 1 - cursor)).find? fun i ↦ needle.isPrefixOf (value.drop i)

theorem find_eq_some_iff : find value needle cursor = some i ↔
    cursor ≤ i ∧ i ≤ value.length ∧ needle <+: value.drop i ∧
      ∀ j, cursor ≤ j → j < i → ¬ needle <+: value.drop j := by
  rw [find, List.find?_range'_eq_some]
  simp only [List.mem_range'_1, List.isPrefixOf_iff_prefix, Bool.not_eq_true', ← Bool.not_eq_true]
  constructor
  · rintro ⟨hstands, ⟨hle, hlt⟩, hfirst⟩
    exact ⟨hle, by omega, hstands, hfirst⟩
  · rintro ⟨hle, hlength, hstands, hfirst⟩
    exact ⟨hstands, ⟨hle, by omega⟩, hfirst⟩

theorem find_eq_none_iff : find value needle cursor = none ↔
    ∀ j, cursor ≤ j → j ≤ value.length → ¬ needle <+: value.drop j := by
  rw [find, List.find?_range'_eq_none]
  simp only [List.isPrefixOf_iff_prefix, Bool.not_eq_true', ← Bool.not_eq_true]
  constructor
  · intro h j hle hlength
    exact h j hle (by omega)
  · intro h j hle hlt
    exact h j hle (by omega)

theorem le_of_find_eq_some (h : find value needle cursor = some i) : cursor ≤ i :=
  (find_eq_some_iff.1 h).1

/-- A needle that stands somewhere ends within the value. -/
theorem add_le_of_find_eq_some (h : find value needle cursor = some i) :
    i + needle.length ≤ value.length := by
  obtain ⟨-, hlength, hstands, -⟩ := find_eq_some_iff.1 h
  have hle := hstands.length_le
  rw [List.length_drop] at hle
  omega

/-- The search may start behind positions at which the needle does not stand. -/
theorem find_skip (hle : cursor ≤ cursor')
    (h : ∀ j, cursor ≤ j → j < cursor' → ¬ needle <+: value.drop j) :
    find value needle cursor = find value needle cursor' := by
  apply Option.ext
  intro i
  rw [find_eq_some_iff, find_eq_some_iff]
  constructor
  · rintro ⟨hcursor, hlength, hstands, hfirst⟩
    have hcursor' : cursor' ≤ i := by
      by_contra hlt
      exact h i hcursor (by omega) hstands
    exact ⟨hcursor', hlength, hstands, fun j hj ↦ hfirst j (by omega)⟩
  · rintro ⟨hcursor, hlength, hstands, hfirst⟩
    refine ⟨by omega, hlength, hstands, fun j hj hlt ↦ ?_⟩
    by_cases hbefore : j < cursor'
    · exact h j hj hbefore
    · exact hfirst j (by omega) hlt

/-! ## Behind what has been searched -/

omit [DecidableEq α] in
theorem drop_length_add (done rest : List α) (i : ℕ) :
    (done ++ rest).drop (done.length + i) = rest.drop i := by
  rw [← List.drop_drop, List.drop_left]

/-- No occurrence starts in `skipped` when `rest` follows it. -/
def Skips (needle skipped rest : List α) : Prop :=
  ∀ i < skipped.length, ¬ needle <+: (skipped ++ rest).drop i

omit [DecidableEq α] in
theorem Skips.not_prefix (h : Skips needle skipped rest) (j : ℕ) (hle : done.length ≤ j)
    (hlt : j < (done ++ skipped).length) : ¬ needle <+: (done ++ (skipped ++ rest)).drop j := by
  obtain ⟨i, rfl⟩ := Nat.exists_eq_add_of_le hle
  rw [drop_length_add]
  rw [List.length_append] at hlt
  exact h i (by omega)

theorem find_append_of_skips (done : List α) (h : Skips needle skipped rest) :
    find (done ++ (skipped ++ rest)) needle done.length =
      find (done ++ skipped ++ rest) needle (done ++ skipped).length := by
  rw [List.append_assoc]
  apply find_skip
  · rw [List.length_append]
    exact Nat.le_add_right _ _
  · exact fun j ↦ h.not_prefix j

theorem find_append_of_prefix (h : needle <+: rest) :
    find (done ++ rest) needle done.length = some done.length := by
  rw [find_eq_some_iff, List.drop_left, List.length_append]
  exact ⟨le_rfl, Nat.le_add_right _ _, h, fun j hle hlt ↦ absurd hlt (by omega)⟩

theorem find_eq_none_of_notMem {first : α} (h : first ∉ value) :
    find value [first] cursor = none := by
  rw [find_eq_none_iff]
  intro j _ _ hstands
  exact h (List.mem_of_mem_drop (hstands.subset (List.mem_singleton_self first)))

theorem find_length (hneedle : needle ≠ []) : find done needle done.length = none := by
  rw [find_eq_none_iff]
  intro j hle hlength hstands
  rw [List.drop_eq_nil_of_le hle, List.prefix_nil] at hstands
  exact hneedle hstands

omit [DecidableEq α] in
/-- A needle that starts with an entry which is not skipped over does not start there. -/
theorem skips_of_notMem {first : α} {tail : List α} (h : first ∉ skipped) :
    Skips (first :: tail) skipped rest := by
  intro i hi hstands
  rw [List.drop_append_of_le_length hi.le, List.drop_eq_getElem_cons hi, List.cons_append,
    List.cons_prefix_cons] at hstands
  exact h (hstands.1 ▸ List.getElem_mem hi)

omit [DecidableEq α] in
theorem skips_cons {head : α} (hhead : ¬ needle <+: head :: (skipped ++ rest))
    (h : Skips needle skipped rest) : Skips needle (head :: skipped) rest := by
  intro i hi
  cases i with
  | zero => exact hhead
  | succ i => exact h i (by simpa using hi)

/-! ## Replacing -/

/-- Replace the occurrences from `cursor` on. -/
def replaceAllFrom (needle replacement value : List α) (cursor : ℕ) : List α :=
  match _hfind : find value needle cursor with
  | none => value
  | some i =>
    if needle = [] then value
    else replaceAllFrom needle replacement
      (value.take i ++ replacement ++ value.drop (i + needle.length)) (i + replacement.length)
termination_by value.length - cursor
decreasing_by
  have hle := le_of_find_eq_some _hfind
  have hend := add_le_of_find_eq_some _hfind
  have hpos : 0 < needle.length := List.length_pos_iff.2 (by assumption)
  simp only [List.length_append, List.length_take, List.length_drop]
  omega

/-- Replace all occurrences. -/
def replaceAll (value needle replacement : List α) : List α :=
  replaceAllFrom needle replacement value 0

theorem replaceAllFrom_of_none (h : find value needle cursor = none) :
    replaceAllFrom needle replacement value cursor = value := by
  rw [replaceAllFrom]
  split
  · rfl
  · next i hsome => simp [h] at hsome

theorem replaceAllFrom_of_some (hneedle : needle ≠ []) (h : find value needle cursor = some i) :
    replaceAllFrom needle replacement value cursor =
      replaceAllFrom needle replacement
        (value.take i ++ replacement ++ value.drop (i + needle.length))
        (i + replacement.length) := by
  rw [replaceAllFrom]
  split
  · next hnone => simp [h] at hnone
  · next j hsome =>
    obtain rfl : i = j := by simpa [h] using hsome
    rw [if_neg hneedle]

/-- The cursor matters only for where the next occurrence is found. -/
theorem replaceAllFrom_of_find_eq (hneedle : needle ≠ [])
    (h : find value needle cursor = find value needle cursor') :
    replaceAllFrom needle replacement value cursor =
      replaceAllFrom needle replacement value cursor' := by
  cases hfind : find value needle cursor' with
  | none => rw [replaceAllFrom_of_none hfind, replaceAllFrom_of_none (h.trans hfind)]
  | some i =>
    rw [replaceAllFrom_of_some hneedle hfind, replaceAllFrom_of_some hneedle (h.trans hfind)]

theorem replaceAllFrom_of_skips (hneedle : needle ≠ []) (h : Skips needle skipped rest) :
    replaceAllFrom needle replacement (done ++ (skipped ++ rest)) done.length =
      replaceAllFrom needle replacement (done ++ skipped ++ rest) (done ++ skipped).length := by
  have hfind := find_append_of_skips done h
  rw [List.append_assoc] at hfind ⊢
  exact replaceAllFrom_of_find_eq hneedle hfind

theorem replaceAllFrom_of_prefix (hneedle : needle ≠ []) :
    replaceAllFrom needle replacement (done ++ (needle ++ rest)) done.length =
      replaceAllFrom needle replacement (done ++ replacement ++ rest)
        (done ++ replacement).length := by
  have hfind : find (done ++ (needle ++ rest)) needle done.length = some done.length :=
    find_append_of_prefix (List.prefix_append _ _)
  rw [replaceAllFrom_of_some hneedle hfind, drop_length_add, List.drop_left, List.take_left,
    List.length_append]

theorem replaceAllFrom_length (hneedle : needle ≠ []) :
    replaceAllFrom needle replacement done done.length = done :=
  replaceAllFrom_of_none (find_length hneedle)

/-- Every entry of the outcome was there before or has been put in. -/
theorem mem_replaceAllFrom {a : α} (h : a ∈ replaceAllFrom needle replacement value cursor) :
    a ∈ value ∨ a ∈ replacement := by
  fun_induction replaceAllFrom needle replacement value cursor with
  | case1 value cursor hnone => exact .inl h
  | case2 value cursor i hsome => exact .inl h
  | case3 value cursor i hsome hneedle ih =>
    rcases ih h with hvalue | hreplacement
    · rw [List.mem_append, List.mem_append] at hvalue
      rcases hvalue with (htake | hreplacement) | hdrop
      · exact .inl (List.mem_of_mem_take htake)
      · exact .inr hreplacement
      · exact .inl (List.mem_of_mem_drop hdrop)
    · exact .inr hreplacement

theorem mem_replaceAll {a : α} (h : a ∈ replaceAll value needle replacement) :
    a ∈ value ∨ a ∈ replacement := mem_replaceAllFrom h

end Strings
