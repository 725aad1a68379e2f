import Mathlib.Data.List.Basic
import Mathlib.Order.Nat
import Mathlib.Tactic.Common

/-!
# Longest runs of equal entries

A list is scanned from left to right with the run in progress and the best of the runs that have
ended. The best run is replaced only by a longer one, so the scan ends with the first of the longest
runs of the list.
-/

namespace Runs

variable {α : Type*} {entries : List α} {start length start' length' : ℕ} {entry : α}

/-- The entries from `start` on, `length` of them, are equal. -/
structure IsRun (entries : List α) (start length : ℕ) : Prop where
  pos : 0 < length
  le : start + length ≤ entries.length
  eq : ∀ i < length, entries[start + i]? = entries[start]?

/-- A run that extends neither to the left nor to the right. -/
structure IsMaximalRun (entries : List α) (start length : ℕ) : Prop
    extends IsRun entries start length where
  left : start = 0 ∨ entries[start - 1]? ≠ entries[start]?
  right : entries[start + length]? ≠ entries[start]?

/-- The first of the longest runs. -/
structure IsFirstLongestRun (entries : List α) (start length : ℕ) : Prop
    extends IsMaximalRun entries start length where
  longest : ∀ start' length', IsMaximalRun entries start' length' → length' ≤ length
  first : ∀ start', IsMaximalRun entries start' length → start ≤ start'

theorem IsFirstLongestRun.unique (h : IsFirstLongestRun entries start length)
    (h' : IsFirstLongestRun entries start' length') : start = start' ∧ length = length' := by
  have hlength : length = length' :=
    le_antisymm (h'.longest _ _ h.toIsMaximalRun) (h.longest _ _ h'.toIsMaximalRun)
  subst hlength
  exact ⟨le_antisymm (h.first _ h'.toIsMaximalRun) (h'.first _ h.toIsMaximalRun), rfl⟩

/-! ## Entries of a run -/

theorem IsRun.eq_of_mem (h : IsRun entries start length) {i : ℕ} (hle : start ≤ i)
    (hlt : i < start + length) : entries[i]? = entries[start]? := by
  have hoffset := h.eq (i - start) (by omega)
  rwa [Nat.add_sub_cancel' hle] at hoffset

theorem IsRun.start_lt (h : IsRun entries start length) : start < entries.length := by
  have hpos := h.pos
  have hle := h.le
  omega

/-- A maximal run ends before the last one starts, or is the last one. -/
theorem IsMaximalRun.before_or_eq (h : IsMaximalRun entries start length)
    (hlast : IsMaximalRun entries start' length') (hend : start' + length' = entries.length) :
    start + length ≤ start' ∨ (start = start' ∧ length = length') := by
  have hpos := h.pos
  have hle := h.le
  have hpos' := hlast.pos
  rcases Nat.lt_or_ge start' (start + length) with hlt | hge
  · right
    -- An entry on either side of the border between the two runs would belong to both of them.
    have hstop : ¬ start + length < entries.length := by
      intro hshort
      have hnext := hlast.eq_of_mem (i := start + length) (by omega) (by omega)
      have hinside := hlast.eq_of_mem (i := start + length - 1) (by omega) (by omega)
      have hsame := h.eq_of_mem (i := start + length - 1) (by omega) (by omega)
      exact h.right (hnext.trans (hinside.symm.trans hsame))
    have hstart : start = start' := by
      rcases lt_trichotomy start start' with hbefore | heq | hafter
      · have hprevious := h.eq_of_mem (i := start' - 1) (by omega) (by omega)
        have hfirst := h.eq_of_mem (i := start') (by omega) (by omega)
        have hleft := hlast.left.resolve_left (by omega)
        exact absurd (hprevious.trans hfirst.symm) hleft
      · exact heq
      · have hprevious := hlast.eq_of_mem (i := start - 1) (by omega) (by omega)
        have hfirst := hlast.eq_of_mem (i := start) (by omega) (by omega)
        have hleft := h.left.resolve_left (by omega)
        exact absurd (hprevious.trans hfirst.symm) hleft
    exact ⟨hstart, by omega⟩
  · exact Or.inl hge

/-! ## One more entry -/

theorem getElem?_append_of_lt {i : ℕ} (h : i < entries.length) :
    (entries ++ [entry])[i]? = entries[i]? :=
  List.getElem?_append_left h

/-- A maximal run before the added entry was one without it. -/
theorem IsMaximalRun.of_append (h : IsMaximalRun (entries ++ [entry]) start length)
    (hle : start + length ≤ entries.length) : IsMaximalRun entries start length := by
  have hpos := h.pos
  have hstart : (entries ++ [entry])[start]? = entries[start]? :=
    getElem?_append_of_lt (by omega)
  refine ⟨⟨hpos, hle, fun i hi ↦ ?_⟩, ?_, ?_⟩
  · rw [← getElem?_append_of_lt (by omega), ← hstart]
    exact h.eq i hi
  · rw [← getElem?_append_of_lt (by omega), ← hstart]
    exact h.left
  · rcases Nat.lt_or_eq_of_le hle with hlt | hend
    · rw [← getElem?_append_of_lt hlt, ← hstart]
      exact h.right
    · rw [hend, List.getElem?_eq_none le_rfl, List.getElem?_eq_getElem (by omega)]
      exact nofun

/-- A maximal run stays one unless the added entry extends it. -/
theorem IsMaximalRun.append (h : IsMaximalRun entries start length)
    (hne : start + length = entries.length → entries[start]? ≠ some entry) :
    IsMaximalRun (entries ++ [entry]) start length := by
  have hpos := h.pos
  have hle := h.le
  have hstart : (entries ++ [entry])[start]? = entries[start]? :=
    getElem?_append_of_lt (by omega)
  refine ⟨⟨hpos, ?_, fun i hi ↦ ?_⟩, ?_, ?_⟩
  · rw [List.length_append]
    omega
  · rw [getElem?_append_of_lt (by omega), hstart]
    exact h.eq i hi
  · rw [getElem?_append_of_lt (by omega), hstart]
    exact h.left
  · rw [hstart]
    rcases Nat.lt_or_eq_of_le hle with hlt | hend
    · rw [getElem?_append_of_lt hlt]
      exact h.right
    · rw [hend, List.getElem?_concat_length]
      exact (hne hend).symm

/-- The run in progress: the maximal run at the end of what was scanned. -/
structure InProgress (entries : List α) (start length : ℕ) : Prop
    extends IsMaximalRun entries start length where
  stop : start + length = entries.length

theorem inProgress_singleton (entry : α) : InProgress [entry] 0 1 := by
  refine ⟨⟨⟨Nat.one_pos, le_rfl, fun i hi ↦ ?_⟩, Or.inl rfl, by simp⟩, rfl⟩
  rw [Nat.lt_one_iff.mp hi]

/-- An equal entry belongs to the run in progress. -/
theorem InProgress.extend (h : InProgress entries start length)
    (heq : entries[start]? = some entry) :
    InProgress (entries ++ [entry]) start (length + 1) := by
  have hstop := h.stop
  have hpos := h.pos
  have hlast : (entries ++ [entry])[entries.length]? = some entry := List.getElem?_concat_length
  refine ⟨⟨⟨Nat.succ_pos length, ?_, fun i hi ↦ ?_⟩, ?_, ?_⟩, ?_⟩
  · rw [List.length_append, List.length_singleton]
    omega
  · rw [getElem?_append_of_lt (i := start) (by omega)]
    rcases Nat.lt_succ_iff_lt_or_eq.mp hi with hlt | rfl
    · rw [getElem?_append_of_lt (by omega)]
      exact h.eq i hlt
    · rw [hstop, hlast, heq]
  · rw [getElem?_append_of_lt (by omega), getElem?_append_of_lt (i := start) (by omega)]
    exact h.left
  · rw [getElem?_append_of_lt (i := start) (by omega), heq, List.getElem?_eq_none]
    · exact nofun
    · rw [List.length_append, List.length_singleton]
      omega
  · rw [List.length_append, List.length_singleton]
    omega

/-- A different entry starts a run of its own. -/
theorem InProgress.break (h : InProgress entries start length)
    (hne : entries[start]? ≠ some entry) :
    InProgress (entries ++ [entry]) entries.length 1 := by
  have hstop := h.stop
  have hpos := h.pos
  have hlast : (entries ++ [entry])[entries.length]? = some entry := List.getElem?_concat_length
  refine ⟨⟨⟨Nat.one_pos, ?_, fun i hi ↦ ?_⟩, Or.inr ?_, ?_⟩, ?_⟩
  · rw [List.length_append, List.length_singleton]
  · rw [Nat.lt_one_iff.mp hi, Nat.add_zero]
  · rw [hlast, List.getElem?_append_left (by omega), h.eq_of_mem (by omega) (by omega)]
    exact hne
  · rw [hlast, List.getElem?_eq_none]
    · exact nofun
    · rw [List.length_append, List.length_singleton]
  · rw [List.length_append, List.length_singleton]

/-! ## The best of the runs that have ended -/

/-- The first of the longest runs that end at `stop` or before. There may be none, then the length
is zero. -/
structure BestUpTo (entries : List α) (stop start length : ℕ) : Prop where
  attained : length = 0 ∨ (IsMaximalRun entries start length ∧ start + length ≤ stop)
  longest : ∀ start' length', IsMaximalRun entries start' length' → start' + length' ≤ stop →
    length' ≤ length
  first : ∀ start', IsMaximalRun entries start' length → start' + length ≤ stop → start ≤ start'

theorem bestUpTo_zero (entries : List α) : BestUpTo entries 0 0 0 where
  attained := Or.inl rfl
  longest _ _ _ h := by omega
  first _ _ _ := Nat.zero_le _

/-- Runs that have ended stay the same when an entry is added. -/
theorem BestUpTo.append {stop : ℕ} (h : BestUpTo entries stop start length)
    (hstop : stop < entries.length) (entry : α) :
    BestUpTo (entries ++ [entry]) stop start length where
  attained := by
    apply h.attained.imp_right
    rintro ⟨hrun, hle⟩
    exact ⟨hrun.append fun hend ↦ absurd hend (by omega), hle⟩
  longest start' length' hrun hle := h.longest start' length' (hrun.of_append (by omega)) hle
  first start' hrun hle := h.first start' (hrun.of_append (by omega)) hle

/-- The better of the best run so far and the run in progress. -/
def better (best current : ℕ × ℕ) : ℕ × ℕ := if current.2 > best.2 then current else best

/-- The run in progress is compared with the best of those before it. -/
theorem isFirstLongestRun_better (best current : ℕ × ℕ)
    (hbest : BestUpTo entries current.1 best.1 best.2)
    (hcurrent : InProgress entries current.1 current.2) :
    IsFirstLongestRun entries (better best current).1 (better best current).2 := by
  have hpos := hcurrent.pos
  have hcases := fun start' length' (hrun : IsMaximalRun entries start' length') ↦
    hrun.before_or_eq hcurrent.toIsMaximalRun hcurrent.stop
  unfold better
  by_cases hlonger : current.2 > best.2
  · rw [if_pos hlonger]
    refine ⟨hcurrent.toIsMaximalRun, fun start' length' hrun ↦ ?_, fun start' hrun ↦ ?_⟩
    · rcases hcases _ _ hrun with hbefore | ⟨-, hlength⟩
      · have hle := hbest.longest _ _ hrun hbefore
        omega
      · exact le_of_eq hlength
    · rcases hcases _ _ hrun with hbefore | ⟨hstart, -⟩
      · have hle := hbest.longest _ _ hrun hbefore
        omega
      · exact le_of_eq hstart.symm
  · rw [if_neg hlonger]
    obtain ⟨hrun, hstop⟩ := hbest.attained.resolve_left (by omega)
    refine ⟨hrun, fun start' length' hrun' ↦ ?_, fun start' hrun' ↦ ?_⟩
    · rcases hcases _ _ hrun' with hbefore | ⟨-, hlength⟩
      · exact hbest.longest _ _ hrun' hbefore
      · omega
    · rcases hcases _ _ hrun' with hbefore | ⟨hstart, -⟩
      · exact hbest.first _ hrun' hbefore
      · have hend := hrun.pos
        omega

/-- When the run in progress is broken, the better of the two is kept. -/
theorem bestUpTo_better (best current : ℕ × ℕ)
    (hbest : BestUpTo entries current.1 best.1 best.2)
    (hcurrent : InProgress entries current.1 current.2) (hne : entries[current.1]? ≠ some entry) :
    BestUpTo (entries ++ [entry]) entries.length (better best current).1
      (better best current).2 := by
  have hfirst := isFirstLongestRun_better best current hbest hcurrent
  refine ⟨Or.inr ⟨hfirst.append fun hend ↦ ?_, hfirst.le⟩, fun start' length' hrun hle ↦ ?_,
    fun start' hrun hle ↦ ?_⟩
  · have hpos := hcurrent.pos
    have hstop := hcurrent.stop
    rcases hfirst.before_or_eq hcurrent.toIsMaximalRun hstop with hbefore | ⟨hstart, -⟩
    · omega
    · rw [hstart]
      exact hne
  · exact hfirst.longest _ _ (hrun.of_append hle)
  · exact hfirst.first _ (hrun.of_append hle)

end Runs
