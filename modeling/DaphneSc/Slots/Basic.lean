import Mathlib.Data.Finset.Card
import Mathlib.Data.List.Perm.Basic
import Mathlib.Tactic.Common

/-!
# Records stored in keyed slots

A fixed number of slots is filled from a list of records, each record going to the slot its key
names. A later record replaces an earlier one of the same slot, so the number of filled slots is
the number of distinct keys, and the slots hold exactly the given records when no key repeats.
-/

namespace Slots

variable {α : Type*} {n : ℕ}

/-- The records present, in slot order. -/
def filled (slots : Vector (Option α) n) : List α :=
  slots.toList.filterMap id

theorem mem_filled {slots : Vector (Option α) n} {a : α} :
    a ∈ filled slots ↔ ∃ i, ∃ h : i < n, slots[i] = some a := by
  simp only [filled, List.mem_filterMap, id_eq, exists_eq_right, Vector.mem_toList_iff,
    Vector.mem_iff_getElem]

@[simp] theorem filled_replicate : filled (Vector.replicate n (none : Option α)) = [] := by
  simp [filled, Vector.toList_replicate]

/-- Splitting the slots at one of them. -/
theorem filled_split (slots : Vector (Option α) n) {i : ℕ} (h : i < n) :
    filled slots = (slots.toList.take i).filterMap id ++ (slots[i].toList ++
      (slots.toList.drop (i + 1)).filterMap id) := by
  have hlen : i < slots.toList.length := by simpa using h
  have hget : slots.toList[i] = slots[i] := by simp
  conv_lhs => rw [filled, ← List.take_append_drop i slots.toList, List.drop_eq_getElem_cons hlen,
    hget]
  rw [List.filterMap_append, List.filterMap_cons]
  cases slots[i] <;> rfl

theorem filled_set_split (slots : Vector (Option α) n) {i : ℕ} (h : i < n) (a : α) :
    filled (slots.set i (some a)) = (slots.toList.take i).filterMap id ++ (a ::
      (slots.toList.drop (i + 1)).filterMap id) := by
  rw [filled_split _ h]
  simp [Vector.toList_set, List.take_set_of_le, List.drop_set_of_lt]

/-- Filling an empty slot adds the record. -/
theorem filled_set_of_none {slots : Vector (Option α) n} {i : ℕ} (h : i < n)
    (hnone : slots[i] = none) (a : α) : (filled (slots.set i (some a))).Perm
    (a :: filled slots) := by
  rw [filled_set_split slots h, filled_split slots h, hnone]
  exact List.perm_middle

/-- Replacing a record keeps the number of records. -/
theorem length_filled_set_of_some {slots : Vector (Option α) n} {i : ℕ} (h : i < n) {b : α}
    (hsome : slots[i] = some b) (a : α) :
    (filled (slots.set i (some a))).length = (filled slots).length := by
  rw [filled_set_split slots h, filled_split slots h, hsome]
  simp

theorem length_filled_le (slots : Vector (Option α) n) : (filled slots).length ≤ n := by
  have h := List.length_filterMap_le id slots.toList
  simpa [filled] using h

/-! ## Filling by key -/

/-- Store one record; a key outside the slots stores nothing. -/
def store (key : α → ℕ) (slots : Vector (Option α) n) (a : α) : Vector (Option α) n :=
  if h : key a < n then slots.set (key a) (some a) h else slots

/-- Store the records one after the other into empty slots. -/
def fill (key : α → ℕ) (n : ℕ) (records : List α) : Vector (Option α) n :=
  records.foldl (store key) (Vector.replicate n none)

variable {key : α → ℕ} {records : List α}

@[simp] theorem fill_nil : fill key n [] = Vector.replicate n none := rfl

theorem fill_append (a : α) : fill key n (records ++ [a]) = store key (fill key n records) a := by
  simp [fill]

theorem store_of_lt {slots : Vector (Option α) n} {a : α} (h : key a < n) :
    store key slots a = slots.set (key a) (some a) h := by
  rw [store, dif_pos h]

theorem getElem_store (slots : Vector (Option α) n) (a : α) {i : ℕ} (h : i < n) :
    (store key slots a)[i] = if key a = i then some a else slots[i] := by
  unfold store
  split
  · rw [Vector.getElem_set]
  · rename_i hkey
    have hne : key a ≠ i := fun heq ↦ hkey (heq ▸ h)
    rw [if_neg hne]

/-- Records of different slots are stored in either order. -/
theorem store_comm (slots : Vector (Option α) n) {a b : α} (h : key a ≠ key b) :
    store key (store key slots a) b = store key (store key slots b) a := by
  ext1 i hi
  rw [getElem_store, getElem_store, getElem_store, getElem_store]
  by_cases ha : key a = i
  · have hb : key b ≠ i := fun hb ↦ h (ha.trans hb.symm)
    rw [if_pos ha, if_neg hb, if_pos ha]
  · rw [if_neg ha, if_neg ha]

/-- Storing brings in no other record. -/
theorem mem_filled_of_store {slots : Vector (Option α) n} {a b : α}
    (h : b ∈ filled (store key slots a)) : b = a ∨ b ∈ filled slots := by
  obtain ⟨i, hi, hslot⟩ := mem_filled.mp h
  rw [getElem_store] at hslot
  split at hslot
  · exact Or.inl (Option.some.inj hslot).symm
  · exact Or.inr (mem_filled.mpr ⟨i, hi, hslot⟩)

/-- A slot is taken exactly when some record has its key. -/
theorem isSome_fill (i : ℕ) (h : i < n) :
    ((fill key n records)[i]).isSome ↔ i ∈ records.map key := by
  induction records using List.reverseRecOn with
  | nil => simp
  | append_singleton records a ih =>
    rw [fill_append, getElem_store _ _ h]
    by_cases hkey : key a = i
    · simp [hkey]
    · have hkey' : i ≠ key a := fun h ↦ hkey h.symm
      simp only [hkey, if_false, ih, List.map_append, List.mem_append, List.map_cons,
        List.map_nil, List.mem_singleton, hkey', or_false]

theorem mem_filled_fill {a : α} (h : a ∈ filled (fill key n records)) : a ∈ records := by
  induction records using List.reverseRecOn with
  | nil => simp at h
  | append_singleton records b ih =>
    obtain ⟨i, hi, hget⟩ := mem_filled.mp h
    rw [List.mem_append, List.mem_singleton]
    rw [fill_append, getElem_store _ _ hi] at hget
    split at hget
    · exact Or.inr (Option.some.inj hget).symm
    · exact Or.inl (ih (mem_filled.mpr ⟨i, hi, hget⟩))

/-- The slots count distinct keys. -/
theorem length_filled_fill (hkeys : ∀ a ∈ records, key a < n) :
    (filled (fill key n records)).length = (records.map key).toFinset.card := by
  induction records using List.reverseRecOn with
  | nil => simp
  | append_singleton records a ih =>
    have ha : key a < n := hkeys a (by simp)
    have hrest := ih fun b hb ↦ hkeys b (by simp [hb])
    rw [fill_append, store_of_lt ha, List.map_append, List.toFinset_append, List.map_singleton]
    have hunion : (records.map key).toFinset ∪ [key a].toFinset =
        insert (key a) (records.map key).toFinset := by
      rw [Finset.union_comm]
      rfl
    rw [hunion]
    cases hslot : (fill key n records)[key a] with
    | none =>
      have hnew : key a ∉ (records.map key).toFinset := by
        rw [List.mem_toFinset, ← isSome_fill _ ha, hslot]
        simp
      rw [Finset.card_insert_of_notMem hnew, (filled_set_of_none ha hslot a).length_eq,
        List.length_cons, hrest]
    | some b =>
      have hold : key a ∈ (records.map key).toFinset := by
        rw [List.mem_toFinset, ← isSome_fill _ ha, hslot]
        rfl
      rw [Finset.insert_eq_of_mem hold, length_filled_set_of_some ha hslot, hrest]

/-- As many records as slots taken means that no key repeats. -/
theorem length_filled_fill_eq_iff (hkeys : ∀ a ∈ records, key a < n) :
    (filled (fill key n records)).length = records.length ↔ (records.map key).Nodup := by
  have hcard := Multiset.toFinset_card_eq_card_iff_nodup (m := (records.map key : Multiset ℕ))
  simpa [length_filled_fill hkeys] using hcard

/-- Without repeated keys the slots hold exactly the records. -/
theorem filled_fill_perm (hkeys : ∀ a ∈ records, key a < n) (hnodup : (records.map key).Nodup) :
    (filled (fill key n records)).Perm records := by
  induction records using List.reverseRecOn with
  | nil => simp
  | append_singleton records a ih =>
    have ha : key a < n := hkeys a (by simp)
    rw [List.map_append, List.nodup_append] at hnodup
    obtain ⟨hrecords, -, hdisjoint⟩ := hnodup
    have hfresh : key a ∉ records.map key := fun h ↦ hdisjoint _ h _ (by simp) rfl
    have hnone : (fill key n records)[key a] = none := by
      rw [← Option.not_isSome_iff_eq_none, isSome_fill _ ha]
      exact hfresh
    rw [fill_append, store_of_lt ha]
    calc filled ((fill key n records).set (key a) (some a))
        |>.Perm (a :: filled (fill key n records)) := filled_set_of_none ha hnone a
      _ |>.Perm (a :: records) := (ih (fun b hb ↦ hkeys b (by simp [hb])) hrecords).cons a
      _ |>.Perm (records ++ [a]) := (List.perm_append_singleton a records).symm

/-- There are no more records with distinct keys than slots. -/
theorem length_le_of_nodup (hkeys : ∀ a ∈ records, key a < n) (hnodup : (records.map key).Nodup) :
    records.length ≤ n :=
  calc records.length
      = (filled (fill key n records)).length := (filled_fill_perm hkeys hnodup).length_eq.symm
    _ ≤ n := length_filled_le _

end Slots
