import DaphneSc.Bytes.LittleEndian

/-!
# Fixed-length records with fields at fixed offsets

A record of `n` bytes is filled by writing byte strings at offsets. When the written ranges are
pairwise disjoint, each of them is read back unchanged, in whatever order they were written.
-/

namespace Bytes

variable {n : ℕ}

/-- Overwrite the bytes from `offset` on. -/
def put (out : Vector UInt8 n) (offset : ℕ) (bytes : List UInt8) : Vector UInt8 n :=
  out.mapIdx fun i byte ↦ if offset ≤ i then bytes.getD (i - offset) byte else byte

/-- The `length` bytes from `offset` on. -/
def slice (input : List UInt8) (offset length : ℕ) : List UInt8 :=
  (input.drop offset).take length

theorem length_slice {input : List UInt8} {offset length : ℕ}
    (h : offset + length ≤ input.length) : (slice input offset length).length = length := by
  simp only [slice, List.length_take, List.length_drop]
  omega

theorem getElem?_slice (input : List UInt8) (offset length i : ℕ) :
    (slice input offset length)[i]? = if i < length then input[offset + i]? else none := by
  simp only [slice, List.getElem?_take, List.getElem?_drop]

theorem getElem?_put (out : Vector UInt8 n) (offset : ℕ) (bytes : List UInt8) (i : ℕ) :
    (put out offset bytes).toList[i]? =
      out.toList[i]?.map fun byte ↦
        if offset ≤ i then bytes.getD (i - offset) byte else byte := by
  simp [put]

/-- A range that was written reads as what was written. -/
theorem slice_put_self {out : Vector UInt8 n} {offset : ℕ} {bytes : List UInt8}
    (h : offset + bytes.length ≤ n) :
    slice (put out offset bytes).toList offset bytes.length = bytes := by
  apply List.ext_getElem?
  intro i
  rw [getElem?_slice, getElem?_put]
  rcases Nat.lt_or_ge i bytes.length with hi | hi
  · have hbound : offset + i < n := by omega
    have hout : out.toList[offset + i]? = some out[offset + i] := by simp
    simp [hi, hout]
  · simp [Nat.not_lt.mpr hi]

/-- A range disjoint from a write reads as before. -/
theorem slice_put_of_disjoint {out : Vector UInt8 n} {offset offset' length : ℕ}
    {bytes : List UInt8}
    (h : offset' + length ≤ offset ∨ offset + bytes.length ≤ offset') :
    slice (put out offset bytes).toList offset' length = slice out.toList offset' length := by
  apply List.ext_getElem?
  intro i
  rw [getElem?_slice, getElem?_slice, getElem?_put]
  rcases Nat.lt_or_ge i length with hi | hi
  · rcases h with h | h
    · have hlow : ¬ offset ≤ offset' + i := by omega
      simp [hi, hlow]
    · have hpast : bytes.length ≤ offset' + i - offset := by omega
      simp [hi, List.getElem?_eq_none hpast]
  · simp [Nat.not_lt.mpr hi]

/-! ## Records written field by field -/

/-- A byte string and where it goes. -/
abbrev Field := ℕ × List UInt8

namespace Field

def Disjoint (field field' : Field) : Prop :=
  field.1 + field.2.length ≤ field'.1 ∨ field'.1 + field'.2.length ≤ field.1

end Field

/-- Write the fields one after the other. -/
def putFields (out : Vector UInt8 n) (fields : List Field) : Vector UInt8 n :=
  fields.foldl (fun out field ↦ put out field.1 field.2) out

theorem slice_putFields_of_forall {out : Vector UInt8 n} {fields : List Field} {offset length : ℕ}
    (h : ∀ field ∈ fields, offset + length ≤ field.1 ∨ field.1 + field.2.length ≤ offset) :
    slice (putFields out fields).toList offset length = slice out.toList offset length := by
  induction fields generalizing out with
  | nil => rfl
  | cons field fields ih =>
    have hrest : slice (putFields (put out field.1 field.2) fields).toList offset length =
        slice (put out field.1 field.2).toList offset length :=
      ih fun f hf ↦ h f (List.mem_cons_of_mem _ hf)
    rw [putFields, List.foldl_cons]
    exact hrest.trans (slice_put_of_disjoint (h field List.mem_cons_self))

/-- Every field of a record with disjoint fields is read back. -/
theorem slice_putFields {out : Vector UInt8 n} {fields : List Field}
    (hdisjoint : fields.Pairwise Field.Disjoint) {offset : ℕ} {bytes : List UInt8}
    (hmem : (offset, bytes) ∈ fields) (hbound : offset + bytes.length ≤ n) :
    slice (putFields out fields).toList offset bytes.length = bytes := by
  induction fields generalizing out with
  | nil => exact absurd hmem List.not_mem_nil
  | cons field fields ih =>
    obtain ⟨hfield, hfields⟩ := List.pairwise_cons.mp hdisjoint
    rw [putFields, List.foldl_cons]
    rcases List.mem_cons.mp hmem with heq | hmem
    · subst heq
      exact (slice_putFields_of_forall fun f hf ↦ hfield f hf).trans (slice_put_self hbound)
    · exact ih hfields hmem

/-- Fields that were read off an input put its bytes back. -/
theorem getElem?_putFields_of_slice {out : Vector UInt8 n} {fields : List Field}
    (hdisjoint : fields.Pairwise Field.Disjoint) {input : List UInt8} {field : Field}
    (hmem : field ∈ fields) (hread : slice input field.1 field.2.length = field.2)
    (hbound : field.1 + field.2.length ≤ n) {i : ℕ} (hlow : field.1 ≤ i)
    (hhigh : i < field.1 + field.2.length) : (putFields out fields).toList[i]? = input[i]? := by
  have hslice : slice (putFields out fields).toList field.1 field.2.length =
      slice input field.1 field.2.length := (slice_putFields hdisjoint hmem hbound).trans hread.symm
  have hget := congrArg (fun bytes ↦ bytes[i - field.1]?) hslice
  have hi : i - field.1 < field.2.length := by omega
  simp only [getElem?_slice, if_pos hi] at hget
  rwa [Nat.add_sub_cancel' hlow] at hget

end Bytes
