import DaphneSc.Bridge.Config
import DaphneSc.Program.Results

/-!
# CSV records

Fields that are written raw or in quotes, with the quotes inside doubled, are read back as they
were. A line is refused exactly when it has an odd number of quotes.
-/

namespace DaphneSc.Bridge

open Strings

/-- The copy of the registry. -/
def Registry.parseCsvRecord (line : Text) : Except RuntimeError (List Text) :=
  parseCsvFields [] [] false line

/-! ## Written fields -/

/-- The text inside the quotes. -/
def doubled (field : Text) : Text :=
  field.flatMap fun c ↦ if c = '\x22' then ['\x22', '\x22'] else [c]

def enclosed (field : Text) : Text := '\x22' :: (doubled field ++ ['\x22'])

/-- The ways to write a field. -/
inductive Renders : Text → Text → Prop
  | raw {field : Text} (hquote : '\x22' ∉ field) (hcomma : ',' ∉ field) : Renders field field
  | enclosed (field : Text) : Renders field (enclosed field)

/-! ## One field -/

section Field

variable (fields : List Text) (field : Text)

theorem parseCsvFields_other {c : Char} (hquote : c ≠ '\x22') {quoted : Bool}
    (hcomma : quoted = true ∨ c ≠ ',') (rest : Text) :
    parseCsvFields fields field quoted (c :: rest) =
      parseCsvFields fields (field ++ [c]) quoted rest := by
  cases quoted with
  | true => rw [parseCsvFields] <;> simp [hquote]
  | false => rw [parseCsvFields] <;> simp_all

theorem parseCsvFields_comma (rest : Text) :
    parseCsvFields fields field false (',' :: rest) =
      parseCsvFields (fields ++ [field]) [] false rest := by
  rw [parseCsvFields]

theorem parseCsvFields_open (rest : Text) :
    parseCsvFields fields field false ('\x22' :: rest) =
      parseCsvFields fields field true rest := by
  rw [parseCsvFields] <;> simp

theorem parseCsvFields_doubled (rest : Text) :
    parseCsvFields fields field true ('\x22' :: '\x22' :: rest) =
      parseCsvFields fields (field ++ ['\x22']) true rest := by
  rw [parseCsvFields]

/-- A quote that no other quote follows closes the quoted part. -/
theorem parseCsvFields_close {rest : Text} (h : rest.head? ≠ some '\x22') :
    parseCsvFields fields field true ('\x22' :: rest) =
      parseCsvFields fields field false rest := by
  rw [parseCsvFields] <;> simp
  rintro more rfl
  exact h rfl

theorem parseCsvFields_raw {text : Text} (hquote : '\x22' ∉ text) (hcomma : ',' ∉ text)
    (rest : Text) :
    parseCsvFields fields field false (text ++ rest) =
      parseCsvFields fields (field ++ text) false rest := by
  induction text generalizing field with
  | nil => simp
  | cons c text ih =>
    rw [List.mem_cons, not_or] at hquote hcomma
    rw [List.cons_append, parseCsvFields_other _ _ (Ne.symm hquote.1) (.inr (Ne.symm hcomma.1)),
      ih _ hquote.2 hcomma.2, List.append_assoc, List.singleton_append]

theorem parseCsvFields_inside (text rest : Text) :
    parseCsvFields fields field true (doubled text ++ rest) =
      parseCsvFields fields (field ++ text) true rest := by
  induction text generalizing field with
  | nil => simp [doubled]
  | cons c text ih =>
    have hcons : doubled (c :: text) =
        (if c = '\x22' then ['\x22', '\x22'] else [c]) ++ doubled text := rfl
    rw [hcons]
    by_cases hquote : c = '\x22'
    · rw [if_pos hquote, List.append_assoc, List.cons_append, List.singleton_append,
        parseCsvFields_doubled, ih, List.append_assoc, List.singleton_append, hquote]
    · rw [if_neg hquote, List.append_assoc, List.singleton_append,
        parseCsvFields_other _ _ hquote (.inl rfl), ih, List.append_assoc, List.singleton_append]

/-- A field that was written is read back, up to the comma or the end of the line after it. -/
theorem parseCsvFields_renders {text written : Text} (h : Renders text written) {rest : Text}
    (hrest : rest.head? ≠ some '\x22') :
    parseCsvFields fields [] false (written ++ rest) = parseCsvFields fields text false rest := by
  cases h with
  | raw hquote hcomma => rw [parseCsvFields_raw _ _ hquote hcomma, List.nil_append]
  | enclosed =>
    rw [enclosed, List.cons_append, List.append_assoc, List.singleton_append, parseCsvFields_open,
      parseCsvFields_inside, parseCsvFields_close _ _ hrest, List.nil_append]

end Field

/-! ## Records -/

/-- The fields of a record are read in order behind those already read. -/
theorem parseCsvFields_record {fields written : List Text} (h : List.Forall₂ Renders fields written)
    (hne : fields ≠ []) (done : List Text) :
    parseCsvFields done [] false ([','].intercalate written) = .ok (done ++ fields) := by
  induction h generalizing done with
  | nil => exact absurd rfl hne
  | @cons field text fields written hfield hfields ih =>
    cases hfields with
    | nil =>
      have hempty : ([] : Text).head? ≠ some '\x22' := nofun
      have hlast := parseCsvFields_renders done hfield hempty
      rw [List.append_nil] at hlast
      simpa [List.intercalate, parseCsvFields] using hlast
    | @cons field' text' fields written hfield' hfields =>
      have hjoined : [','].intercalate (text :: text' :: written) =
          text ++ ',' :: [','].intercalate (text' :: written) := by
        simp [List.intercalate]
      rw [hjoined, parseCsvFields_renders done hfield (by simp), parseCsvFields_comma,
        ih (by simp), List.append_assoc, List.singleton_append]

/-- Every quote opens or closes a quoted part, except that doubled ones leave it as it is. -/
theorem parseCsvFields_error_iff (fields : List Text) (field : Text) (quoted : Bool) (line : Text) :
    (∃ err, parseCsvFields fields field quoted line = .error err) ↔
      (line.count '\x22' + quoted.toNat) % 2 = 1 := by
  fun_induction parseCsvFields fields field quoted line with
  | case1 => simp
  | case2 _ _ quoted hclosed => simp [Bool.eq_false_iff.mpr hclosed]
  | case3 fields field rest ih =>
    rw [ih, List.count_cons_self, List.count_cons_self]
    omega
  | case4 fields field quoted rest hsingle ih =>
    rw [ih, List.count_cons_self]
    cases quoted with
    | true =>
      rw [Bool.not_true, Bool.toNat_false, Bool.toNat_true]
      omega
    | false => exact Iff.rfl
  | case5 fields field rest ih => simpa using ih
  | case6 fields field quoted ch rest hdouble hquote hcomma ih =>
    have hne : ch ≠ '\x22' := by
      rintro rfl
      exact hquote rfl
    rw [ih, List.count_cons_of_ne hne]

/-- Both copies read a written record back, and refuse the lines with an odd number of quotes. -/
theorem parseCsvRecord_spec :
    (∀ fields written, fields ≠ [] → List.Forall₂ Renders fields written →
      parseCsvRecord ([','].intercalate written) = .ok fields ∧
        Registry.parseCsvRecord ([','].intercalate written) = .ok fields) ∧
    ∀ line, ((∃ err, parseCsvRecord line = .error err) ↔ line.count '\x22' % 2 = 1) ∧
      ((∃ err, Registry.parseCsvRecord line = .error err) ↔ line.count '\x22' % 2 = 1) := by
  constructor
  · intro fields written hne hwritten
    have hrecord := parseCsvFields_record hwritten hne []
    exact ⟨hrecord, hrecord⟩
  · intro line
    have herror := parseCsvFields_error_iff [] [] false line
    exact ⟨herror, herror⟩

/-- A field with a quote and a comma, an empty one and a raw one. -/
theorem parseCsvRecord_spec_mixed :
    parseCsvRecord ([','].intercalate
      [enclosed ['a', '\x22', ','], enclosed [], ['b', ' ']]) =
        .ok [['a', '\x22', ','], [], ['b', ' ']] :=
  (parseCsvRecord_spec.1 _ _ (by simp)
    (.cons (.enclosed _) (.cons (.enclosed _) (.cons (.raw (by decide) (by decide)) .nil)))).1

end DaphneSc.Bridge
