import DaphneSc.Strings.Replace

/-!
# Templates with named slots

A template is a sequence of plain texts and named slots. It is written down with every slot between
an opening and a closing delimiter. Replacing a written slot fills in that slot and nothing else, as
long as neither the texts nor the names nor what is put in contain a delimiter. The slots may then
be filled in one after the other, in any order, and the outcome is the simultaneous substitution.
-/

namespace Strings

variable {α : Type*}

/-- The two delimiters around the name of a slot. -/
structure Delimiters (α : Type*) where
  opening : α
  closing : α
  ne : opening ≠ closing

inductive Segment (α : Type*) where
  | text (content : List α)
  | slot (name : List α)

abbrev Template (α : Type*) := List (Segment α)

variable {d : Delimiters α} {t : Template α} {s : Segment α} {content name value done : List α}
  {σ : List α → List α}

/-- Neither delimiter occurs. -/
def Delimiters.Plain (d : Delimiters α) (content : List α) : Prop :=
  d.opening ∉ content ∧ d.closing ∉ content

/-- A name between delimiters. -/
def Delimiters.quote (d : Delimiters α) (name : List α) : List α :=
  d.opening :: name ++ [d.closing]

def Segment.render (d : Delimiters α) : Segment α → List α
  | text content => content
  | slot name => d.quote name

/-- The template as it is written down. -/
def render (d : Delimiters α) (t : Template α) : List α := t.flatMap (Segment.render d)

def Segment.name? : Segment α → Option (List α)
  | text _ => none
  | slot name => some name

/-- The names of the slots, from left to right. -/
def names (t : Template α) : List (List α) := t.filterMap Segment.name?

def Segment.Plain (d : Delimiters α) : Segment α → Prop
  | text content => d.Plain content
  | slot name => d.Plain name

/-- The delimiters occur around the names of slots only. -/
def WellFormed (d : Delimiters α) (t : Template α) : Prop := ∀ s ∈ t, s.Plain d

/-- One segment with its slot filled in. -/
def Segment.fill (σ : List α → List α) : Segment α → List α
  | text content => content
  | slot name => σ name

/-- All slots filled in at once. -/
def substitute (σ : List α → List α) (t : Template α) : List α := t.flatMap (Segment.fill σ)

@[simp] theorem render_nil : render d [] = [] := rfl

@[simp] theorem render_cons : render d (s :: t) = s.render d ++ render d t := rfl

@[simp] theorem names_nil : names ([] : Template α) = [] := rfl

@[simp] theorem names_cons_text : names (.text content :: t) = names t := rfl

@[simp] theorem names_cons_slot : names (.slot name :: t) = name :: names t := rfl

@[simp] theorem substitute_nil : substitute σ [] = [] := rfl

@[simp] theorem substitute_cons : substitute σ (s :: t) = s.fill σ ++ substitute σ t := rfl

@[simp] theorem wellFormed_nil : WellFormed d [] := by simp [WellFormed]

@[simp] theorem wellFormed_cons : WellFormed d (s :: t) ↔ s.Plain d ∧ WellFormed d t :=
  List.forall_mem_cons

theorem quote_ne_nil : d.quote name ≠ [] := List.cons_ne_nil _ _

theorem Delimiters.Plain.append (h : d.Plain content) (h' : d.Plain value) :
    d.Plain (content ++ value) :=
  ⟨by simp [h.1, h'.1], by simp [h.2, h'.2]⟩

theorem WellFormed.plain_of_mem_names (h : WellFormed d t) (hmem : name ∈ names t) :
    d.Plain name := by
  obtain ⟨s, hs, hname⟩ := List.mem_filterMap.1 hmem
  cases s with
  | text content => cases hname
  | slot n =>
    obtain rfl : n = name := by simpa [Segment.name?] using hname
    exact h _ hs

/-- Filling in plain values leaves no delimiter. -/
theorem plain_substitute (h : WellFormed d t) (hσ : ∀ n ∈ names t, d.Plain (σ n)) :
    d.Plain (substitute σ t) := by
  induction t with
  | nil => exact ⟨List.not_mem_nil, List.not_mem_nil⟩
  | cons s t ih =>
    obtain ⟨hs, ht⟩ := wellFormed_cons.1 h
    cases s with
    | text content => exact hs.append (ih ht hσ)
    | slot name =>
      exact (hσ name (by simp)).append (ih ht fun n hn ↦ hσ n (List.mem_cons_of_mem _ hn))

/-- Without slots there is nothing to fill in. -/
theorem render_eq_substitute (h : names t = []) : render d t = substitute σ t := by
  induction t with
  | nil => rfl
  | cons s t ih =>
    cases s with
    | text content => exact congrArg (content ++ ·) (ih h)
    | slot name => cases h

/-! ## Filling in one slot after the other -/

variable [DecidableEq α]

def Segment.assign (name value : List α) : Segment α → Segment α
  | text content => text content
  | slot n => if n = name then text value else slot n

/-- The slots of one name filled in. -/
def assign (name value : List α) (t : Template α) : Template α := t.map (Segment.assign name value)

theorem assign_cons : assign name value (s :: t) = s.assign name value :: assign name value t := rfl

theorem substitute_assign (name : List α) (t : Template α) :
    substitute σ (assign name (σ name) t) = substitute σ t := by
  induction t with
  | nil => rfl
  | cons s t ih =>
    rw [assign_cons, substitute_cons, substitute_cons, ih]
    cases s with
    | text content => rfl
    | slot n =>
      by_cases hn : n = name
      · simp [Segment.assign, Segment.fill, hn]
      · simp [Segment.assign, hn]

theorem names_assign : names (assign name value t) = (names t).filter (· ≠ name) := by
  induction t with
  | nil => rfl
  | cons s t ih =>
    rw [assign_cons]
    cases s with
    | text content => exact ih
    | slot n =>
      by_cases hn : n = name
      · simpa [Segment.assign, hn] using ih
      · simpa [Segment.assign, hn] using ih

theorem names_assign_subset {l : List (List α)} (h : names t ⊆ name :: l) :
    names (assign name value t) ⊆ l := by
  rw [names_assign]
  intro n hn
  obtain ⟨hmem, hne⟩ := List.mem_filter.1 hn
  exact List.mem_of_ne_of_mem (by simpa using hne) (h hmem)

theorem WellFormed.assign (h : WellFormed d t) (hvalue : d.Plain value) :
    WellFormed d (assign name value t) := by
  intro filled hfilled
  obtain ⟨s, hs, rfl⟩ := List.mem_map.1 hfilled
  have hplain := h s hs
  cases s with
  | text content => exact hplain
  | slot n =>
    by_cases hn : n = name
    · simpa [Segment.assign, Segment.Plain, hn] using hvalue
    · simpa [Segment.assign, hn] using hplain

/-- The slots of several names filled in, one name after the other. -/
def assignAll (σ : List α → List α) (l : List (List α)) (t : Template α) : Template α :=
  l.foldl (fun t name ↦ assign name (σ name) t) t

theorem assignAll_cons {l : List (List α)} :
    assignAll σ (name :: l) t = assignAll σ l (assign name (σ name) t) := rfl

/-- Once all names are filled in, the order does not show. -/
theorem render_assignAll {l : List (List α)} (h : names t ⊆ l) :
    render d (assignAll σ l t) = substitute σ t := by
  induction l generalizing t with
  | nil => exact render_eq_substitute (List.subset_nil.1 h)
  | cons name l ih =>
    rw [assignAll_cons, ih (names_assign_subset h), substitute_assign]

/-! ## Replacing a written slot -/

omit [DecidableEq α] in
/-- Two written slots that agree in their first positions have one name. -/
theorem eq_of_starts_with_quote {n rest : List α} (hname : d.Plain name) (hn : d.Plain n)
    (h : d.quote name <+: d.quote n ++ rest) : name = n := by
  induction name generalizing n with
  | nil =>
    cases n with
    | nil => rfl
    | cons a n =>
      have ha : d.closing = a := by simpa [Delimiters.quote] using h
      exact absurd (ha ▸ List.mem_cons_self) hn.2
  | cons b name ih =>
    cases n with
    | nil =>
      have hb : b = d.closing := (by simpa [Delimiters.quote] using h : _ ∧ _).1
      exact absurd (hb ▸ List.mem_cons_self) hname.2
    | cons a n =>
      obtain ⟨hab, htail⟩ : b = a ∧ name ++ [d.closing] <+: n ++ d.closing :: rest := by
        simpa [Delimiters.quote] using h
      have heq : name = n := by
        apply ih ⟨fun hmem ↦ hname.1 (List.mem_cons_of_mem _ hmem),
          fun hmem ↦ hname.2 (List.mem_cons_of_mem _ hmem)⟩
          ⟨fun hmem ↦ hn.1 (List.mem_cons_of_mem _ hmem),
          fun hmem ↦ hn.2 (List.mem_cons_of_mem _ hmem)⟩
        simpa [Delimiters.quote] using htail
      rw [hab, heq]

omit [DecidableEq α] in
/-- A written slot is passed over in the search for one of another name. -/
theorem skips_quote {n rest : List α} (hname : d.Plain name) (hn : d.Plain n) (hne : n ≠ name) :
    Skips (d.quote name) (d.quote n) rest := by
  apply skips_cons
  · intro h
    exact hne (eq_of_starts_with_quote hname hn h).symm
  · apply skips_of_notMem
    simp [hn.1, d.ne]

/-- The segments before `done` have been dealt with; those of `t` are dealt with one by one. -/
theorem replaceAllFrom_render (done : List α) (ht : WellFormed d t) (hname : d.Plain name) :
    replaceAllFrom (d.quote name) value (done ++ render d t) done.length =
      done ++ render d (assign name value t) := by
  induction t generalizing done with
  | nil =>
    rw [render_nil, List.append_nil]
    exact (replaceAllFrom_length quote_ne_nil).trans (List.append_nil done).symm
  | cons s t ih =>
    obtain ⟨hs, htail⟩ := wellFormed_cons.1 ht
    rw [assign_cons, render_cons, render_cons]
    cases s with
    | text content =>
      calc
        _ = replaceAllFrom (d.quote name) value (done ++ content ++ render d t)
              (done ++ content).length :=
            replaceAllFrom_of_skips quote_ne_nil (skips_of_notMem hs.1)
        _ = done ++ content ++ render d (assign name value t) := ih _ htail
        _ = _ := List.append_assoc _ _ _
    | slot n =>
      by_cases hn : n = name
      · subst hn
        rw [Segment.assign, if_pos rfl]
        calc
          _ = replaceAllFrom (d.quote n) value (done ++ value ++ render d t)
                (done ++ value).length := replaceAllFrom_of_prefix quote_ne_nil
          _ = done ++ value ++ render d (assign n value t) := ih _ htail
          _ = _ := List.append_assoc _ _ _
      · rw [Segment.assign, if_neg hn]
        calc
          _ = replaceAllFrom (d.quote name) value (done ++ d.quote n ++ render d t)
                (done ++ d.quote n).length :=
              replaceAllFrom_of_skips quote_ne_nil (skips_quote hname hs hn)
          _ = done ++ d.quote n ++ render d (assign name value t) := ih _ htail
          _ = _ := List.append_assoc _ _ _

/-- Replacing a written slot fills in that slot and nothing else. -/
theorem replaceAll_render (ht : WellFormed d t) (hname : d.Plain name) :
    replaceAll (render d t) (d.quote name) value = render d (assign name value t) :=
  replaceAllFrom_render [] ht hname

/-! ## Scanning for slots -/

theorem find_opening_nil : find (done ++ render d []) [d.opening] done.length = none := by
  rw [render_nil, List.append_nil]
  exact find_length (List.cons_ne_nil _ _)

theorem find_opening_text (done : List α) (t : Template α) (h : d.Plain content) :
    find (done ++ render d (.text content :: t)) [d.opening] done.length =
      find (done ++ content ++ render d t) [d.opening] (done ++ content).length :=
  find_append_of_skips _ (skips_of_notMem h.1)

theorem find_opening_slot :
    find (done ++ render d (.slot name :: t)) [d.opening] done.length = some done.length :=
  find_append_of_prefix ⟨name ++ [d.closing] ++ render d t, by
    simp [render_cons, Segment.render, Delimiters.quote]⟩

/-- The first closing delimiter behind an opening one is the one of its slot. -/
theorem find_closing_slot (h : d.Plain name) :
    find (done ++ render d (.slot name :: t)) [d.closing] (done.length + 1) =
      some (done.length + 1 + name.length) := by
  have happend : done ++ render d (.slot name :: t) =
      done ++ [d.opening] ++ (name ++ ([d.closing] ++ render d t)) := by
    simp [render_cons, Segment.render, Delimiters.quote]
  have hlength : done.length + 1 = (done ++ [d.opening]).length := by simp
  calc
    _ = find (done ++ [d.opening] ++ (name ++ ([d.closing] ++ render d t))) [d.closing]
          (done ++ [d.opening]).length := by rw [happend, hlength]
    _ = find (done ++ [d.opening] ++ name ++ ([d.closing] ++ render d t)) [d.closing]
          (done ++ [d.opening] ++ name).length := find_append_of_skips _ (skips_of_notMem h.2)
    _ = some (done ++ [d.opening] ++ name).length := find_append_of_prefix (List.prefix_append _ _)
    _ = some (done.length + 1 + name.length) := by
      rw [List.length_append, hlength]

omit [DecidableEq α] in
/-- What stands between the delimiters of a slot is its name. -/
theorem take_drop_slot : ((done ++ render d (.slot name :: t)).drop (done.length + 1)).take
    name.length = name := by
  rw [drop_length_add]
  simp [render_cons, Segment.render, Delimiters.quote]

omit [DecidableEq α] in
theorem length_append_quote :
    (done ++ d.quote name).length = done.length + 1 + name.length + 1 := by
  simp [Delimiters.quote]
  omega

end Strings
