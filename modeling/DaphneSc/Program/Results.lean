import Mathlib.Data.List.Forall2

/-!
# Fallible computations without a state

When sequences, maps and traversals of such computations succeed, and with what.
-/

namespace Program.Results

universe u

variable {ε ε' α β : Type u}

theorem bind_ok_iff {m : Except ε α} {f : α → Except ε β} {b : β} :
    (m >>= f) = .ok b ↔ ∃ a, m = .ok a ∧ f a = .ok b := by
  cases m with
  | ok a => exact ⟨fun h ↦ ⟨a, rfl, h⟩, fun ⟨_, ha, h⟩ ↦ Except.ok.inj ha ▸ h⟩
  | error e => exact ⟨fun h ↦ (nomatch h), fun ⟨_, ha, _⟩ ↦ (nomatch ha)⟩

theorem seq_ok_iff {m : Except ε PUnit.{u + 1}} {k : Except ε β} {b : β} :
    (m >>= fun _ ↦ k) = .ok b ↔ m = .ok ⟨⟩ ∧ k = .ok b := by
  rw [bind_ok_iff]
  exact ⟨fun ⟨_, hm, hk⟩ ↦ ⟨hm, hk⟩, fun ⟨hm, hk⟩ ↦ ⟨_, hm, hk⟩⟩

theorem map_ok_iff {f : α → β} {m : Except ε α} {b : β} :
    (f <$> m) = .ok b ↔ ∃ a, m = .ok a ∧ f a = b := by
  cases m with
  | ok a =>
    exact ⟨fun h ↦ ⟨a, rfl, Except.ok.inj h⟩,
      fun ⟨_, ha, h⟩ ↦ Except.ok.inj ha ▸ congrArg Except.ok h⟩
  | error e => exact ⟨fun h ↦ (nomatch h), fun ⟨_, ha, _⟩ ↦ (nomatch ha)⟩

theorem mapError_ok_iff {f : ε → ε'} {m : Except ε α} {a : α} :
    m.mapError f = .ok a ↔ m = .ok a := by
  cases m with
  | ok a' =>
    exact ⟨fun h ↦ congrArg Except.ok (Except.ok.inj h),
      fun h ↦ congrArg Except.ok (Except.ok.inj h)⟩
  | error e => exact ⟨fun h ↦ (nomatch h), fun h ↦ (nomatch h)⟩

theorem pure_ok_iff {a b : α} : (pure a : Except ε α) = .ok b ↔ a = b :=
  ⟨Except.ok.inj, congrArg Except.ok⟩

/-- A traversal succeeds when it does at every element, and keeps the order. -/
theorem mapM_ok_iff {f : α → Except ε β} {as : List α} {bs : List β} :
    as.mapM f = .ok bs ↔ List.Forall₂ (fun a b ↦ f a = .ok b) as bs := by
  induction as generalizing bs with
  | nil =>
    rw [List.mapM_nil, pure_ok_iff, List.forall₂_nil_left_iff]
    exact eq_comm
  | cons a as ih =>
    rw [List.mapM_cons, List.forall₂_cons_left_iff]
    simp only [bind_ok_iff, pure_ok_iff, ih]
    constructor
    · rintro ⟨b, hb, bs', hbs, rfl⟩
      exact ⟨b, bs', hb, hbs, rfl⟩
    · rintro ⟨b, bs', hb, hbs, rfl⟩
      exact ⟨b, hb, bs', hbs, rfl⟩

/-- Every value of a traversal comes from an element. -/
theorem exists_of_mem_mapM {f : α → Except ε β} {as : List α} {bs : List β}
    (h : as.mapM f = .ok bs) {b : β} (hb : b ∈ bs) : ∃ a ∈ as, f a = .ok b := by
  induction mapM_ok_iff.mp h with
  | nil => exact absurd hb List.not_mem_nil
  | @cons a b' as bs hhead htail ih =>
    cases List.mem_cons.mp hb with
    | inl heq => exact ⟨a, List.mem_cons_self, heq ▸ hhead⟩
    | inr hrest =>
      obtain ⟨a', ha', hvalue⟩ := ih (mapM_ok_iff.mpr htail) hrest
      exact ⟨a', List.mem_cons_of_mem _ ha', hvalue⟩

theorem forM_ok_iff {f : α → Except ε PUnit.{u + 1}} {as : List α} :
    forM as f = .ok ⟨⟩ ↔ ∀ a ∈ as, f a = .ok ⟨⟩ := by
  induction as with
  | nil => exact ⟨fun _ a ha ↦ absurd ha List.not_mem_nil, fun _ ↦ rfl⟩
  | cons a as ih =>
    change (f a >>= fun _ ↦ forM as f) = _ ↔ _
    rw [seq_ok_iff, List.forall_mem_cons, ih]

/-! ## Loops -/

variable {f : β → α → Except ε β} {as : List α} {b b' : β} {P : β → Prop}

/-- What the step of every element keeps, the loop keeps. -/
theorem foldlM_ok_keeps_of_mem (hkeeps : ∀ a ∈ as, ∀ b b', f b a = .ok b' → P b → P b')
    (h : as.foldlM f b = .ok b') (hb : P b) : P b' := by
  induction as generalizing b with
  | nil =>
    rw [List.foldlM_nil, pure_ok_iff] at h
    exact h ▸ hb
  | cons a as ih =>
    obtain ⟨ha, has⟩ := List.forall_mem_cons.1 hkeeps
    rw [List.foldlM_cons, bind_ok_iff] at h
    obtain ⟨b₁, hstep, hrest⟩ := h
    exact ih has hrest (ha b b₁ hstep hb)

theorem foldlM_ok_keeps (hkeeps : ∀ b a b', f b a = .ok b' → P b → P b')
    (h : as.foldlM f b = .ok b') (hb : P b) : P b' :=
  foldlM_ok_keeps_of_mem (fun a _ b b' ↦ hkeeps b a b') h hb

/-- What every step keeps holds in the end when the step of one element brings it about. -/
theorem foldlM_ok_reaches {a : α} (hkeeps : ∀ b a b', f b a = .ok b' → P b → P b')
    (hreaches : ∀ b b', f b a = .ok b' → P b') (ha : a ∈ as) (h : as.foldlM f b = .ok b') :
    P b' := by
  induction as generalizing b with
  | nil => cases ha
  | cons a' as ih =>
    rw [List.foldlM_cons, bind_ok_iff] at h
    obtain ⟨b₁, hstep, hrest⟩ := h
    cases ha with
    | head => exact foldlM_ok_keeps hkeeps hrest (hreaches b b₁ hstep)
    | tail _ ha => exact ih ha hrest

section Append

variable {γ : Type u} {f : List γ → α → Except ε (List γ)} {g : α → List γ} {out out' : List γ}

/-- When every step appends, the loop appends one piece for each element. -/
theorem foldlM_ok_append (hstep : ∀ a ∈ as, ∀ out out', f out a = .ok out' → out' = out ++ g a)
    (h : as.foldlM f out = .ok out') : out' = out ++ as.flatMap g := by
  induction as generalizing out with
  | nil => exact (Except.ok.inj h).symm.trans (List.append_nil out).symm
  | cons a as ih =>
    obtain ⟨ha, has⟩ := List.forall_mem_cons.1 hstep
    rw [List.foldlM_cons, bind_ok_iff] at h
    obtain ⟨out₁, hhead, hrest⟩ := h
    rw [ih has hrest, ha out out₁ hhead, List.flatMap_cons, List.append_assoc]

/-- A loop that appends succeeds when its steps do as long as the result satisfies `Q`, and `Q`
holds of the whole result and with it of every part it begins with. -/
theorem foldlM_eq_ok_append {Q : List γ → Prop} (hQ : ∀ out rest, Q (out ++ rest) → Q out)
    (hstep : ∀ a ∈ as, ∀ out, Q (out ++ g a) → f out a = .ok (out ++ g a))
    (h : Q (out ++ as.flatMap g)) : as.foldlM f out = .ok (out ++ as.flatMap g) := by
  induction as generalizing out with
  | nil => exact congrArg Except.ok (List.append_nil out).symm
  | cons a as ih =>
    obtain ⟨ha, has⟩ := List.forall_mem_cons.1 hstep
    rw [List.flatMap_cons, ← List.append_assoc] at h ⊢
    rw [List.foldlM_cons, ha out (hQ _ _ h)]
    exact ih has h

end Append

end Program.Results
