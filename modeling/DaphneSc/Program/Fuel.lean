import Mathlib.Data.List.Forall2
import Mathlib.Order.Nat
import Mathlib.Tactic.Common

/-!
# Loops that may not end

A loop without a bound of its own runs on fuel, and has no outcome when the fuel is gone. It
computes an outcome when more fuel than some bound always gives that outcome and less gives none or
the same; a loop that never ends computes no outcome at all. What a program computes is the program
itself, run on what its parts compute.
-/

namespace Program

universe u

/-- A program that may fail, or have no outcome. -/
abbrev Fuelled (ε α : Type u) := ExceptT ε Option α

variable {ε α β ι : Type u}

namespace Fuelled

/-- The program has no outcome. -/
def endless : Fuelled ε α := (none : Option (Except ε α))

def returned (a : α) : Fuelled ε α := some (.ok a)

def failed (e : ε) : Fuelled ε α := some (.error e)

/-- A fallible computation always has an outcome. -/
def ofFallible (r : Except ε α) : Fuelled ε α := some r

@[simp] theorem ofFallible_ok (a : α) : (ofFallible (.ok a) : Fuelled ε α) = returned a := rfl

@[simp] theorem ofFallible_error (e : ε) : (ofFallible (.error e) : Fuelled ε α) = failed e := rfl

theorem endless_bind (f : α → Fuelled ε β) : (endless >>= f) = endless := rfl

theorem returned_bind (a : α) (f : α → Fuelled ε β) : (returned a >>= f) = f a := rfl

theorem failed_bind (e : ε) (f : α → Fuelled ε β) : (failed e >>= f) = failed e := rfl

theorem cases_outcome (o : Fuelled ε α) :
    o = endless ∨ (∃ a, o = returned a) ∨ ∃ e, o = failed e := by
  match o with
  | none => exact .inl rfl
  | some (.ok a) => exact .inr (.inl ⟨a, rfl⟩)
  | some (.error e) => exact .inr (.inr ⟨e, rfl⟩)

theorem returned_ne_endless (a : α) : (returned a : Fuelled ε α) ≠ endless := nofun

theorem failed_ne_endless (e : ε) : (failed e : Fuelled ε α) ≠ endless := nofun

theorem returned_inj {a b : α} (h : (returned a : Fuelled ε α) = returned b) : a = b :=
  Except.ok.inj (Option.some.inj h)

theorem returned_ne_failed (a : α) (e : ε) : (returned a : Fuelled ε α) ≠ failed e := nofun

/-- A sequence returns when both its parts do. -/
theorem bind_eq_returned_iff {m : Fuelled ε α} {f : α → Fuelled ε β} {b : β} :
    (m >>= f) = returned b ↔ ∃ a, m = returned a ∧ f a = returned b := by
  constructor
  · intro h
    rcases cases_outcome m with rfl | ⟨a, rfl⟩ | ⟨e, rfl⟩
    · exact absurd h.symm (returned_ne_endless b)
    · exact ⟨a, rfl, h⟩
    · exact absurd h.symm (returned_ne_failed b e)
  · rintro ⟨a, rfl, h⟩
    exact h

/-- A sequence is endless when its first part is, or its second part is after the first returned. -/
theorem bind_eq_endless_iff {m : Fuelled ε α} {f : α → Fuelled ε β} :
    (m >>= f) = endless ↔ m = endless ∨ ∃ a, m = returned a ∧ f a = endless := by
  constructor
  · intro h
    rcases cases_outcome m with rfl | ⟨a, rfl⟩ | ⟨e, rfl⟩
    · exact .inl rfl
    · exact .inr ⟨a, rfl, h⟩
    · exact absurd h (failed_ne_endless e)
  · rintro (rfl | ⟨a, rfl, h⟩)
    · rfl
    · exact h

/-! ## Loops over a list -/

/-- A loop that collects what each element yields. -/
def collect (f : ι → Fuelled ε (List β)) (is : List ι) (result : List β) : Fuelled ε (List β) :=
  is.foldlM (fun result i ↦ f i >>= fun part ↦ returned (result ++ part)) result

theorem collect_cons (f : ι → Fuelled ε (List β)) (i : ι) (is : List ι) (result : List β) :
    collect f (i :: is) result = f i >>= fun part ↦ collect f is (result ++ part) := by
  unfold collect
  rw [List.foldlM_cons]
  rcases cases_outcome (f i) with h | ⟨part, h⟩ | ⟨e, h⟩ <;> rw [h] <;> rfl

theorem collect_eq_returned_iff {f : ι → Fuelled ε (List β)} {is : List ι} {result out : List β} :
    collect f is result = returned out ↔
      ∃ parts, List.Forall₂ (fun i part ↦ f i = returned part) is parts ∧
        out = result ++ parts.flatten := by
  induction is generalizing result with
  | nil =>
    simp only [List.forall₂_nil_left_iff]
    constructor
    · intro h
      exact ⟨[], rfl, by rw [List.flatten_nil, List.append_nil]; exact (returned_inj h).symm⟩
    · rintro ⟨_, rfl, rfl⟩
      rw [List.flatten_nil, List.append_nil]
      rfl
  | cons i is ih =>
    rw [collect_cons, bind_eq_returned_iff]
    simp only [ih, List.forall₂_cons_left_iff]
    constructor
    · rintro ⟨part, hpart, parts, hparts, rfl⟩
      exact ⟨part :: parts, ⟨part, parts, hpart, hparts, rfl⟩, by simp⟩
    · rintro ⟨_, ⟨part, parts, hpart, hparts, rfl⟩, rfl⟩
      exact ⟨part, hpart, parts, hparts, by simp⟩

/-- The loop is endless when it comes to an element at which it is. -/
theorem collect_eq_endless_iff {f : ι → Fuelled ε (List β)} {is : List ι} {result : List β} :
    collect f is result = endless ↔
      ∃ before i after, is = before ++ i :: after ∧
        (∀ earlier ∈ before, ∃ part, f earlier = returned part) ∧ f i = endless := by
  induction is generalizing result with
  | nil =>
    constructor
    · intro h
      exact absurd h (returned_ne_endless result)
    · rintro ⟨before, i, after, h, -⟩
      simp at h
  | cons i is ih =>
    rw [collect_cons, bind_eq_endless_iff]
    simp only [ih]
    constructor
    · rintro (h | ⟨part, hpart, before, i', after, rfl, hbefore, h⟩)
      · exact ⟨[], i, is, rfl, by simp, h⟩
      · refine ⟨i :: before, i', after, rfl, ?_, h⟩
        intro earlier hearlier
        rcases List.mem_cons.mp hearlier with rfl | hmem
        · exact ⟨part, hpart⟩
        · exact hbefore earlier hmem
    · rintro ⟨before, i', after, hsplit, hbefore, h⟩
      cases before with
      | nil =>
        obtain ⟨rfl, rfl⟩ := List.cons.inj hsplit
        exact .inl h
      | cons first before =>
        obtain ⟨rfl, rfl⟩ := List.cons.inj hsplit
        obtain ⟨part, hpart⟩ := hbefore _ List.mem_cons_self
        exact .inr ⟨part, hpart, before, i', after, rfl,
          fun earlier hearlier ↦ hbefore earlier (List.mem_cons_of_mem _ hearlier), h⟩

end Fuelled

open Fuelled

/-- What the program comes to with enough fuel. -/
structure Computes (m : ℕ → Fuelled ε α) (o : Fuelled ε α) : Prop where
  short : ∀ fuel, m fuel = endless ∨ m fuel = o
  enough : ∃ bound, ∀ fuel, bound ≤ fuel → m fuel = o

namespace Computes

theorem const (o : Fuelled ε α) : Computes (fun _ ↦ o) o where
  short _ := .inr rfl
  enough := ⟨0, fun _ _ ↦ rfl⟩

theorem bind {m : ℕ → Fuelled ε α} {o : Fuelled ε α} {f : ℕ → α → Fuelled ε β}
    {o' : α → Fuelled ε β} (hm : Computes m o) (hf : ∀ a, Computes (fun fuel ↦ f fuel a) (o' a)) :
    Computes (fun fuel ↦ m fuel >>= f fuel) (o >>= o') := by
  obtain ⟨bound, hbound⟩ := hm.enough
  rcases cases_outcome o with rfl | ⟨a, rfl⟩ | ⟨e, rfl⟩
  · have hnone : ∀ fuel, m fuel = endless := fun fuel ↦ (hm.short fuel).elim id id
    exact ⟨fun fuel ↦ .inl (by rw [hnone fuel, endless_bind]),
      ⟨0, fun fuel _ ↦ by rw [hnone fuel, endless_bind, endless_bind]⟩⟩
  · obtain ⟨bound', hbound'⟩ := (hf a).enough
    constructor
    · intro fuel
      rcases hm.short fuel with hnone | hreturned
      · exact .inl (by rw [hnone, endless_bind])
      · rw [hreturned, returned_bind, returned_bind]
        exact (hf a).short fuel
    · refine ⟨max bound bound', fun fuel hfuel ↦ ?_⟩
      rw [hbound fuel ((Nat.le_max_left _ _).trans hfuel), returned_bind, returned_bind]
      exact hbound' fuel ((Nat.le_max_right _ _).trans hfuel)
  · constructor
    · intro fuel
      rcases hm.short fuel with hnone | hfailed
      · exact .inl (by rw [hnone, endless_bind])
      · exact .inr (by rw [hfailed, failed_bind, failed_bind])
    · exact ⟨bound, fun fuel hfuel ↦ by rw [hbound fuel hfuel, failed_bind, failed_bind]⟩

theorem foldlM {f : ℕ → β → ι → Fuelled ε β} {o : β → ι → Fuelled ε β}
    (hf : ∀ b i, Computes (fun fuel ↦ f fuel b i) (o b i)) (is : List ι) (b : β) :
    Computes (fun fuel ↦ is.foldlM (f fuel) b) (is.foldlM o b) := by
  induction is generalizing b with
  | nil => exact const _
  | cons i is ih =>
    simp only [List.foldlM_cons]
    exact (hf b i).bind ih

theorem collect {f : ℕ → ι → Fuelled ε (List β)} {o : ι → Fuelled ε (List β)}
    (hf : ∀ i, Computes (fun fuel ↦ f fuel i) (o i)) (is : List ι) (result : List β) :
    Computes (fun fuel ↦ Fuelled.collect (f fuel) is result) (Fuelled.collect o is result) :=
  foldlM (fun result i ↦ (hf i).bind fun part ↦ const (returned (result ++ part))) is result

variable {m : ℕ → Fuelled ε α} {o : Fuelled ε α}

/-- The program ends on some fuel exactly when it computes an outcome. -/
theorem ends_iff (h : Computes m o) : (∃ fuel, m fuel ≠ endless) ↔ o ≠ endless := by
  constructor
  · rintro ⟨fuel, hne⟩ heq
    rcases h.short fuel with hnone | hsame
    · exact hne hnone
    · exact hne (hsame.trans heq)
  · intro hne
    obtain ⟨bound, hbound⟩ := h.enough
    exact ⟨bound, by rw [hbound bound (Nat.le_refl _)]; exact hne⟩

/-- The values it returns are those of the outcome. -/
theorem returned_iff (h : Computes m o) (a : α) :
    (∃ fuel, m fuel = returned a) ↔ o = returned a := by
  constructor
  · rintro ⟨fuel, hreturned⟩
    rcases h.short fuel with hnone | hsame
    · exact absurd (hreturned.symm.trans hnone) (returned_ne_endless a)
    · exact hsame.symm.trans hreturned
  · rintro rfl
    obtain ⟨bound, hbound⟩ := h.enough
    exact ⟨bound, hbound bound (Nat.le_refl _)⟩

end Computes

end Program
