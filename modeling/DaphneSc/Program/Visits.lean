import DaphneSc.Program.Basic
import Mathlib.Data.List.Basic

/-!
# Walks that call a visitor

A walk is a program with a hole for a visitor. What it visits, in which order and whether it fails
on its own afterwards does not depend on the visitor, so two visitors of one walk see the same
items.
-/

namespace Program

variable {ε ι κ α : Type}

/-- A walk, for visitors over any state. -/
abbrev Walk (ε ι : Type) := (σ : Type) → (ι → Prog ε σ PUnit) → Prog ε σ PUnit

/-- The walk calls the visitor on the items, in this order, and then ends with `outcome`. -/
def Visits (W : Walk ε ι) (items : List ι) (outcome : Except ε PUnit) : Prop :=
  ∀ σ visitor, W σ visitor = (items.forM visitor >>= fun _ ↦ ofResult outcome)

/-- The walk visits a list of items with a property and may fail on its own afterwards. -/
def IsWalk (P : ι → Prop) (W : Walk ε ι) : Prop :=
  ∃ items outcome, (∀ i ∈ items, P i) ∧ Visits W items outcome

variable {W W' : Walk ε ι} {items items' : List ι} {outcome : Except ε PUnit} {P : ι → Prop}
  {σ : Type} {visitor : ι → Prog ε σ PUnit} {s s' : σ} {i : ι}

theorem visits_pure : Visits (fun _ _ ↦ pure PUnit.unit : Walk ε ι) [] (.ok ⟨⟩) := fun _ _ ↦ rfl

theorem visits_fail (e : ε) : Visits (fun _ _ ↦ fail e : Walk ε ι) [] (.error e) := fun _ _ ↦ rfl

theorem visits_visitor (i : ι) : Visits (fun _ visitor ↦ visitor i : Walk ε ι) [i] (.ok ⟨⟩) := by
  intro σ visitor
  change visitor i = (visitor i >>= fun _ ↦ pure PUnit.unit) >>= fun _ ↦ pure PUnit.unit
  simp

theorem Visits.seq (h : Visits W items (.ok ⟨⟩)) (h' : Visits W' items' outcome) :
    Visits (fun σ visitor ↦ W σ visitor >>= fun _ ↦ W' σ visitor) (items ++ items') outcome := by
  intro σ visitor
  calc
    (W σ visitor >>= fun _ ↦ W' σ visitor) =
        items.forM visitor >>= fun _ ↦ items'.forM visitor >>= fun _ ↦ ofResult outcome := by
      rw [h σ visitor, h' σ visitor]
      simp
    _ = (items ++ items').forM visitor >>= fun _ ↦ ofResult outcome := by
      rw [← bind_assoc]
      exact congrArg (· >>= fun _ ↦ ofResult outcome) List.forM_append.symm

theorem Visits.seq_error {e : ε} (h : Visits W items (.error e)) :
    Visits (fun σ visitor ↦ W σ visitor >>= fun _ ↦ W' σ visitor) items (.error e) := by
  intro σ visitor
  calc
    (W σ visitor >>= fun _ ↦ W' σ visitor) =
        items.forM visitor >>= fun _ ↦ fail e >>= fun _ ↦ W' σ visitor := by
      rw [h σ visitor, bind_assoc]
      rfl
    _ = items.forM visitor >>= fun _ ↦ fail e := by simp only [fail_bind]

/-- A walk that returned with one visitor has no failure of its own. -/
theorem Visits.outcome_eq (h : Visits W items outcome) (hok : W σ visitor s = .ok ⟨⟩ s') :
    outcome = .ok ⟨⟩ := by
  rw [h σ visitor, bind_eq_ok_iff] at hok
  obtain ⟨_, _, -, hend⟩ := hok
  cases outcome with
  | ok _ => rfl
  | error e => cases hend

theorem Visits.eq_forM (h : Visits W items (.ok ⟨⟩)) (σ : Type) (visitor : ι → Prog ε σ PUnit) :
    W σ visitor = items.forM visitor := by
  rw [h σ visitor]
  exact bind_pure_unit

/-! ## Walks visit one list of items -/

/-- The visitor that collects the items. -/
def collect (i : ι) : Prog ε (List ι) PUnit := modify (· ++ [i])

theorem forM_collect (items done : List ι) :
    items.forM (collect : ι → Prog ε (List ι) PUnit) done = .ok ⟨⟩ (done ++ items) := by
  induction items generalizing done with
  | nil => exact congrArg (EStateM.Result.ok PUnit.unit) (List.append_nil done).symm
  | cons i items ih =>
    calc
      (collect i >>= fun _ ↦ items.forM collect) done = items.forM collect (done ++ [i]) := rfl
      _ = .ok ⟨⟩ (done ++ [i] ++ items) := ih (done ++ [i])
      _ = .ok ⟨⟩ (done ++ i :: items) := by rw [List.append_assoc, List.singleton_append]

theorem Visits.unique (h : Visits W items (.ok ⟨⟩)) (h' : Visits W items' (.ok ⟨⟩)) :
    items = items' := by
  have hrun := congrFun ((h.eq_forM _ collect).symm.trans (h'.eq_forM _ collect)) []
  rw [forM_collect, forM_collect] at hrun
  cases hrun
  rfl

/-! ## Building walks -/

theorem isWalk_fail (e : ε) : IsWalk P (fun _ _ ↦ fail e) :=
  ⟨[], .error e, fun _ h ↦ absurd h List.not_mem_nil, visits_fail e⟩

theorem isWalk_pure : IsWalk P (fun _ _ ↦ pure PUnit.unit : Walk ε ι) :=
  ⟨[], .ok ⟨⟩, fun _ h ↦ absurd h List.not_mem_nil, visits_pure⟩

theorem isWalk_visitor (h : P i) : IsWalk P (fun _ visitor ↦ visitor i : Walk ε ι) :=
  ⟨[i], .ok ⟨⟩, fun _ hj ↦ List.mem_singleton.1 hj ▸ h, visits_visitor i⟩

theorem IsWalk.seq (h : IsWalk P W) (h' : IsWalk P W') :
    IsWalk P (fun σ visitor ↦ W σ visitor >>= fun _ ↦ W' σ visitor) := by
  obtain ⟨items, outcome, hitems, hvisits⟩ := h
  obtain ⟨items', outcome', hitems', hvisits'⟩ := h'
  cases outcome with
  | ok _ =>
    refine ⟨items ++ items', outcome', fun i hi ↦ ?_, hvisits.seq hvisits'⟩
    exact (List.mem_append.1 hi).elim (hitems i) (hitems' i)
  | error e => exact ⟨items, .error e, hitems, hvisits.seq_error⟩

theorem isWalk_failIf (c : Prop) [Decidable c] (e : ε) (h : ¬ c → IsWalk P W) :
    IsWalk P (fun σ visitor ↦ failIf c e >>= fun _ ↦ W σ visitor) := by
  by_cases hc : c
  · simpa [failIf, hc] using isWalk_fail e
  · simpa [failIf, hc] using h hc

theorem isWalk_ofResult {W : α → Walk ε ι} (r : Except ε α) (h : ∀ a, r = .ok a → IsWalk P (W a)) :
    IsWalk P (fun σ visitor ↦ ofResult r >>= fun a ↦ W a σ visitor) := by
  cases r with
  | ok a => simpa using h a rfl
  | error e => exact isWalk_fail e

theorem isWalk_okOr {W : α → Walk ε ι} (o : Option α) (e : ε)
    (h : ∀ a, o = some a → IsWalk P (W a)) :
    IsWalk P (fun σ visitor ↦ okOr o e >>= fun a ↦ W a σ visitor) := by
  cases o with
  | some a => simpa using h a rfl
  | none => exact isWalk_fail e

theorem isWalk_forM {W : κ → Walk ε ι} (ks : List κ) (h : ∀ k ∈ ks, IsWalk P (W k)) :
    IsWalk P (fun σ visitor ↦ ks.forM fun k ↦ W k σ visitor) := by
  induction ks with
  | nil => exact isWalk_pure
  | cons k ks ih =>
    obtain ⟨hk, hks⟩ := List.forall_mem_cons.1 h
    exact hk.seq (ih hks)

theorem visits_forM {W : κ → Walk ε ι} {ks : List κ} {items : κ → List ι}
    (h : ∀ k ∈ ks, Visits (W k) (items k) (.ok ⟨⟩)) :
    Visits (fun σ visitor ↦ ks.forM fun k ↦ W k σ visitor) (ks.flatMap items) (.ok ⟨⟩) := by
  induction ks with
  | nil => exact visits_pure
  | cons k ks ih =>
    obtain ⟨hk, hks⟩ := List.forall_mem_cons.1 h
    exact hk.seq (ih hks)

/-! ## Items that are not left out -/

/-- The walk visits an item with the property, unless it fails. -/
def Meets (P : ι → Prop) (W : Walk ε ι) : Prop :=
  ∃ items outcome, (outcome = .ok ⟨⟩ → ∃ i ∈ items, P i) ∧ Visits W items outcome

/-- What is met is among the items of a walk that does not fail. -/
theorem Meets.exists_mem (h : Meets P W) (hvisits : Visits W items (.ok ⟨⟩)) :
    ∃ i ∈ items, P i := by
  obtain ⟨items', outcome, hmeets, hvisits'⟩ := h
  have hrun : W (List ι) collect [] = .ok ⟨⟩ items := by
    rw [hvisits.eq_forM, forM_collect, List.nil_append]
  obtain rfl := hvisits'.outcome_eq hrun
  rw [hvisits.unique hvisits']
  exact hmeets rfl

theorem meets_fail (e : ε) : Meets P (fun _ _ ↦ fail e) :=
  ⟨[], .error e, fun h ↦ absurd h (by simp), visits_fail e⟩

theorem meets_visitor (h : P i) : Meets P (fun _ visitor ↦ visitor i : Walk ε ι) :=
  ⟨[i], .ok ⟨⟩, fun _ ↦ ⟨i, List.mem_singleton_self i, h⟩, visits_visitor i⟩

theorem Meets.seq {Q : ι → Prop} (h : Meets P W) (h' : IsWalk Q W') :
    Meets P (fun σ visitor ↦ W σ visitor >>= fun _ ↦ W' σ visitor) := by
  obtain ⟨items, outcome, hmeets, hvisits⟩ := h
  obtain ⟨items', outcome', -, hvisits'⟩ := h'
  cases outcome with
  | ok _ =>
    refine ⟨items ++ items', outcome', fun _ ↦ ?_, hvisits.seq hvisits'⟩
    obtain ⟨i, hi, hP⟩ := hmeets rfl
    exact ⟨i, List.mem_append_left _ hi, hP⟩
  | error e => exact ⟨items, .error e, fun h ↦ absurd h (by simp), hvisits.seq_error⟩

theorem Meets.after {Q : ι → Prop} (h : IsWalk Q W) (h' : Meets P W') :
    Meets P (fun σ visitor ↦ W σ visitor >>= fun _ ↦ W' σ visitor) := by
  obtain ⟨items, outcome, -, hvisits⟩ := h
  obtain ⟨items', outcome', hmeets, hvisits'⟩ := h'
  cases outcome with
  | ok _ =>
    refine ⟨items ++ items', outcome', fun hok ↦ ?_, hvisits.seq hvisits'⟩
    obtain ⟨i, hi, hP⟩ := hmeets hok
    exact ⟨i, List.mem_append_right _ hi, hP⟩
  | error e => exact ⟨items, .error e, fun h ↦ absurd h (by simp), hvisits.seq_error⟩

theorem meets_failIf (c : Prop) [Decidable c] (e : ε) (h : ¬ c → Meets P W) :
    Meets P (fun σ visitor ↦ failIf c e >>= fun _ ↦ W σ visitor) := by
  by_cases hc : c
  · simpa [failIf, hc] using meets_fail e
  · simpa [failIf, hc] using h hc

theorem meets_ofResult {W : α → Walk ε ι} (r : Except ε α) (h : ∀ a, r = .ok a → Meets P (W a)) :
    Meets P (fun σ visitor ↦ ofResult r >>= fun a ↦ W a σ visitor) := by
  cases r with
  | ok a => simpa using h a rfl
  | error e => exact meets_fail e

theorem meets_okOr {W : α → Walk ε ι} (o : Option α) (e : ε) (h : ∀ a, o = some a → Meets P (W a)) :
    Meets P (fun σ visitor ↦ okOr o e >>= fun a ↦ W a σ visitor) := by
  cases o with
  | some a => simpa using h a rfl
  | none => exact meets_fail e

theorem meets_forM {Q : ι → Prop} {W : κ → Walk ε ι} {ks : List κ} {k : κ} (hk : k ∈ ks)
    (hwalk : ∀ k ∈ ks, IsWalk Q (W k)) (h : Meets P (W k)) :
    Meets P (fun σ visitor ↦ ks.forM fun k ↦ W k σ visitor) := by
  induction ks with
  | nil => cases hk
  | cons head ks ih =>
    obtain ⟨hhead, hks⟩ := List.forall_mem_cons.1 hwalk
    cases hk with
    | head => exact h.seq (isWalk_forM ks hks)
    | tail _ hk => exact .after hhead (ih hk hks)

end Program
