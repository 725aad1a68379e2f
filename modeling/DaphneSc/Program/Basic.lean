import Mathlib.Tactic.Common

/-!
# Stateful programs that return, fail or stop

A program over a state `σ` ends in one of three ways. It returns a value, it fails with an error
of its own type, or it stops at a violated run-time check (an index out of bounds, an overflow, a
branch declared unreachable). The state reached so far is kept in all three cases, because code
that fails halfway has already had its effects.

The weakest precondition `wp` reads a run off as a proposition. Its rules are equivalences, one
for each way of building a program, so that a program is executed symbolically by rewriting.
-/

namespace Program

universe u

/-- The two ways to end without a value. -/
inductive Abort (ε : Type u) where
  | error (e : ε)
  | panic
  deriving DecidableEq, Repr

/-- Programs with errors in `ε`, state in `σ` and values in `α`. -/
abbrev Prog (ε σ α : Type u) := EStateM (Abort ε) σ α

variable {ε ε' σ τ α β : Type u}

/-! ## Primitive programs -/

def fail (e : ε) : Prog ε σ α := throw (.error e)

def stop : Prog ε σ α := throw .panic

/-- Fail when a condition holds. -/
def failIf (c : Prop) [Decidable c] (e : ε) : Prog ε σ PUnit := if c then fail e else pure ⟨⟩

/-- Use a pure fallible computation inside a program. -/
def ofResult : Except ε α → Prog ε σ α
  | .ok a => pure a
  | .error e => fail e

/-- A missing value becomes the given error. -/
def okOr (a : Option α) (e : ε) : Prog ε σ α :=
  match a with
  | some a => pure a
  | none => fail e

/-- An indexing whose bound is checked at run time. -/
def index {n : ℕ} (v : Vector α n) (i : ℕ) : Prog ε σ α :=
  match v[i]? with
  | some a => pure a
  | none => stop

/-- An assignment to an element whose bound is checked at run time. -/
def setAt {n : ℕ} (v : Vector α n) (i : ℕ) (a : α) : Prog ε σ (Vector α n) :=
  if h : i < n then pure (v.set i a h) else stop

/-- Update every error; a stopped program stays stopped. -/
def mapError (f : ε → ε') (m : Prog ε σ α) : Prog ε' σ α := fun s ↦
  match m s with
  | .ok a s' => .ok a s'
  | .error (.error e) s' => .error (.error (f e)) s'
  | .error .panic s' => .error .panic s'

/-- Turn errors into values, so that the caller can go on; a stopped program stays stopped. -/
def attempt (m : Prog ε σ α) : Prog ε' σ (Except ε α) := fun s ↦
  match m s with
  | .ok a s' => .ok (.ok a) s'
  | .error (.error e) s' => .ok (.error e) s'
  | .error .panic s' => .error .panic s'

/-- A component of a larger state. Writing keeps what the write says and nothing else is assumed. -/
structure Lens (σ τ : Type u) where
  view : σ → τ
  update : τ → σ → σ
  view_update : ∀ t s, view (update t s) = t

/-- Run a program on one component of a larger state. -/
def zoom (l : Lens σ τ) (m : Prog ε τ α) : Prog ε σ α := fun s ↦
  match m (l.view s) with
  | .ok a t => .ok a (l.update t s)
  | .error e t => .error e (l.update t s)

/-! ## Running -/

theorem run_bind (m : Prog ε σ α) (f : α → Prog ε σ β) (s : σ) :
    (m >>= f) s = match m s with
      | .ok a s' => f a s'
      | .error e s' => .error e s' := by
  simp only [bind, EStateM.bind]
  cases m s <;> rfl

theorem run_map (f : α → β) (m : Prog ε σ α) (s : σ) :
    (f <$> m) s = match m s with
      | .ok a s' => .ok (f a) s'
      | .error e s' => .error e s' := by
  simp only [Functor.map, EStateM.map]
  cases m s <;> rfl

/-- A sequence returns when both its parts do. -/
theorem bind_eq_ok_iff {m : Prog ε σ α} {f : α → Prog ε σ β} {s t : σ} {b : β} :
    (m >>= f) s = .ok b t ↔ ∃ a s', m s = .ok a s' ∧ f a s' = .ok b t := by
  rw [run_bind]
  cases m s with
  | ok a s' => simp
  | error e s' => simp

theorem map_eq_ok_iff {f : α → β} {m : Prog ε σ α} {s t : σ} {b : β} :
    (f <$> m) s = .ok b t ↔ ∃ a, m s = .ok a t ∧ f a = b := by
  rw [run_map]
  cases m s with
  | ok a s' => simp [and_comm]
  | error e s' => simp

@[simp] theorem ofResult_ok (a : α) : (ofResult (.ok a) : Prog ε σ α) = pure a := rfl

@[simp] theorem ofResult_error (e : ε) : (ofResult (.error e) : Prog ε σ α) = fail e := rfl

theorem mapError_ofResult (f : ε → ε') (r : Except ε α) :
    (mapError f (ofResult r) : Prog ε' σ α) = ofResult (r.mapError f) := by
  cases r <;> rfl

theorem attempt_ofResult (r : Except ε α) :
    (attempt (ofResult r) : Prog ε' σ (Except ε α)) = pure r := by
  cases r <;> rfl

@[simp] theorem okOr_some (a : α) (e : ε) : (okOr (some a) e : Prog ε σ α) = pure a := rfl

@[simp] theorem okOr_none (e : ε) : (okOr none e : Prog ε σ α) = fail e := rfl

theorem index_of_lt {n : ℕ} (v : Vector α n) {i : ℕ} (h : i < n) :
    (index v i : Prog ε σ α) = pure v[i] := by
  simp [index, h]

theorem setAt_of_lt {n : ℕ} (v : Vector α n) {i : ℕ} (h : i < n) (a : α) :
    (setAt v i a : Prog ε σ (Vector α n)) = pure (v.set i a h) := dif_pos h

theorem run_modify_bind (f : σ → σ) (k : PUnit → Prog ε σ β) (s : σ) :
    (modify f >>= k) s = k ⟨⟩ (f s) := rfl

theorem run_pure (a : α) (s : σ) : (pure a : Prog ε σ α) s = .ok a s := rfl

theorem run_fail (e : ε) (s : σ) : (fail e : Prog ε σ α) s = .error (.error e) s := rfl

@[simp] theorem fail_bind (e : ε) (f : α → Prog ε σ β) : (fail e >>= f) = fail e := rfl

@[simp] theorem run_get_bind (f : σ → Prog ε σ β) (s : σ) : (get >>= f) s = f s s := rfl

/-! ## Weakest preconditions -/

/-- The final state of a run, whichever way it ended. -/
def final (m : Prog ε σ α) (s : σ) : σ :=
  match m s with
  | .ok _ s' => s'
  | .error _ s' => s'

theorem final_of_ok {m : Prog ε σ α} {s t : σ} {a : α} (h : m s = .ok a t) : final m s = t := by
  rw [final, h]

theorem final_of_error {m : Prog ε σ α} {s t : σ} {e : Abort ε} (h : m s = .error e t) :
    final m s = t := by
  rw [final, h]

def returns (m : Prog ε σ α) (s : σ) : Bool :=
  match m s with
  | .ok _ _ => true
  | .error _ _ => false

theorem eq_ok_final {m : Prog ε σ PUnit} {s : σ} (h : returns m s = true) :
    m s = .ok ⟨⟩ (final m s) := by
  unfold returns at h
  unfold final
  cases hm : m s with
  | ok _ s' => rfl
  | error e s' =>
    rw [hm] at h
    exact absurd h Bool.false_ne_true

/-- The run of `m` from `s` ends in `Q` when it returns and in `E` when it does not. -/
def wp (m : Prog ε σ α) (Q : α → σ → Prop) (E : Abort ε → σ → Prop) (s : σ) : Prop :=
  match m s with
  | .ok a s' => Q a s'
  | .error e s' => E e s'

variable {Q : α → σ → Prop} {R : β → σ → Prop} {E : Abort ε → σ → Prop} {s : σ}

@[simp] theorem wp_pure (a : α) : wp (pure a : Prog ε σ α) Q E s ↔ Q a s := Iff.rfl

@[simp] theorem wp_fail (e : ε) : wp (fail e : Prog ε σ α) Q E s ↔ E (.error e) s := Iff.rfl

@[simp] theorem wp_stop : wp (stop : Prog ε σ α) Q E s ↔ E .panic s := Iff.rfl

@[simp] theorem wp_get {Q : σ → σ → Prop} : wp (get : Prog ε σ σ) Q E s ↔ Q s s := Iff.rfl

@[simp] theorem wp_set {Q : PUnit → σ → Prop} (t : σ) :
    wp (set t : Prog ε σ PUnit) Q E s ↔ Q ⟨⟩ t := Iff.rfl

@[simp] theorem wp_modify {Q : PUnit → σ → Prop} (f : σ → σ) :
    wp (modify f : Prog ε σ PUnit) Q E s ↔ Q ⟨⟩ (f s) := Iff.rfl

@[simp] theorem wp_bind (m : Prog ε σ α) (f : α → Prog ε σ β) :
    wp (m >>= f) R E s ↔ wp m (fun a ↦ wp (f a) R E) E s := by
  simp only [wp, bind, EStateM.bind]
  cases m s <;> rfl

@[simp] theorem wp_map (f : α → β) (m : Prog ε σ α) :
    wp (f <$> m) R E s ↔ wp m (fun a ↦ R (f a)) E s := by
  simp only [wp, Functor.map, EStateM.map]
  cases m s <;> rfl

@[simp] theorem wp_ofResult (r : Except ε α) :
    wp (ofResult r : Prog ε σ α) Q E s ↔
      (∀ a, r = .ok a → Q a s) ∧ ∀ e, r = .error e → E (.error e) s := by
  cases r <;> simp [ofResult]

@[simp] theorem wp_okOr (a : Option α) (e : ε) :
    wp (okOr a e : Prog ε σ α) Q E s ↔
      (∀ b, a = some b → Q b s) ∧ (a = none → E (.error e) s) := by
  cases a <;> simp [okOr]

@[simp] theorem wp_failIf (c : Prop) [Decidable c] (e : ε) {Q : PUnit → σ → Prop} :
    wp (failIf c e : Prog ε σ PUnit) Q E s ↔ (¬ c → Q ⟨⟩ s) ∧ (c → E (.error e) s) := by
  unfold failIf
  by_cases hc : c <;> simp [hc]

@[simp] theorem wp_index {n : ℕ} (v : Vector α n) (i : ℕ) :
    wp (index v i : Prog ε σ α) Q E s ↔ (∀ h : i < n, Q v[i] s) ∧ (n ≤ i → E .panic s) := by
  unfold index
  rcases Nat.lt_or_ge i n with hi | hi
  · simp [hi, Nat.not_le.mpr hi]
  · simp [hi, Nat.not_lt.mpr hi]

@[simp] theorem wp_setAt {n : ℕ} (v : Vector α n) (i : ℕ) (a : α)
    {Q : Vector α n → σ → Prop} : wp (setAt v i a : Prog ε σ (Vector α n)) Q E s ↔
      (∀ h : i < n, Q (v.set i a h) s) ∧ (n ≤ i → E .panic s) := by
  unfold setAt
  rcases Nat.lt_or_ge i n with hi | hi
  · simp [hi, Nat.not_le.mpr hi]
  · simp [hi, Nat.not_lt.mpr hi]

@[simp] theorem wp_mapError (f : ε → ε') (m : Prog ε σ α) {E : Abort ε' → σ → Prop} :
    wp (mapError f m) Q E s ↔
      wp m Q (fun a s' ↦ match a with
        | .error e => E (.error (f e)) s'
        | .panic => E .panic s') s := by
  simp only [wp, mapError]
  rcases m s with _ | ⟨_ | _, _⟩ <;> rfl

@[simp] theorem wp_attempt (m : Prog ε σ α) {Q : Except ε α → σ → Prop} {E : Abort ε' → σ → Prop} :
    wp (attempt m) Q E s ↔
      wp m (fun a ↦ Q (.ok a)) (fun a s' ↦ match a with
        | .error e => Q (.error e) s'
        | .panic => E .panic s') s := by
  simp only [wp, attempt]
  rcases m s with _ | ⟨_ | _, _⟩ <;> rfl

@[simp] theorem wp_zoom (l : Lens σ τ) (m : Prog ε τ α) :
    wp (zoom l m) Q E s ↔
      wp m (fun a t ↦ Q a (l.update t s)) (fun e t ↦ E e (l.update t s)) (l.view s) := by
  simp only [wp, zoom]
  cases m (l.view s) <;> rfl

/-- Rule of consequence. -/
theorem wp_mono {m : Prog ε σ α} {Q' : α → σ → Prop} {E' : Abort ε → σ → Prop}
    (h : wp m Q E s) (hQ : ∀ a s', Q a s' → Q' a s') (hE : ∀ e s', E e s' → E' e s') :
    wp m Q' E' s := by
  unfold wp at h ⊢
  cases hm : m s with
  | ok a s' => exact hQ a s' (by simpa only [hm] using h)
  | error e s' => exact hE e s' (by simpa only [hm] using h)

/-- Two facts about one run hold together. -/
theorem wp_and {m : Prog ε σ α} {Q' : α → σ → Prop} {E' : Abort ε → σ → Prop}
    (h : wp m Q E s) (h' : wp m Q' E' s) :
    wp m (fun a s' ↦ Q a s' ∧ Q' a s') (fun e s' ↦ E e s' ∧ E' e s') s := by
  unfold wp at h h' ⊢
  cases hm : m s with
  | ok a s' => exact ⟨by simpa only [hm] using h, by simpa only [hm] using h'⟩
  | error e s' => exact ⟨by simpa only [hm] using h, by simpa only [hm] using h'⟩

theorem wp_of_forall {m : Prog ε σ α} (hQ : ∀ a s', Q a s') (hE : ∀ e s', E e s') :
    wp m Q E s := by
  unfold wp
  cases m s with
  | ok a s' => exact hQ a s'
  | error e s' => exact hE e s'

/-- Sequencing after a program about which nothing is known. -/
theorem wp_bind_of_forall {m : Prog ε σ α} {f : α → Prog ε σ β} {s : σ}
    (hf : ∀ a s', wp (f a) R E s') (hE : ∀ e s', E e s') : wp (m >>= f) R E s :=
  (wp_bind m f).mpr (wp_of_forall hf hE)

/-- What holds of every value returned, when nothing is said about errors. -/
theorem wp_of_ok {m : Prog ε σ α} (h : ∀ a s', m s = .ok a s' → Q a s') :
    wp m Q (fun _ _ ↦ True) s := by
  unfold wp
  cases hm : m s with
  | ok a s' => exact h a s' hm
  | error e s' => trivial

theorem post_of_ok {m : Prog ε σ α} {a : α} {s' : σ} (h : wp m Q E s) (hm : m s = .ok a s') :
    Q a s' := by
  simpa only [wp, hm] using h

theorem post_of_error {m : Prog ε σ α} {e : Abort ε} {s' : σ} (h : wp m Q E s)
    (hm : m s = .error e s') : E e s' := by
  simpa only [wp, hm] using h

/-- A run that cannot end otherwise returns. -/
theorem ok_of_wp {m : Prog ε σ α} (h : wp m Q (fun _ _ ↦ False) s) :
    ∃ a t, m s = .ok a t ∧ Q a t := by
  unfold wp at h
  cases hm : m s with
  | ok a t => exact ⟨a, t, rfl, by simpa only [hm] using h⟩
  | error e t =>
    rw [hm] at h
    exact False.elim h

/-- What holds at the end of a run, whichever way it ended. -/
theorem final_of_wp {m : Prog ε σ α} {P : σ → Prop} {s : σ}
    (h : wp m (fun _ t ↦ P t) (fun _ t ↦ P t) s) : P (final m s) := by
  unfold wp at h
  unfold final
  cases hm : m s with
  | ok a t => simpa only [hm] using h
  | error e t => simpa only [hm] using h

/-- The final state of a mapped run, when the value does not matter. -/
theorem post_of_map_ok {m : Prog ε σ α} {f : α → β} {P : σ → Prop} {b : β} {s' : σ}
    (h : wp m (fun _ t ↦ P t) E s) (hm : (f <$> m) s = .ok b s') : P s' := by
  have hmap : wp (f <$> m) (fun _ t ↦ P t) E s := (wp_map f m).mpr h
  exact post_of_ok hmap hm

theorem post_of_map_error {m : Prog ε σ α} {f : α → β} {e : Abort ε} {s' : σ}
    (h : wp m Q E s) (hm : (f <$> m) s = .error e s') : E e s' := by
  have hmap : wp (f <$> m) (fun _ _ ↦ True) E s :=
    (wp_map f m).mpr (wp_mono h (fun _ _ _ ↦ trivial) (fun _ _ he ↦ he))
  exact post_of_error hmap hm

end Program
