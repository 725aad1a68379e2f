import DaphneSc.Program.Basic

/-!
# Effects bounded by a transition relation

A `Bound` is a reflexive and transitive relation on states. A program is `Within` it when every
run, also one that fails or stops, moves the state along the relation. Both the invariants of a
component (`Bound.invariant`) and its frame conditions (`Bound.keeps`) have this form, and a
program stays within a bound as soon as all its parts do, so such facts are proved by walking
through the text of the program.
-/

namespace Program

universe u

/-- A reflexive and transitive relation on states. -/
structure Bound (σ : Type u) where
  rel : σ → σ → Prop
  refl : ∀ s, rel s s
  trans : ∀ {s t r}, rel s t → rel t r → rel s r

variable {ε ε' σ τ α β ι : Type u}

namespace Bound

/-- States may change only in ways that leave the observation `f` as it is. -/
def keeps {γ : Sort*} (f : σ → γ) : Bound σ where
  rel s t := f t = f s
  refl _ := rfl
  trans h h' := h'.trans h

/-- A property, once true, stays true. -/
def invariant (I : σ → Prop) : Bound σ where
  rel s t := I s → I t
  refl _ := id
  trans h h' := h' ∘ h

/-- Both relations at once. -/
def inter (B C : Bound σ) : Bound σ where
  rel s t := B.rel s t ∧ C.rel s t
  refl s := ⟨B.refl s, C.refl s⟩
  trans h h' := ⟨B.trans h.1 h'.1, C.trans h.2 h'.2⟩

/-- No restriction. -/
def top : Bound σ where
  rel _ _ := True
  refl _ := trivial
  trans _ _ := trivial

/-- A restriction of a part of the state. -/
def comap (f : σ → τ) (B : Bound τ) : Bound σ where
  rel s t := B.rel (f s) (f t)
  refl s := B.refl (f s)
  trans h h' := B.trans h h'

@[simp] theorem keeps_rel {γ : Sort*} {f : σ → γ} {s t : σ} : (keeps f).rel s t ↔ f t = f s :=
  Iff.rfl

@[simp] theorem invariant_rel {I : σ → Prop} {s t : σ} :
    (invariant I).rel s t ↔ (I s → I t) := Iff.rfl

end Bound

variable {B : Bound σ}

/-- Every run of `m`, however it ends, moves the state along `B`. -/
def Within (B : Bound σ) (m : Prog ε σ α) : Prop :=
  ∀ s, wp m (fun _ s' ↦ B.rel s s') (fun _ s' ↦ B.rel s s') s

theorem Within.final {m : Prog ε σ α} (h : Within B m) (s : σ) : B.rel s (final m s) := by
  have hs := h s
  unfold wp at hs
  unfold Program.final
  cases hm : m s <;> simpa only [hm] using hs

theorem Within.ok {m : Prog ε σ α} (h : Within B m) {s s' : σ} {a : α} (hm : m s = .ok a s') :
    B.rel s s' := by
  have hs := h s
  simpa only [wp, hm] using hs

theorem Within.error {m : Prog ε σ α} (h : Within B m) {s s' : σ} {e : Abort ε}
    (hm : m s = .error e s') : B.rel s s' := by
  have hs := h s
  simpa only [wp, hm] using hs

/-- Sequencing after a program known only by its bound. -/
theorem wp_bind_of_within {m : Prog ε σ α} {f : α → Prog ε σ β} {Q : β → σ → Prop}
    {E : Abort ε → σ → Prop} {s : σ} (hm : Within B m)
    (hf : ∀ a s', B.rel s s' → wp (f a) Q E s') (he : ∀ e s', B.rel s s' → E e s') :
    wp (m >>= f) Q E s := by
  rw [wp_bind]
  exact wp_mono (hm s) hf he

/-! ## Programs within a bound -/

theorem within_top (m : Prog ε σ α) : Within .top m :=
  fun _ ↦ wp_of_forall (fun _ _ ↦ trivial) fun _ _ ↦ trivial

theorem within_pure (a : α) : Within B (pure a : Prog ε σ α) := fun s ↦ B.refl s

theorem within_fail (e : ε) : Within B (fail e : Prog ε σ α) := fun s ↦ B.refl s

theorem within_stop : Within B (stop : Prog ε σ α) := fun s ↦ B.refl s

theorem within_get : Within B (get : Prog ε σ σ) := fun s ↦ B.refl s

theorem within_modify {f : σ → σ} (h : ∀ s, B.rel s (f s)) :
    Within B (modify f : Prog ε σ PUnit) := h

theorem within_ofResult (r : Except ε α) : Within B (ofResult r : Prog ε σ α) := by
  intro s
  cases r <;> exact B.refl s

theorem within_okOr (a : Option α) (e : ε) : Within B (okOr a e : Prog ε σ α) := by
  intro s
  cases a <;> exact B.refl s

theorem within_failIf (c : Prop) [Decidable c] (e : ε) :
    Within B (failIf c e : Prog ε σ PUnit) := by
  intro s
  rw [wp_failIf]
  exact ⟨fun _ ↦ B.refl s, fun _ ↦ B.refl s⟩

theorem within_index {n : ℕ} (v : Vector α n) (i : ℕ) : Within B (index v i : Prog ε σ α) := by
  intro s
  rw [wp_index]
  exact ⟨fun _ ↦ B.refl s, fun _ ↦ B.refl s⟩

theorem within_setAt {n : ℕ} (v : Vector α n) (i : ℕ) (a : α) :
    Within B (setAt v i a : Prog ε σ (Vector α n)) := by
  intro s
  rw [wp_setAt]
  exact ⟨fun _ ↦ B.refl s, fun _ ↦ B.refl s⟩

theorem within_bind {m : Prog ε σ α} {f : α → Prog ε σ β} (hm : Within B m)
    (hf : ∀ a, Within B (f a)) : Within B (m >>= f) := by
  intro s
  rw [wp_bind]
  refine wp_mono (hm s) (fun a s' hs ↦ ?_) (fun _ _ hs ↦ hs)
  exact wp_mono (hf a s') (fun _ _ h ↦ B.trans hs h) (fun _ _ h ↦ B.trans hs h)

/-- A second part that relies on what the values of the first one are. -/
theorem within_bind_of {P : α → Prop} {m : Prog ε σ α} {f : α → Prog ε σ β} (hm : Within B m)
    (hP : ∀ {s a s'}, m s = .ok a s' → P a) (hf : ∀ a, P a → Within B (f a)) :
    Within B (m >>= f) := by
  intro s
  have hs := hm s
  unfold wp at hs ⊢
  rw [run_bind]
  cases hresult : m s with
  | ok a s' =>
    rw [hresult] at hs
    exact wp_mono (hf a (hP hresult) s') (fun _ _ h ↦ B.trans hs h) fun _ _ h ↦ B.trans hs h
  | error e s' =>
    rw [hresult] at hs
    exact hs

theorem within_ite {c : Prop} [Decidable c] {m m' : Prog ε σ α} (hm : Within B m)
    (hm' : Within B m') : Within B (if c then m else m') := by
  split
  · exact hm
  · exact hm'

theorem within_map {f : α → β} {m : Prog ε σ α} (hm : Within B m) : Within B (f <$> m) := by
  intro s
  rw [wp_map]
  exact hm s

theorem within_mapError {f : ε → ε'} {m : Prog ε σ α} (hm : Within B m) :
    Within B (mapError f m) := by
  intro s
  rw [wp_mapError]
  refine wp_mono (hm s) (fun _ _ h ↦ h) (fun e _ h ↦ ?_)
  cases e <;> exact h

theorem within_attempt {m : Prog ε σ α} (hm : Within B m) :
    Within B (attempt m : Prog ε' σ (Except ε α)) := by
  intro s
  rw [wp_attempt]
  refine wp_mono (hm s) (fun _ _ h ↦ h) (fun e _ h ↦ ?_)
  cases e <;> exact h

theorem within_zoom {l : Lens σ τ} {C : Bound τ} {m : Prog ε τ α} (hm : Within C m)
    (h : ∀ s t, C.rel (l.view s) t → B.rel s (l.update t s)) : Within B (zoom l m) := by
  intro s
  rw [wp_zoom]
  exact wp_mono (hm (l.view s)) (fun _ _ ht ↦ h s _ ht) (fun _ _ ht ↦ h s _ ht)

/-- What is run on another part leaves this one alone. -/
theorem within_zoom_keeps {γ : Sort*} {l : Lens σ τ} {f : σ → γ} (m : Prog ε τ α)
    (h : ∀ s t, f (l.update t s) = f s) : Within (.keeps f) (zoom l m) :=
  within_zoom (within_top m) fun s t _ ↦ h s t

theorem within_forM {f : ι → Prog ε σ PUnit} (hf : ∀ i, Within B (f i)) (is : List ι) :
    Within B (is.forM f) := by
  induction is with
  | nil => exact within_pure _
  | cons i is ih => exact within_bind (hf i) fun _ ↦ ih

/-- A loop whose body is known for the elements it visits. -/
theorem within_forM_of_mem {f : ι → Prog ε σ PUnit} (is : List ι) (hf : ∀ i ∈ is, Within B (f i)) :
    Within B (is.forM f) := by
  induction is with
  | nil => exact within_pure _
  | cons i is ih =>
    apply within_bind (hf i List.mem_cons_self)
    exact fun _ ↦ ih fun i' hi' ↦ hf i' (List.mem_cons_of_mem _ hi')

theorem within_foldlM {f : β → ι → Prog ε σ β} (hf : ∀ b i, Within B (f b i)) (is : List ι)
    (b : β) :
    Within B (is.foldlM f b) := by
  induction is generalizing b with
  | nil => exact within_pure _
  | cons i is ih =>
    rw [List.foldlM_cons]
    exact within_bind (hf b i) fun b' ↦ ih b'

/-! ## Loops with an invariant of their own -/

/-- A loop body that keeps an invariant of the elements already visited carries it to the end. -/
theorem wp_forM {f : ι → Prog ε σ PUnit} {E : Abort ε → σ → Prop} (I : List ι → σ → Prop)
    (is : List ι)
    (step : ∀ visited i rest s, is = visited ++ i :: rest → I visited s →
      wp (f i) (fun _ s' ↦ I (visited ++ [i]) s') E s) {s : σ} (h : I [] s) :
    wp (is.forM f) (fun _ s' ↦ I is s') E s := by
  suffices key : ∀ rest visited s, is = visited ++ rest → I visited s →
      wp (rest.forM f) (fun _ s' ↦ I is s') E s from key is [] s rfl h
  intro rest
  induction rest with
  | nil =>
    intro visited s hsplit hI
    have his : is = visited := by simpa using hsplit
    change I is s
    rwa [his]
  | cons i rest ih =>
    intro visited s hsplit hI
    change wp (f i >>= fun _ ↦ rest.forM f) _ E s
    rw [wp_bind]
    refine wp_mono (step visited i rest s hsplit hI) (fun _ s' hs' ↦ ?_) (fun _ _ he ↦ he)
    exact ih (visited ++ [i]) s' (by simpa using hsplit) hs'

/-- The same for a loop with an accumulator. -/
theorem wp_foldlM {f : β → ι → Prog ε σ β} {E : Abort ε → σ → Prop} (I : List ι → β → σ → Prop)
    (is : List ι)
    (step : ∀ visited i rest b s, is = visited ++ i :: rest → I visited b s →
      wp (f b i) (fun b' s' ↦ I (visited ++ [i]) b' s') E s) {b : β} {s : σ} (h : I [] b s) :
    wp (is.foldlM f b) (fun b' s' ↦ I is b' s') E s := by
  suffices key : ∀ rest visited b s, is = visited ++ rest → I visited b s →
      wp (rest.foldlM f b) (fun b' s' ↦ I is b' s') E s from key is [] b s rfl h
  intro rest
  induction rest with
  | nil =>
    intro visited b s hsplit hI
    rw [List.append_nil] at hsplit
    rw [List.foldlM_nil, wp_pure, hsplit]
    exact hI
  | cons i rest ih =>
    intro visited b s hsplit hI
    rw [List.foldlM_cons, wp_bind]
    apply wp_mono (step visited i rest b s hsplit hI) _ fun _ _ he ↦ he
    intro b' s' hs'
    exact ih (visited ++ [i]) b' s' (by simpa using hsplit) hs'

end Program
