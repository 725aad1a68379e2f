import DaphneSc.Program.Within

/-!
# Programs that never stop

A program is safe for a property of values when no run of it, from any state, stops at a violated
run-time check, and every value it returns has the property. It may still fail with an error. The
property lets a later part rely on what an earlier one checked.
-/

namespace Program

universe u

variable {ε ε' σ τ α β ι : Type u} {P : α → Prop} {Q : β → Prop}

/-- No run stops, and the values returned have the property. -/
def Safe (P : α → Prop) (m : Prog ε σ α) : Prop :=
  ∀ s, wp m (fun a _ ↦ P a) (fun e _ ↦ e ≠ .panic) s

/-- What is returned does not matter. -/
abbrev Safely (m : Prog ε σ α) : Prop := Safe (fun _ ↦ True) m

theorem Safe.mono {P' : α → Prop} {m : Prog ε σ α} (h : Safe P m) (hP : ∀ a, P a → P' a) :
    Safe P' m :=
  fun s ↦ wp_mono (h s) (fun a _ ha ↦ hP a ha) fun _ _ he ↦ he

theorem Safe.safely {m : Prog ε σ α} (h : Safe P m) : Safely m := h.mono fun _ _ ↦ trivial

/-! ## Primitive programs -/

theorem safe_pure {a : α} (h : P a) : Safe P (pure a : Prog ε σ α) := fun _ ↦ h

theorem safe_fail (e : ε) : Safe P (fail e : Prog ε σ α) := fun _ h ↦ nomatch h

theorem safely_get : Safely (get : Prog ε σ σ) := fun _ ↦ trivial

theorem safely_modify (f : σ → σ) : Safely (modify f : Prog ε σ PUnit) := fun _ ↦ trivial

theorem safe_ofResult {r : Except ε α} (h : ∀ a, r = .ok a → P a) :
    Safe P (ofResult r : Prog ε σ α) := by
  intro s
  rw [wp_ofResult]
  exact ⟨h, fun _ _ hpanic ↦ nomatch hpanic⟩

theorem safe_okOr {o : Option α} (e : ε) (h : ∀ a, o = some a → P a) :
    Safe P (okOr o e : Prog ε σ α) := by
  intro s
  rw [wp_okOr]
  exact ⟨h, fun _ hpanic ↦ nomatch hpanic⟩

theorem safe_failIf (c : Prop) [Decidable c] (e : ε) :
    Safe (fun _ ↦ ¬ c) (failIf c e : Prog ε σ PUnit) := by
  intro s
  rw [wp_failIf]
  exact ⟨fun hc ↦ hc, fun _ hpanic ↦ nomatch hpanic⟩

theorem safely_index {n : ℕ} (v : Vector α n) {i : ℕ} (h : i < n) :
    Safely (index v i : Prog ε σ α) := by
  rw [index_of_lt v h]
  exact safe_pure trivial

theorem safely_setAt {n : ℕ} (v : Vector α n) {i : ℕ} (h : i < n) (a : α) :
    Safely (setAt v i a : Prog ε σ (Vector α n)) := by
  rw [setAt_of_lt v h]
  exact safe_pure trivial

/-! ## Composed programs -/

theorem safe_bind {m : Prog ε σ α} {f : α → Prog ε σ β} (hm : Safe P m)
    (hf : ∀ a, P a → Safe Q (f a)) : Safe Q (m >>= f) := by
  intro s
  rw [wp_bind]
  exact wp_mono (hm s) (fun a t ha ↦ hf a ha t) fun _ _ he ↦ he

theorem safe_bind_of_safely {m : Prog ε σ α} {f : α → Prog ε σ β} (hm : Safely m)
    (hf : ∀ a, Safe Q (f a)) : Safe Q (m >>= f) :=
  safe_bind hm fun a _ ↦ hf a

theorem safe_ite {c : Prop} [Decidable c] {m m' : Prog ε σ α} (hm : c → Safe P m)
    (hm' : ¬ c → Safe P m') : Safe P (if c then m else m') := by
  split
  · exact hm ‹_›
  · exact hm' ‹_›

theorem safely_map {f : α → β} {m : Prog ε σ α} (hm : Safe P m) : Safely (f <$> m) := by
  intro s
  rw [wp_map]
  exact hm.safely s

theorem safe_mapError {f : ε → ε'} {m : Prog ε σ α} (hm : Safe P m) : Safe P (mapError f m) := by
  intro s
  rw [wp_mapError]
  refine wp_mono (hm s) (fun _ _ h ↦ h) fun e _ he ↦ ?_
  cases e with
  | error e => exact fun hpanic ↦ nomatch hpanic
  | panic => exact absurd rfl he

theorem safely_attempt {m : Prog ε σ α} (hm : Safe P m) :
    Safely (attempt m : Prog ε' σ (Except ε α)) := by
  intro s
  rw [wp_attempt]
  refine wp_mono (hm s) (fun _ _ _ ↦ trivial) fun e _ he ↦ ?_
  cases e with
  | error e => trivial
  | panic => exact absurd rfl he

theorem safe_zoom {l : Lens σ τ} {m : Prog ε τ α} (hm : Safe P m) : Safe P (zoom l m) := by
  intro s
  rw [wp_zoom]
  exact hm (l.view s)

/-! ## Loops -/

theorem safely_forM {f : ι → Prog ε σ PUnit} (is : List ι) (hf : ∀ i ∈ is, Safely (f i)) :
    Safely (is.forM f) := by
  induction is with
  | nil => exact safe_pure trivial
  | cons i is ih =>
    apply safe_bind_of_safely (hf i List.mem_cons_self)
    exact fun _ ↦ ih fun j hj ↦ hf j (List.mem_cons_of_mem i hj)

/-- A loop whose value has a property that depends on the number of passes made. -/
theorem safe_foldlM {f : β → ι → Prog ε σ β} (I : ℕ → β → Prop) (is : List ι)
    (hf : ∀ k i b, is[k]? = some i → I k b → Safe (I (k + 1)) (f b i)) {b : β} (hb : I 0 b) :
    Safe (I is.length) (is.foldlM f b) := by
  induction is generalizing I b with
  | nil => exact safe_pure hb
  | cons i is ih =>
    rw [List.foldlM_cons]
    refine safe_bind (hf 0 i b rfl hb) fun b' hb' ↦ ?_
    exact ih (fun k ↦ I (k + 1)) (fun k j c hk hc ↦ hf (k + 1) j c hk hc) hb'

end Program
