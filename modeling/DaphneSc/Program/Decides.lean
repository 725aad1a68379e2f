import DaphneSc.Program.Within

/-!
# Programs that decide a condition

A program that checks its input while it works returns when the input passes and refuses it
otherwise, unless something else goes wrong on the way. `Decides` says this of a program and the
condition on its input; the condition of a composed program is the conjunction of its parts.
-/

namespace Program

universe u

/-- Under which states a program is run, and how it may end without a value: at a fault, which says
nothing about the input, or by refusing the input. -/
structure Terms (σ ε : Type u) where
  inv : σ → Prop
  fault : Abort ε → Prop
  refusal : Abort ε → Prop

variable {ε σ α β ι : Type u} {T : Terms σ ε} {C D : Prop}

/-- A run of `m` returns only if `C` holds, and ends otherwise at a fault or because `C` fails. -/
def Decides (T : Terms σ ε) (C : Prop) (m : Prog ε σ α) : Prop :=
  ∀ s, T.inv s → wp m (fun _ t ↦ T.inv t ∧ C) (fun a _ ↦ T.fault a ∨ T.refusal a ∧ ¬ C) s

/-- Equivalent conditions are decided alike. -/
theorem Decides.congr {m : Prog ε σ α} (h : Decides T C m) (hiff : C ↔ D) : Decides T D m := by
  have hCD : C = D := propext hiff
  rwa [← hCD]

theorem decides_pure (a : α) : Decides T True (pure a : Prog ε σ α) :=
  fun _ hs ↦ ⟨hs, trivial⟩

theorem decides_get : Decides T True (get : Prog ε σ σ) := fun _ hs ↦ ⟨hs, trivial⟩

theorem decides_modify {f : σ → σ} (h : ∀ s, T.inv s → T.inv (f s)) :
    Decides T True (modify f : Prog ε σ PUnit) := fun s hs ↦ ⟨h s hs, trivial⟩

theorem decides_bind {m : Prog ε σ α} {f : α → Prog ε σ β} (hm : Decides T C m)
    (hf : ∀ a, Decides T D (f a)) : Decides T (C ∧ D) (m >>= f) := by
  intro s hs
  rw [wp_bind]
  refine wp_mono (hm s hs) (fun a t ht ↦ ?_) fun e _ he ↦ ?_
  · obtain ⟨ht, hC⟩ := ht
    refine wp_mono (hf a t ht) (fun _ _ h ↦ ⟨h.1, hC, h.2⟩) fun _ _ he ↦ ?_
    exact he.imp_right fun h ↦ ⟨h.1, fun hCD ↦ h.2 hCD.2⟩
  · exact he.imp_right fun h ↦ ⟨h.1, fun hCD ↦ h.2 hCD.1⟩

/-- A first part that refuses nothing. -/
theorem decides_bind_of_true {m : Prog ε σ α} {f : α → Prog ε σ β} (hm : Decides T True m)
    (hf : ∀ a, Decides T D (f a)) : Decides T D (m >>= f) :=
  (decides_bind hm hf).congr (and_iff_right trivial)

theorem decides_map {f : α → β} {m : Prog ε σ α} (hm : Decides T C m) :
    Decides T C (f <$> m) := by
  intro s hs
  rw [wp_map]
  exact hm s hs

/-- A check followed by the rest of the program, which may use what the check returned. -/
theorem decides_ofResult_bind {r : Except ε α} {f : α → Prog ε σ β}
    (hr : ∀ e, r = .error e → T.refusal (.error e)) (hf : ∀ a, r = .ok a → Decides T D (f a)) :
    Decides T ((∃ a, r = .ok a) ∧ D) (ofResult r >>= f) := by
  intro s hs
  cases r with
  | ok a =>
    have hiff : (∃ b, (Except.ok a : Except ε α) = .ok b) ∧ D ↔ D :=
      and_iff_right ⟨a, rfl⟩
    rw [ofResult_ok, pure_bind]
    exact (hf a rfl).congr hiff.symm s hs
  | error e =>
    rw [ofResult_error, fail_bind]
    exact Or.inr ⟨hr e rfl, fun h ↦ absurd h.1 (by simp)⟩

theorem decides_forM {C : ι → Prop} {f : ι → Prog ε σ PUnit} (is : List ι)
    (hf : ∀ i ∈ is, Decides T (C i) (f i)) : Decides T (∀ i ∈ is, C i) (is.forM f) := by
  induction is with
  | nil => exact (decides_pure _).congr (by simp)
  | cons i is ih =>
    have hrest := ih fun j hj ↦ hf j (List.mem_cons_of_mem i hj)
    exact (decides_bind (hf i List.mem_cons_self) fun _ ↦ hrest).congr (by simp)

end Program
