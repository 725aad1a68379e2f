import DaphneSc.Program.Basic

/-!
# Programs that run alike

A map of states carries the runs of one program to the runs of another when both end alike in
states that correspond. Erasing a record kept beside a state is such a map, so a program that uses
the state only through operations that are carried over runs the same with the record and without.
-/

namespace Program

universe u

variable {ε ε' σ τ σ' τ' α β ι : Type u}

/-- Every run of `m` is carried by `f` to the run of `m'`. -/
def Simulates (f : σ → τ) (m : Prog ε σ α) (m' : Prog ε τ α) : Prop :=
  ∀ s, m' (f s) = match m s with
    | .ok a s' => .ok a (f s')
    | .error e s' => .error e (f s')

theorem simulates_refl (m : Prog ε σ α) : Simulates id m m := by
  intro s
  rw [id_eq]
  cases m s <;> rfl

variable {f : σ → τ}

theorem simulates_pure (a : α) : Simulates (ε := ε) f (pure a) (pure a) := fun _ ↦ rfl

theorem simulates_stop : Simulates (ε := ε) (α := α) f stop stop := fun _ ↦ rfl

theorem simulates_fail (e : ε) : Simulates (α := α) f (fail e) (fail e) := fun _ ↦ rfl

theorem simulates_ofResult (r : Except ε α) : Simulates f (ofResult r) (ofResult r) := by
  cases r with
  | ok a => exact simulates_pure a
  | error e => exact simulates_fail e

theorem simulates_failIf (c : Prop) [Decidable c] (e : ε) :
    Simulates f (failIf c e) (failIf c e) := by
  unfold failIf
  split
  · exact simulates_fail e
  · exact simulates_pure _

theorem simulates_modifyGet {g : σ → α × σ} {g' : τ → α × τ}
    (h : ∀ s, g' (f s) = ((g s).1, f (g s).2)) :
    Simulates (ε := ε) f (modifyGet g) (modifyGet g') := by
  intro s
  change EStateM.Result.ok (g' (f s)).1 (g' (f s)).2 = _
  rw [h]
  rfl

theorem simulates_bind {m : Prog ε σ α} {m' : Prog ε τ α} {k : α → Prog ε σ β} {k' : α → Prog ε τ β}
    (hm : Simulates f m m') (hk : ∀ a, Simulates f (k a) (k' a)) :
    Simulates f (m >>= k) (m' >>= k') := by
  intro s
  rw [run_bind, run_bind, hm s]
  cases m s with
  | ok a s' => exact hk a s'
  | error e s' => rfl

/-- A state that is read may differ in what the map forgets. -/
theorem simulates_get_bind {k : σ → Prog ε σ β} {k' : τ → Prog ε τ β}
    (hk : ∀ s, Simulates f (k s) (k' (f s))) : Simulates f (get >>= k) (get >>= k') := by
  intro s
  rw [run_get_bind, run_get_bind]
  exact hk s s

theorem simulates_map {m : Prog ε σ α} {m' : Prog ε τ α} (g : α → β) (hm : Simulates f m m') :
    Simulates f (g <$> m) (g <$> m') := by
  intro s
  rw [run_map, run_map, hm s]
  cases m s <;> rfl

theorem simulates_attempt {m : Prog ε σ α} {m' : Prog ε τ α} (hm : Simulates f m m') :
    Simulates f (attempt m : Prog ε' σ (Except ε α)) (attempt m') := by
  intro s
  rw [attempt, attempt, hm s]
  rcases m s with _ | ⟨_ | _, _⟩ <;> rfl

theorem simulates_mapError {m : Prog ε σ α} {m' : Prog ε τ α} (g : ε → ε') (hm : Simulates f m m') :
    Simulates f (mapError g m) (mapError g m') := by
  intro s
  rw [mapError, mapError, hm s]
  rcases m s with _ | ⟨_ | _, _⟩ <;> rfl

/-- Components that correspond are run alike inside states that correspond. -/
theorem simulates_zoom {g : σ' → τ'} {l : Lens σ' σ} {l' : Lens τ' τ} {m : Prog ε σ α}
    {m' : Prog ε τ α} (hview : ∀ s, l'.view (g s) = f (l.view s))
    (hupdate : ∀ t s, l'.update (f t) (g s) = g (l.update t s)) (hm : Simulates f m m') :
    Simulates g (zoom l m) (zoom l' m') := by
  intro s
  rw [zoom, zoom, hview, hm (l.view s)]
  cases m (l.view s) with
  | ok a t => exact congrArg (EStateM.Result.ok a) (hupdate t s)
  | error e t => exact congrArg (EStateM.Result.error e) (hupdate t s)

/-- A component runs alike inside a state and alone. -/
theorem simulates_view (l : Lens σ τ) (m : Prog ε τ α) : Simulates l.view (zoom l m) m := by
  intro s
  rw [zoom]
  cases m (l.view s) with
  | ok a t => exact congrArg (EStateM.Result.ok a) (l.view_update t s).symm
  | error e t => exact congrArg (EStateM.Result.error e) (l.view_update t s).symm

theorem simulates_foldlM {g : β → ι → Prog ε σ β} {g' : β → ι → Prog ε τ β}
    (hg : ∀ b i, Simulates f (g b i) (g' b i)) (is : List ι) (b : β) :
    Simulates f (is.foldlM g b) (is.foldlM g' b) := by
  induction is generalizing b with
  | nil => exact simulates_pure b
  | cons i is ih =>
    rw [List.foldlM_cons, List.foldlM_cons]
    exact simulates_bind (hg b i) fun b' ↦ ih b'

/-- The runs end in states that correspond. -/
theorem Simulates.final {m : Prog ε σ α} {m' : Prog ε τ α} (h : Simulates f m m') (s : σ) :
    final m' (f s) = f (final m s) := by
  unfold Program.final
  rw [h s]
  cases m s <;> rfl

end Program
