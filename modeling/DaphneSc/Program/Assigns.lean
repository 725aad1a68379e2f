import DaphneSc.Program.Within

/-!
# Operations that assign

What can be seen of a state is a value at every place. An operation assigns when, once it has
returned, the places it names hold the values it names, and when it leaves all other places alone
however it ends. Nothing is said of the named places after a failure.
-/

namespace Program

universe u

variable {ε σ α β ι : Type u} {κ V : Type*}

structure Assigns (view : σ → κ → V) (change : κ → Option V) (m : Prog ε σ α) : Prop where
  sets : ∀ s, wp m (fun _ t ↦ ∀ k v, change k = some v → view t k = v) (fun _ _ ↦ True) s
  keeps : ∀ k, change k = none → Within (.keeps fun s ↦ view s k) m

/-- What is assigned by two operations in a row: the second one prevails. -/
def andThen (change change' : κ → Option V) (k : κ) : Option V := (change' k).or (change k)

/-- One value at all places of a kind. -/
def toAll (places : κ → Bool) (value : V) (k : κ) : Option V :=
  if places k then some value else none

variable {view : σ → κ → V} {change change' : κ → Option V} {m : Prog ε σ α}

theorem andThen_toAll (places places' : κ → Bool) (value : V) :
    andThen (toAll places value) (toAll places' value) =
      toAll (fun k ↦ places k || places' k) value := by
  funext k
  by_cases h : places k = true <;> by_cases h' : places' k = true <;> simp [andThen, toAll, h, h']

/-- What is kept everywhere is assigned nowhere. -/
theorem assigns_none (h : Within (.keeps view) m) : Assigns view (fun _ ↦ none) m := by
  constructor
  · intro s
    apply wp_of_forall _ fun _ _ ↦ trivial
    intro _ _ k v hv
    cases hv
  · intro k _ s
    exact wp_mono (h s) (fun _ _ ht ↦ congrFun ht k) fun _ _ ht ↦ congrFun ht k

theorem Assigns.ok (h : Assigns view change m) {s t : σ} {a : α} (hm : m s = .ok a t) (k : κ) :
    view t k = (change k).getD (view s k) := by
  cases hk : change k with
  | none => exact (h.keeps k hk).ok hm
  | some v => exact post_of_ok (h.sets s) hm k v hk

theorem Assigns.bind {f : α → Prog ε σ β} (hm : Assigns view change m)
    (hf : ∀ a, Assigns view change' (f a)) : Assigns view (andThen change change') (m >>= f) := by
  constructor
  · intro s
    apply wp_of_ok
    intro b t hrun k v hv
    obtain ⟨a, s', hfirst, hsecond⟩ := bind_eq_ok_iff.mp hrun
    rw [(hf a).ok hsecond k, hm.ok hfirst k]
    unfold andThen at hv
    cases hk : change' k with
    | none =>
      rw [hk] at hv
      change change k = some v at hv
      rw [hv]
      rfl
    | some v' =>
      rw [hk] at hv
      cases hv
      rfl
  · intro k hk
    obtain ⟨hk', hk⟩ := Option.or_eq_none_iff.mp hk
    exact within_bind (hm.keeps k hk) fun a ↦ (hf a).keeps k hk'

/-- A first part that is kept everywhere. -/
theorem assigns_bind_of_keeps {f : α → Prog ε σ β} (hm : Within (.keeps view) m)
    (hf : ∀ a, Assigns view change (f a)) : Assigns view change (m >>= f) := by
  have h := (assigns_none hm).bind hf
  have hchange : andThen (fun _ ↦ none) change = change := funext fun _ ↦ Option.or_none
  rwa [hchange] at h

/-- A second part that is kept everywhere. -/
theorem Assigns.bind_keeps {f : α → Prog ε σ β} (hm : Assigns view change m)
    (hf : ∀ a, Within (.keeps view) (f a)) : Assigns view change (m >>= f) :=
  hm.bind fun a ↦ assigns_none (hf a)

/-- A part that only computes, on whose value the rest relies. -/
theorem within_ofResult_bind {B : Bound σ} {r : Except ε α} {f : α → Prog ε σ β}
    (hf : ∀ a, r = .ok a → Within B (f a)) : Within B (ofResult r >>= f) := by
  cases r with
  | error e => exact within_fail e
  | ok a => exact hf a rfl

theorem assigns_ofResult {r : Except ε α} {f : α → Prog ε σ β}
    (hf : ∀ a, r = .ok a → Assigns view change (f a)) : Assigns view change (ofResult r >>= f) := by
  constructor
  · cases r with
    | error e => exact fun _ ↦ trivial
    | ok a => exact (hf a rfl).sets
  · exact fun k hk ↦ within_ofResult_bind fun a ha ↦ (hf a ha).keeps k hk

theorem Assigns.map {f : α → β} (hm : Assigns view change m) : Assigns view change (f <$> m) := by
  constructor
  · intro s
    rw [wp_map]
    exact hm.sets s
  · exact fun k hk ↦ within_map (hm.keeps k hk)

/-- A change of the state, after which everything is kept. -/
theorem assigns_of_update (f : σ → σ) (rest : σ → Prog ε σ α) (hrun : ∀ s, m s = rest s (f s))
    (hf : ∀ s k, view (f s) k = (change k).getD (view s k))
    (hrest : ∀ s, Within (.keeps view) (rest s)) : Assigns view change m := by
  constructor
  · intro s
    unfold wp
    rw [hrun]
    apply wp_mono (hrest s (f s)) _ fun _ _ _ ↦ trivial
    intro _ t ht k v hv
    rw [Bound.keeps_rel.mp ht, hf, hv]
    rfl
  · intro k hk s
    have hkept : view (f s) k = view s k := by
      rw [hf, hk]
      rfl
    unfold wp
    rw [hrun]
    exact wp_mono (hrest s (f s)) (fun _ _ ht ↦ (congrFun ht k).trans hkept)
      fun _ _ ht ↦ (congrFun ht k).trans hkept

theorem assigns_modify {f : σ → σ} (hf : ∀ s k, view (f s) k = (change k).getD (view s k)) :
    Assigns view change (modify f : Prog ε σ PUnit) :=
  assigns_of_update f (fun _ ↦ pure ⟨⟩) (fun _ ↦ rfl) hf fun _ ↦ within_pure _

/-- A loop whose bodies assign one and the same value. -/
theorem assigns_forM {f : ι → Prog ε σ PUnit} {places : ι → κ → Bool} {value : V} (is : List ι)
    (hf : ∀ i ∈ is, Assigns view (toAll (places i) value) (f i)) :
    Assigns view (toAll (fun k ↦ is.any fun i ↦ places i k) value) (is.forM f) := by
  induction is with
  | nil => exact assigns_none (within_pure _)
  | cons i is ih =>
    have hrest := ih fun i' hi' ↦ hf i' (List.mem_cons_of_mem _ hi')
    have h := (hf i List.mem_cons_self).bind fun _ ↦ hrest
    rw [andThen_toAll] at h
    exact h

end Program
