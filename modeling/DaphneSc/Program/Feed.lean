import DaphneSc.Program.Within

/-!
# Programs that look at a changing machine

A machine that a program does not control is a sequence of moments, about which nothing is assumed.
A program looks at the moments one after the other, each time at one of them, so what it has seen
was true at some moment of its run. On a machine that stands still it has seen all there is.
-/

namespace Program

universe u

structure Feed (M : Type u) where
  moments : ℕ → M
  tick : ℕ

namespace Feed

variable {M : Type u}

def current (feed : Feed M) : M := feed.moments feed.tick

def next (feed : Feed M) : Feed M := { feed with tick := feed.tick + 1 }

@[simp] theorem next_moments (feed : Feed M) : feed.next.moments = feed.moments := rfl

@[simp] theorem next_tick (feed : Feed M) : feed.next.tick = feed.tick + 1 := rfl

/-- Time goes on, and nothing else happens to a feed. -/
def passes : Bound (Feed M) where
  rel feed after := after.moments = feed.moments ∧ feed.tick ≤ after.tick
  refl _ := ⟨rfl, Nat.le_refl _⟩
  trans h h' := ⟨h'.1.trans h.1, Nat.le_trans h.2 h'.2⟩

theorem passes_next (feed : Feed M) : passes.rel feed feed.next := ⟨rfl, Nat.le_succ _⟩

/-- The moments from a tick on are all the same. -/
def Steady (feed : Feed M) (m : M) : Prop := ∀ t, feed.tick ≤ t → feed.moments t = m

theorem Steady.current {feed : Feed M} {m : M} (h : feed.Steady m) : feed.current = m :=
  h _ (Nat.le_refl _)

theorem Steady.of_passes {feed after : Feed M} {m : M} (h : feed.Steady m)
    (hpasses : passes.rel feed after) : after.Steady m := by
  intro t ht
  rw [hpasses.1]
  exact h t (Nat.le_trans hpasses.2 ht)

end Feed

variable {M ε α β : Type u}

/-- Look at the current moment. -/
def observe (f : M → α) : Prog ε (Feed M) α := fun feed ↦ .ok (f feed.current) feed.next

@[simp] theorem wp_observe (f : M → α) {Q : α → Feed M → Prop} {E : Abort ε → Feed M → Prop}
    {feed : Feed M} : wp (observe f) Q E feed ↔ Q (f feed.current) feed.next := Iff.rfl

theorem within_observe (f : M → α) : Within Feed.passes (observe f : Prog ε (Feed M) α) :=
  fun feed ↦ feed.passes_next

/-! ## Views -/

/-- A way to look at a machine: it tells whether something is true of so many moments in a row. -/
abbrev View (M : Type u) := ℕ → ((ℕ → M) → Prop) → Prop

namespace View

/-- The view of a machine that stands still. -/
def still (m : M) : View M := fun _ P ↦ P fun _ ↦ m

/-- What was true of moments in a row from tick `a` to before tick `b`. -/
def during (moments : ℕ → M) (a b : ℕ) : View M :=
  fun k P ↦ ∃ t, a ≤ t ∧ t + k ≤ b ∧ P fun i ↦ moments (t + i)

end View

/-- What is seen is seen, too, over a longer time. -/
def Lasting (P : View M → Prop) : Prop :=
  ∀ moments a b a' b', P (.during moments a b) → a' ≤ a → b ≤ b' → P (.during moments a' b')

theorem lasting_view (k : ℕ) (P : (ℕ → M) → Prop) : Lasting fun view ↦ view k P := by
  rintro moments a b a' b' ⟨t, hat, htb, ht⟩ ha hb
  exact ⟨t, Nat.le_trans ha hat, Nat.le_trans htb hb, ht⟩

theorem lasting_const (c : Prop) : Lasting (M := M) fun _ ↦ c := fun _ _ _ _ _ h _ _ ↦ h

theorem lasting_and {P P' : View M → Prop} (h : Lasting P) (h' : Lasting P') :
    Lasting fun view ↦ P view ∧ P' view :=
  fun moments a b a' b' hlast ha hb ↦
    ⟨h moments a b a' b' hlast.1 ha hb, h' moments a b a' b' hlast.2 ha hb⟩

theorem lasting_or {P P' : View M → Prop} (h : Lasting P) (h' : Lasting P') :
    Lasting fun view ↦ P view ∨ P' view :=
  fun moments a b a' b' hlast ha hb ↦ hlast.imp (fun hl ↦ h moments a b a' b' hl ha hb)
    fun hl ↦ h' moments a b a' b' hl ha hb

theorem lasting_exists {ι : Sort*} {P : ι → View M → Prop} (h : ∀ i, Lasting (P i)) :
    Lasting fun view ↦ ∃ i, P i view := by
  rintro moments a b a' b' ⟨i, hlast⟩ ha hb
  exact ⟨i, h i moments a b a' b' hlast ha hb⟩

/-! ## Judgements -/

/-- A judgement on the machine. When it comes out well, `P` was seen between its start and its end;
on a machine that stands still it comes out well exactly when `P` is true of the machine. -/
structure Judges (judgement : Prog ε (Feed M) α) (good : α → Prop) (P : View M → Prop) : Prop where
  lasting : Lasting P
  passes : Within Feed.passes judgement
  returns : ∀ feed, ∃ a after, judgement feed = .ok a after
  sound : ∀ {feed a after}, judgement feed = .ok a after → good a →
    P (.during feed.moments feed.tick after.tick)
  exact : ∀ {feed : Feed M} {m a after}, feed.Steady m → judgement feed = .ok a after →
    (good a ↔ P (.still m))

variable {good : α → Prop} {P : View M → Prop}

/-- The moments a feed is about to show. -/
def Feed.ahead (feed : Feed M) : ℕ → M := fun i ↦ feed.moments (feed.tick + i)

theorem Feed.Steady.ahead {feed : Feed M} {m : M} (h : feed.Steady m) : feed.ahead = fun _ ↦ m :=
  funext fun _ ↦ h _ (Nat.le_add_right _ _)

/-- A judgement by so many looks in a row. -/
theorem judges_window {judgement : Prog ε (Feed M) α} {k : ℕ} {W : (ℕ → M) → Prop}
    (h : ∀ feed, wp judgement (fun a after ↦ Feed.passes.rel feed after ∧ (good a ↔ W feed.ahead) ∧
      (good a → feed.tick + k ≤ after.tick)) (fun _ _ ↦ False) feed) :
    Judges judgement good fun view ↦ view k W where
  lasting := lasting_view k W
  passes feed := wp_mono (h feed) (fun _ _ hpost ↦ hpost.1) fun _ _ ↦ False.elim
  returns feed := by
    obtain ⟨a, after, hrun, -⟩ := ok_of_wp (h feed)
    exact ⟨a, after, hrun⟩
  sound {feed a after} hrun hgood := by
    obtain ⟨-, hiff, hlong⟩ := post_of_ok (h feed) hrun
    exact ⟨feed.tick, Nat.le_refl _, hlong hgood, hiff.mp hgood⟩
  exact {feed m a after} hsteady hrun := by
    obtain ⟨-, hiff, -⟩ := post_of_ok (h feed) hrun
    rw [hiff, hsteady.ahead]
    exact Iff.rfl

/-- A judgement by one look. -/
theorem judges_observe {f : M → β} {k : β → Prog ε (Feed M) α} {holds : M → Prop}
    (h : ∀ m, ∃ a, k (f m) = pure a ∧ (good a ↔ holds m)) :
    Judges (observe f >>= k) good fun view ↦ view 1 fun m ↦ holds (m 0) := by
  apply judges_window
  intro feed
  obtain ⟨a, hk, hiff⟩ := h feed.current
  rw [wp_bind, wp_observe, hk]
  exact ⟨feed.passes_next, hiff, fun _ ↦ Nat.le_refl _⟩

/-- A judgement that looks at nothing. -/
theorem judges_pure {a : α} {c : Prop} (h : good a ↔ c) :
    Judges (M := M) (ε := ε) (pure a) good fun _ ↦ c where
  lasting := lasting_const c
  passes := within_pure a
  returns feed := ⟨_, _, rfl⟩
  sound hrun hgood := by
    cases hrun
    exact h.mp hgood
  exact _ hrun := by
    cases hrun
    exact h

/-- The outcome of a judgement may be written down in other ways. -/
theorem judges_report {judgement : Prog ε (Feed M) α} {report : α → Prog ε (Feed M) β}
    {good' : β → Prop} (h : Judges judgement good P)
    (hreport : ∀ a, ∃ b, report a = pure b ∧ (good' b ↔ good a)) :
    Judges (judgement >>= report) good' P := by
  have hruns {feed b after} (hrun : (judgement >>= report) feed = .ok b after) :
      ∃ a, judgement feed = .ok a after ∧ (good' b ↔ good a) := by
    obtain ⟨a, mid, hfirst, hrun⟩ := bind_eq_ok_iff.mp hrun
    obtain ⟨b', hb', hiff⟩ := hreport a
    rw [hb'] at hrun
    cases hrun
    exact ⟨a, hfirst, hiff⟩
  refine ⟨h.lasting, within_bind h.passes fun a ↦ ?_, ?_, ?_, ?_⟩
  · obtain ⟨b, hb, -⟩ := hreport a
    rw [hb]
    exact within_pure b
  · intro feed
    obtain ⟨a, after, hfirst⟩ := h.returns feed
    obtain ⟨b, hb, -⟩ := hreport a
    exact ⟨b, after, bind_eq_ok_iff.mpr ⟨a, after, hfirst, by rw [hb]; rfl⟩⟩
  · intro feed b after hrun hgood
    obtain ⟨a, hfirst, hiff⟩ := hruns hrun
    exact h.sound hfirst (hiff.mp hgood)
  · intro feed m b after hsteady hrun
    obtain ⟨a, hfirst, hiff⟩ := hruns hrun
    rw [hiff]
    exact h.exact hsteady hfirst

/-- A look, and then a judgement that depends on what was seen. -/
theorem judges_look {f : M → α} {judgement : α → Prog ε (Feed M) β} {good : β → Prop}
    {P : α → View M → Prop} (h : ∀ a, Judges (judgement a) good (P a)) :
    Judges (observe f >>= judgement) good
      fun view ↦ ∃ a, view 1 (fun m ↦ f (m 0) = a) ∧ P a view where
  lasting := lasting_exists fun a ↦ lasting_and (lasting_view 1 _) (h a).lasting
  passes := within_bind (within_observe f) fun a ↦ (h a).passes
  returns feed := (h (f feed.current)).returns feed.next
  sound {feed b after} hrun hgood := by
    have hlooked : judgement (f feed.current) feed.next = .ok b after := hrun
    have hlater := (h _).passes.ok hlooked
    refine ⟨f feed.current, ⟨feed.tick, Nat.le_refl _, hlater.2, rfl⟩, ?_⟩
    have hseen := (h _).sound hlooked hgood
    exact (h _).lasting _ _ _ _ _ hseen (Nat.le_succ _) (Nat.le_refl _)
  exact {feed m b after} hsteady hrun := by
    have hlooked : judgement (f feed.current) feed.next = .ok b after := hrun
    have hcurrent : f feed.current = f m := congrArg f hsteady.current
    rw [(h _).exact (hsteady.of_passes feed.passes_next) hlooked, hcurrent]
    simp [View.still]

/-- A judgement, and where it does not come out well another one. -/
theorem judges_orElse {judgement : Prog ε (Feed M) α} {other : α → Prog ε (Feed M) β}
    {good' : β → Prop} {P' : View M → Prop} (h : Judges judgement good P) (hP' : Lasting P')
    (hgood : ∀ a, good a → ∃ b, good' b ∧ other a = pure b)
    (hother : ∀ a, ¬ good a → Judges (other a) good' P') :
    Judges (judgement >>= other) good' fun view ↦ P view ∨ P' view := by
  refine ⟨lasting_or h.lasting hP', within_bind h.passes fun a ↦ ?_, ?_, ?_, ?_⟩
  · by_cases ha : good a
    · obtain ⟨b, -, hb⟩ := hgood a ha
      rw [hb]
      exact within_pure b
    · exact (hother a ha).passes
  · intro feed
    obtain ⟨a, mid, hfirst⟩ := h.returns feed
    by_cases ha : good a
    · obtain ⟨b, -, hb⟩ := hgood a ha
      exact ⟨b, mid, bind_eq_ok_iff.mpr ⟨a, mid, hfirst, by rw [hb]; rfl⟩⟩
    · obtain ⟨b, after, hsecond⟩ := (hother a ha).returns mid
      exact ⟨b, after, bind_eq_ok_iff.mpr ⟨a, mid, hfirst, hsecond⟩⟩
  · intro feed b after hrun hb
    obtain ⟨a, mid, hfirst, hsecond⟩ := bind_eq_ok_iff.mp hrun
    by_cases ha : good a
    · obtain ⟨b', -, hb'⟩ := hgood a ha
      rw [hb'] at hsecond
      cases hsecond
      exact .inl (h.sound hfirst ha)
    · have hleft := h.passes.ok hfirst
      have hlater := (hother a ha).sound hsecond hb
      rw [hleft.1] at hlater
      exact .inr (hP' _ _ _ _ _ hlater hleft.2 (Nat.le_refl _))
  · intro feed m b after hsteady hrun
    obtain ⟨a, mid, hfirst, hsecond⟩ := bind_eq_ok_iff.mp hrun
    have hexact := h.exact hsteady hfirst
    by_cases ha : good a
    · obtain ⟨b', hb, hb'⟩ := hgood a ha
      rw [hb'] at hsecond
      cases hsecond
      exact iff_of_true hb (.inl (hexact.mp ha))
    · have hstill : ¬ P (.still m) := fun hstill ↦ ha (hexact.mpr hstill)
      rw [or_iff_right hstill]
      exact (hother a ha).exact (hsteady.of_passes (h.passes.ok hfirst)) hsecond

/-- The same judgement in other words. -/
theorem Judges.congr {judgement : Prog ε (Feed M) α} {P' : View M → Prop}
    (h : Judges judgement good P) (hP' : Lasting P')
    (hduring : ∀ moments a b, P (.during moments a b) →
      P' (.during moments a b)) (hstill : ∀ m, P (.still m) ↔ P' (.still m)) :
    Judges judgement good P' where
  lasting := hP'
  passes := h.passes
  returns := h.returns
  sound hrun hgood := hduring _ _ _ (h.sound hrun hgood)
  exact hsteady hrun := (h.exact hsteady hrun).trans (hstill _)

/-- Two judgements, one after the other, whose outcomes are put together. -/
theorem judges_seq {γ : Type u} {judgement : Prog ε (Feed M) α} {judgement' : Prog ε (Feed M) β}
    {good' : β → Prop} {good'' : γ → Prop} {P' : View M → Prop} {g : α → β → γ}
    (h : Judges judgement good P) (h' : Judges judgement' good' P')
    (hg : ∀ a b, good'' (g a b) ↔ good a ∧ good' b) :
    Judges (judgement >>= fun a ↦ judgement' >>= fun b ↦ pure (g a b)) good''
      fun view ↦ P view ∧ P' view := by
  have hruns {feed c after}
      (hrun : (judgement >>= fun a ↦ judgement' >>= fun b ↦ pure (g a b)) feed = .ok c after) :
      ∃ a mid b, judgement feed = .ok a mid ∧ judgement' mid = .ok b after ∧ c = g a b := by
    obtain ⟨a, mid, hfirst, hrun⟩ := bind_eq_ok_iff.mp hrun
    obtain ⟨b, last, hsecond, hrun⟩ := bind_eq_ok_iff.mp hrun
    cases hrun
    exact ⟨a, mid, b, hfirst, hsecond, rfl⟩
  refine ⟨lasting_and h.lasting h'.lasting,
    within_bind h.passes fun _ ↦ within_bind h'.passes fun _ ↦ within_pure _, ?_, ?_, ?_⟩
  · intro feed
    obtain ⟨a, mid, hfirst⟩ := h.returns feed
    obtain ⟨b, after, hsecond⟩ := h'.returns mid
    refine ⟨g a b, after, bind_eq_ok_iff.mpr ⟨a, mid, hfirst, ?_⟩⟩
    exact bind_eq_ok_iff.mpr ⟨b, after, hsecond, rfl⟩
  · intro feed c after hrun hgood
    obtain ⟨a, mid, b, hfirst, hsecond, rfl⟩ := hruns hrun
    obtain ⟨ha, hb⟩ := (hg a b).mp hgood
    have hleft := h.passes.ok hfirst
    have hright := h'.passes.ok hsecond
    constructor
    · exact h.lasting _ _ _ _ _ (h.sound hfirst ha) (Nat.le_refl _) hright.2
    · have hlater := h'.sound hsecond hb
      rw [hleft.1] at hlater
      exact h'.lasting _ _ _ _ _ hlater hleft.2 (Nat.le_refl _)
  · intro feed m c after hsteady hrun
    obtain ⟨a, mid, b, hfirst, hsecond, rfl⟩ := hruns hrun
    rw [hg]
    exact and_congr (h.exact hsteady hfirst)
      (h'.exact (hsteady.of_passes (h.passes.ok hfirst)) hsecond)

/-- Any number of judgements, one after the other. -/
theorem judges_mapM {ι : Type u} {judgement : ι → Prog ε (Feed M) α} {P : ι → View M → Prop}
    {is : List ι} (h : ∀ i ∈ is, Judges (judgement i) good (P i)) :
    Judges (is.mapM judgement) (fun results ↦ ∀ a ∈ results, good a)
      fun view ↦ ∀ i ∈ is, P i view := by
  induction is with
  | nil =>
    simp only [List.mapM_nil, List.not_mem_nil, false_imp_iff, implies_true]
    exact judges_pure (by simp)
  | cons i is ih =>
    rw [List.forall_mem_cons] at h
    simp only [List.forall_mem_cons]
    rw [List.mapM_cons]
    exact judges_seq h.1 (ih h.2) fun a results ↦ List.forall_mem_cons

end Program
