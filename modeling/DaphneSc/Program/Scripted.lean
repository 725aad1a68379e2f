import DaphneSc.Program.Basic

/-!
# Programs that follow a script

A device keeps a log of the accesses made to it, each with its outcome. A program follows a script
when it makes the accesses of the script one after another, with the outcomes the script has, and
returns once it is through. It may end early, but only at an access: the log then shows the script
up to that access, and the access itself with another outcome. Scripts are put together as programs
are.
-/

namespace Program

universe u

variable {ε ε' σ α β ι A R : Type u}

/-- What is left in the log when a script was not followed to its end. -/
structure Cut (request : A → R) (script entries : List A) : Prop where
  exists_last : ∃ done next rest last, script = done ++ next :: rest ∧ entries = done ++ [last] ∧
    request last = request next

/-- The program makes the accesses of the script and returns the value, or ends at an access that
did not go as the script says. -/
def Scripted (log : σ → List A) (request : A → R) (script : List A) (a : α) (m : Prog ε σ α) :
    Prop :=
  ∀ s, wp m (fun a' s' ↦ a' = a ∧ log s' = log s ++ script)
    (fun _ s' ↦ ∃ entries, log s' = log s ++ entries ∧ Cut request script entries) s

namespace Cut

variable {request : A → R} {script entries : List A}

theorem append_right (h : Cut request script entries) (more : List A) :
    Cut request (script ++ more) entries := by
  obtain ⟨done, next, rest, last, rfl, rfl, hlast⟩ := h
  exact ⟨done, next, rest ++ more, last, by simp, rfl, hlast⟩

theorem append_left (h : Cut request script entries) (earlier : List A) :
    Cut request (earlier ++ script) (earlier ++ entries) := by
  obtain ⟨done, next, rest, last, rfl, rfl, hlast⟩ := h
  exact ⟨earlier ++ done, next, rest, last, by simp, by simp, hlast⟩

/-- What was requested is the beginning of the script. -/
theorem requests_prefix (h : Cut request script entries) :
    entries.map request <+: script.map request := by
  obtain ⟨done, next, rest, last, rfl, rfl, hlast⟩ := h
  refine ⟨rest.map request, ?_⟩
  simp [hlast]

/-- A request that the script makes only in its second part finds the first part done. -/
theorem prefix_of_mem {first second : List A} (h : Cut request (first ++ second) entries) {r : R}
    (hfirst : r ∉ first.map request) (hmem : r ∈ entries.map request) : first <+: entries := by
  obtain ⟨done, next, rest, last, hscript, rfl, hlast⟩ := h
  rcases List.append_eq_append_iff.mp hscript with ⟨more, hdone, -⟩ | ⟨more, hfirst', hrest⟩
  · rw [hdone]
    exact ⟨more ++ [last], (List.append_assoc first more [last]).symm⟩
  · cases more with
    | nil =>
      rw [List.append_nil] at hfirst'
      rw [hfirst']
      exact List.prefix_append _ _
    | cons next' more =>
      obtain ⟨rfl, -⟩ := List.cons.inj hrest
      refine absurd ?_ hfirst
      have hdone : r ∈ done.map request ∨ r = request next := by simpa [hlast] using hmem
      rw [hfirst', List.map_append, List.map_cons, List.mem_append, List.mem_cons]
      exact hdone.imp id .inl

end Cut

section Rules

variable {log : σ → List A} {request : A → R} {script script' : List A}

theorem scripted_pure (a : α) : Scripted log request [] a (pure a : Prog ε σ α) :=
  fun _ ↦ ⟨rfl, (List.append_nil _).symm⟩

theorem Scripted.bind {m : Prog ε σ α} {f : α → Prog ε σ β} {a : α} {b : β}
    (hm : Scripted log request script a m) (hf : Scripted log request script' b (f a)) :
    Scripted log request (script ++ script') b (m >>= f) := by
  intro s
  rw [wp_bind]
  apply wp_mono (hm s)
  · rintro _ s' ⟨rfl, hlog⟩
    apply wp_mono (hf s')
    · rintro b' s'' ⟨rfl, hlog'⟩
      exact ⟨rfl, by rw [hlog', hlog, List.append_assoc]⟩
    · rintro _ s'' ⟨entries, hlog', hcut⟩
      exact ⟨script ++ entries, by rw [hlog', hlog, List.append_assoc], hcut.append_left script⟩
  · rintro _ s' ⟨entries, hlog, hcut⟩
    exact ⟨entries, hlog, hcut.append_right script'⟩

theorem Scripted.mapError {m : Prog ε σ α} {a : α} (hm : Scripted log request script a m)
    (f : ε → ε') : Scripted log request script a (Program.mapError f m) := by
  intro s
  rw [wp_mapError]
  apply wp_mono (hm s) fun _ _ h ↦ h
  intro e _ h
  cases e <;> exact h

/-- A step that leaves the log alone. -/
theorem scripted_modify {f : σ → σ} (h : ∀ s, log (f s) = log s) :
    Scripted log request [] ⟨⟩ (modify f : Prog ε σ PUnit) :=
  fun s ↦ ⟨rfl, by rw [h, List.append_nil]⟩

theorem Scripted.foldlM {script : ι → List A} {step : β → ι → β} {f : β → ι → Prog ε σ β}
    (hf : ∀ b i, Scripted log request (script i) (step b i) (f b i)) (is : List ι) (b : β) :
    Scripted log request (is.flatMap script) (is.foldl step b) (is.foldlM f b) := by
  induction is generalizing b with
  | nil => exact scripted_pure b
  | cons i is ih =>
    rw [List.foldlM_cons, List.flatMap_cons, List.foldl_cons]
    exact (hf b i).bind (ih (step b i))

/-- A program that returned has made the accesses of its script. -/
theorem Scripted.ok {m : Prog ε σ α} {a a' : α} {s s' : σ} (hm : Scripted log request script a m)
    (h : m s = .ok a' s') : a' = a ∧ log s' = log s ++ script := by
  simpa only [wp, h] using hm s

/-- A program that ended early was cut off at an access. -/
theorem Scripted.error {m : Prog ε σ α} {a : α} {e : Abort ε} {s s' : σ}
    (hm : Scripted log request script a m) (h : m s = .error e s') :
    ∃ entries, log s' = log s ++ entries ∧ Cut request script entries := by
  simpa only [wp, h] using hm s

/-- However a run ends, it has requested the beginning of its script. -/
theorem Scripted.final {m : Prog ε σ α} {a : α} (hm : Scripted log request script a m) (s : σ) :
    ∃ entries, log (Program.final m s) = log s ++ entries ∧
      entries.map request <+: script.map request := by
  have hrun := hm s
  unfold wp at hrun
  unfold Program.final
  cases hend : m s with
  | ok a' s' =>
    rw [hend] at hrun
    exact ⟨script, hrun.2, List.prefix_refl _⟩
  | error e s' =>
    rw [hend] at hrun
    obtain ⟨entries, hlog, hcut⟩ := hrun
    exact ⟨entries, hlog, hcut.requests_prefix⟩

end Rules

end Program
