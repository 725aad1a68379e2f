import DaphneSc.Server.Iterations
import DaphneSc.Server.PreflightGate
import DaphneSc.Server.Prerequisites
import DaphneSc.Server.StatusCollector

/-!
# Commands are submitted to a healthy machine only

The loop asks its provider before it submits anything, and the provider of a Linux host answers with
the checks it has made last, as long as they are young. So whenever something is submitted, every
prerequisite had been met at some moment of one collection of checks, which was made for this very
request or had ended less than the time to live before it.
-/

namespace DaphneSc.Server.PreflightGate

open DaphneSc.Core Core.Rpu Core.Transport Handlers Machine Pb Preflight Program Router SlowControl

variable {S P T E : Type}

/-! ## Providers with an invariant -/

section Provider

variable [RouterSocket S] [PreflightProvider P] [RpuAfeTransport T] [HostEnvironment E]
variable (prost : Prost) (options : RouterOptions)
variable {I : P → Prop} {J : P → PreflightStatus → P → Prop}

/-- Between two states the invariant is kept, and a result that was added comes from a check. -/
structure Follows (I : P → Prop) (J : P → PreflightStatus → P → Prop)
    (before after : Watched S P T E) : Prop where
  kept : I after.preflight.provider
  checked : ∀ status, results after = results before ++ [status] →
    J before.preflight.provider status after.preflight.provider

abbrev keepsPreflight : Bound (Watched S P T E) := .keeps Service.preflight

omit [RouterSocket S] [PreflightProvider P] [RpuAfeTransport T] [HostEnvironment E] in
theorem preflight_socketIo {α : Type} (doing : String) (m : Prog String S α) :
    Within (σ := Watched S P T E) keepsPreflight (socketIo doing m) :=
  within_mapError (within_zoom (within_top m) fun _ _ _ ↦ rfl)

omit [PreflightProvider P] in
theorem preflight_respond (clientId payload : List UInt8) (status : PreflightStatus) :
    Within (σ := Watched S P T E) keepsPreflight (respond prost clientId payload status) := by
  apply within_bind (within_mapError (within_zoom (within_top _) fun _ _ _ ↦ rfl))
  intro response
  cases response with
  | none => exact within_pure _
  | some response =>
    exact within_bind (preflight_socketIo _ _) fun _ ↦ preflight_socketIo _ _

omit [RouterSocket S] [RpuAfeTransport T] [HostEnvironment E] in
/-- The record of the results leaves the checks as they are. -/
theorem wp_checked
    (hcheck : ∀ p, I p → wp PreflightProvider.check (fun status p' ↦ I p' ∧ J p status p')
      (fun _ _ ↦ False) p)
    (checked : Checked P) (h : I checked.provider) :
    wp PreflightProvider.check (fun status (after : Checked P) ↦ I after.provider ∧
      J checked.provider status after.provider ∧ after.results = checked.results ++ [status])
      (fun _ _ ↦ False) checked := by
  obtain ⟨status, provider, hrun, hI, hJ⟩ := ok_of_wp (hcheck checked.provider h)
  simp only [wp, PreflightProvider.check, hrun]
  exact ⟨hI, hJ, trivial⟩

theorem follows_iteration
    (hcheck : ∀ p, I p → wp PreflightProvider.check (fun status p' ↦ I p' ∧ J p status p')
      (fun _ _ ↦ False) p)
    (service : Watched S P T E) (h : I service.preflight.provider) :
    wp (iteration prost options) (fun _ ↦ Follows I J service) (fun _ ↦ Follows I J service)
      service := by
  have hsame {after : Watched S P T E} (hafter : after.preflight = service.preflight) :
      Follows I J service after := by
    refine ⟨by rwa [hafter], fun status hresults ↦ ?_⟩
    simp [results, hafter] at hresults
  apply wp_bind_of_within (preflight_socketIo _ _)
  · intro frames received hreceived
    unfold serve
    split
    · rename_i clientId _ _ payload _
      split
      · exact hsame hreceived
      · rw [wp_bind]
        split
        · rw [infallible, wp_mapError, wp_zoom]
          apply wp_mono (wp_checked hcheck _ (by rwa [← hreceived] at h)) _ fun _ _ ↦ False.elim
          rintro status checked ⟨hI, hJ, hresults⟩
          change J received.preflight.provider status _ at hJ
          change _ = received.preflight.results ++ _ at hresults
          rw [hreceived] at hJ hresults
          have hfollows {after : Watched S P T E} (hafter : after.preflight = checked) :
              Follows I J service after := by
            refine ⟨by rwa [hafter], fun status' hstatus' ↦ ?_⟩
            have hadded : results after = results service ++ [status] := by
              rw [results, hafter, hresults, results]
            rw [hadded, List.append_cancel_left_eq, List.singleton_inj] at hstatus'
            rw [hafter, ← hstatus']
            exact hJ
          exact wp_mono (preflight_respond prost clientId payload status _)
            (fun _ _ h ↦ hfollows h) fun _ _ h ↦ hfollows h
        · rw [wp_pure]
          exact wp_mono (preflight_respond prost clientId payload .ready received)
            (fun _ _ h ↦ hsame (h.trans hreceived)) fun _ _ h ↦ hsame (h.trans hreceived)
    · exact hsame hreceived
  · exact fun _ _ h ↦ hsame h

/-- What is submitted in an iteration is submitted after a check in it that was as the invariant has
it. -/
theorem checked_history
    (hcheck : ∀ p, I p → wp PreflightProvider.check (fun status p' ↦ I p' ∧ J p status p')
      (fun _ _ ↦ False) p)
    (n : ℕ) (service : Watched S P T E) (h : I service.preflight.provider) :
    ∀ step ∈ history prost options n service, submissions step.2 ≠ submissions step.1 →
      ∃ status, status.readyForHardwareCommands = true ∧
        J step.1.preflight.provider status step.2.preflight.provider := by
  induction n generalizing service with
  | zero => exact fun _ h ↦ absurd h List.not_mem_nil
  | succ n ih =>
    have hstep := wp_and (gated_iteration prost options service)
      (follows_iteration prost options hcheck service h)
    have hchecked {after : Watched S P T E}
        (hboth : Gated service after ∧ Follows I J service after)
        (hne : submissions after ≠ submissions service) :
        ∃ status, status.readyForHardwareCommands = true ∧
          J service.preflight.provider status after.preflight.provider := by
      obtain ⟨status, hadded, hready⟩ := hboth.1 hne
      exact ⟨status, hready, hboth.2.checked status hadded⟩
    unfold wp at hstep
    rw [history]
    cases hrun : iteration prost options service with
    | ok _ next =>
      rw [hrun] at hstep
      exact List.forall_mem_cons.mpr ⟨hchecked hstep, ih next hstep.2.kept⟩
    | error _ next =>
      rw [hrun] at hstep
      exact List.forall_mem_singleton.mpr (hchecked hstep)

end Provider

/-! ## The provider of a Linux host -/

section Linux

variable (env : Environment) (ttl : ℕ) (moments : ℕ → Moment)

/-- A result that was good saw the prerequisites met between two ticks. -/
def Collected (status : PreflightStatus) (a b : ℕ) : Prop :=
  a ≤ b ∧ (status.readyForHardwareCommands = true →
    Prerequisites env (configAt moments a) (.during moments a b))

/-- The result that is kept, if any, was collected until the time it is marked with. -/
structure Keeps (preflight : LinuxPreflight) : Prop where
  env_eq : preflight.env = env
  ttl_eq : preflight.ttl = ttl
  moments_eq : preflight.host.moments = moments
  cached : ∀ cached, preflight.cached = some cached → ∃ a b, b < preflight.host.tick ∧
    Collected env moments cached.status a b ∧ cached.checkedAt = (moments b).now

/-- The result of a check was collected in it, or not much earlier. -/
def Fresh (before : LinuxPreflight) (status : PreflightStatus) (after : LinuxPreflight) : Prop :=
  ∃ a b t, Collected env moments status a b ∧ b ≤ t ∧ before.host.tick ≤ t ∧ t < after.host.tick ∧
    (before.host.tick ≤ a ∨ (moments t).now - (moments b).now < ttl)

variable {env ttl moments}

theorem wp_refresh (before preflight : LinuxPreflight) (h : Keeps env ttl moments preflight)
    (hlater : before.host.tick ≤ preflight.host.tick) :
    wp LinuxPreflight.refresh (fun status after ↦ Keeps env ttl moments after ∧
      Fresh env ttl moments before status after) (fun _ _ ↦ False) preflight := by
  obtain ⟨status, host, hrun, hpasses, hready⟩ := collect_returns preflight.env preflight.host
  have hmoments : host.moments = moments := hpasses.1.trans h.moments_eq
  have hcollected : Collected env moments status preflight.host.tick host.tick := by
    rw [h.env_eq, h.moments_eq] at hready
    exact ⟨hpasses.2, hready⟩
  have hnow : (host.current).now = (moments host.tick).now := by
    rw [← hmoments]
    rfl
  have hcollect : wp (Preflight.collect preflight.env)
      (fun result after ↦ result = status ∧ after = host)
      (fun _ _ ↦ False) preflight.host := by
    rw [wp, hrun]
    exact ⟨rfl, rfl⟩
  unfold LinuxPreflight.refresh
  rw [wp_bind, wp_get, wp_bind, wp_zoom]
  apply wp_mono hcollect _ fun _ _ ↦ False.elim
  rintro _ _ ⟨rfl, rfl⟩
  rw [wp_bind, wp_zoom, wp_observe, wp_bind, wp_modify, wp_pure]
  constructor
  · refine ⟨h.env_eq, h.ttl_eq, hmoments, fun cached hcached ↦ ?_⟩
    cases hcached
    exact ⟨_, _, Nat.lt_succ_self _, hcollected, hnow⟩
  · exact ⟨_, _, _, hcollected, Nat.le_refl _, hlater.trans hpasses.2, Nat.lt_succ_self _,
      .inl hlater⟩

/-- A result that is kept is given again only while it is young. -/
theorem wp_check_linux (preflight : LinuxPreflight) (h : Keeps env ttl moments preflight) :
    wp PreflightProvider.check (fun status after ↦ Keeps env ttl moments after ∧
      Fresh env ttl moments preflight status after) (fun _ _ ↦ False) preflight := by
  change wp (get >>= _) _ _ preflight
  rw [wp_bind, wp_get]
  cases hcached : preflight.cached with
  | none => exact wp_refresh preflight preflight h (Nat.le_refl _)
  | some cached =>
    obtain ⟨a, b, hb, hcollected, hchecked⟩ := h.cached cached hcached
    have hkept : Keeps env ttl moments { preflight with host := preflight.host.next } := by
      refine ⟨h.env_eq, h.ttl_eq, h.moments_eq, fun cached' hcached' ↦ ?_⟩
      obtain ⟨a', b', hb', hrest⟩ := h.cached cached' hcached'
      exact ⟨a', b', hb'.trans (Nat.lt_succ_self _), hrest⟩
    unfold LinuxPreflight.isFresh
    dsimp only
    rw [wp_bind, wp_bind, wp_zoom, wp_observe, wp_bind, wp_get, wp_pure]
    split
    · rename_i hyoung
      rw [wp_pure]
      refine ⟨hkept, a, b, preflight.host.tick, hcollected, hb.le, Nat.le_refl _,
        Nat.lt_succ_self _, .inr ?_⟩
      have hnow : preflight.host.current.now = (moments preflight.host.tick).now := by
        rw [← h.moments_eq]
        rfl
      rw [← hnow, ← hchecked, ← h.ttl_eq]
      exact of_decide_eq_true hyoung
    · exact wp_refresh preflight _ hkept (Nat.le_succ _)

end Linux

/-! ## Main result -/

variable [RouterSocket S] [RpuAfeTransport T] [HostEnvironment E]

/-- In every run that starts without a result, something is submitted in an iteration only after a
check in it, at some tick `t`. The result of that check saw all prerequisites met from tick `a` to
before tick `b`, and was collected in the check itself or less than the time to live before. The
records change nothing of the run. -/
theorem submitted_to_healthy_machine (prost : Prost) (options : RouterOptions) (env : Environment)
    (ttl : ℕ) (host : Host) (socket : S) (backend : Backend (Observed T) E) (n : ℕ) :
    (∀ step ∈ history prost options n
        ⟨socket, ⟨LinuxPreflight.withTtl ttl env host, []⟩, backend⟩,
      submissions step.2 ≠ submissions step.1 → ∃ a b t, a ≤ b ∧ b ≤ t ∧
        step.1.preflight.provider.host.tick ≤ t ∧ t < step.2.preflight.provider.host.tick ∧
        Prerequisites env (configAt host.moments a) (.during host.moments a b) ∧
        (step.1.preflight.provider.host.tick ≤ a ∨
          (host.moments t).now - (host.moments b).now < ttl)) ∧
    Simulates (erase : Watched S LinuxPreflight T E → Service S LinuxPreflight T E)
      (run prost options n) (run prost options n) := by
  refine ⟨fun step hstep hne ↦ ?_, simulates_run prost options n⟩
  have hstart : Keeps env ttl host.moments (LinuxPreflight.withTtl ttl env host) := by
    refine ⟨rfl, rfl, rfl, fun cached hcached ↦ ?_⟩
    cases hcached
  have hcheck (preflight : LinuxPreflight) (h : Keeps env ttl host.moments preflight) :=
    wp_check_linux preflight h
  obtain ⟨status, hready, a, b, t, ⟨hab, hprerequisites⟩, hbt, hbefore, hafter, hfresh⟩ :=
    checked_history prost options hcheck n _ hstart step hstep hne
  exact ⟨a, b, t, hab, hbt, hbefore, hafter, hprerequisites hready, hfresh⟩

/-! Two requests on a machine whose services fail while the checks for the first one are made. The
second one is submitted on the result that is kept. -/

def fadingService : Watched RouterEnd LinuxPreflight FailClosedRpuTransport Host :=
  ⟨{ arrived := [[[1], setBiasBytes], [[2], readBiasBytes]] },
    ⟨LinuxPreflight.withTtl 1000000000 (fun _ ↦ none) fadingHost, []⟩, ⟨⟨⟨⟩, []⟩, fadingHost, 1⟩⟩

def checkTwice : Prog Empty LinuxPreflight Bool := do
  let first ← PreflightProvider.check
  let second ← PreflightProvider.check
  return first.readyForHardwareCommands && second.readyForHardwareCommands

def resultTrue : EStateM.Result (Abort Empty) LinuxPreflight Bool → Bool
  | .ok result _ => result
  | .error _ _ => false

theorem checkTwice_fading : ∃ first second checked last,
    PreflightProvider.check fadingService.preflight.provider = .ok first checked ∧
      PreflightProvider.check checked = .ok second last ∧
      first.readyForHardwareCommands = true ∧ second.readyForHardwareCommands = true := by
  have htrue : resultTrue (checkTwice fadingService.preflight.provider) = true := by decide +kernel
  unfold checkTwice at htrue
  rw [run_bind] at htrue
  cases hfirst : PreflightProvider.check fadingService.preflight.provider with
  | error abort after =>
    rw [hfirst] at htrue
    cases htrue
  | ok first checked =>
    rw [hfirst] at htrue
    dsimp only at htrue
    rw [run_bind] at htrue
    cases hsecond : PreflightProvider.check checked with
    | error abort after =>
      rw [hsecond] at htrue
      cases htrue
    | ok second last =>
      rw [hsecond] at htrue
      obtain ⟨hready, hready'⟩ := Bool.and_eq_true_iff.mp htrue
      exact ⟨first, second, checked, last, rfl, hsecond, hready, hready'⟩

/-- An iteration in which a request is checked for and answered. -/
theorem iteration_checked [PreflightProvider P]
    {prost : Prost} {options : RouterOptions} {arrived sent : List (List (List UInt8))}
    {clientId bytes answer : List UInt8} {provider provider' : P} {results : List PreflightStatus}
    {status : PreflightStatus} {backend after : Backend (Observed T) E}
    (hsize : bytes.length ≤ options.maxEnvelopeBytes) (hneeds : needsPreflight prost bytes = true)
    (hcheck : PreflightProvider.check provider = .ok status provider')
    (hanswer : handleEnvelope prost bytes status backend = .ok (some answer) after) :
    iteration prost options (⟨{ arrived := [clientId, bytes] :: arrived, sent },
        ⟨provider, results⟩, backend⟩ : Watched RouterEnd P T E) =
      .ok () ⟨{ arrived, sent := sent ++ [[clientId, answer]] },
        ⟨provider', results ++ [status]⟩, after⟩ := by
  refine run_iteration hsize ?_ hanswer
  rw [if_pos hneeds, run_check, hcheck]

theorem history_of_ok {n : ℕ} {service next : Watched S P T E} [PreflightProvider P]
    {prost : Prost} {options : RouterOptions} (h : iteration prost options service = .ok () next) :
    history prost options (n + 1) service = (service, next) :: history prost options n next := by
  rw [history, h]

theorem submitted_to_healthy_machine_cached :
    ∃ first second, history biasProst {} 2 fadingService = [first, second] ∧
      submissions second.2 = submissions second.1 ++
        [⟨.readBias ⟨0, 0, rfl⟩, some (.error .unavailable)⟩] ∧
      ∃ a b t, a ≤ b ∧ b ≤ t ∧ second.1.preflight.provider.host.tick ≤ t ∧
        t < second.2.preflight.provider.host.tick ∧
        Prerequisites (fun _ ↦ none) (configAt fadingHost.moments a)
          (.during fadingHost.moments a b) ∧
        (second.1.preflight.provider.host.tick ≤ a ∨
          (fadingHost.moments t).now - (fadingHost.moments b).now < 1000000000) := by
  obtain ⟨first, second, checked, last, hfirst, hsecond, hready, hready'⟩ := checkTwice_fading
  obtain ⟨set, hset⟩ := handles_setBias (Observed FailClosedRpuTransport)
  obtain ⟨read, hread⟩ := handles_readBias (Observed FailClosedRpuTransport)
  obtain ⟨_, mid, hsubmitted, -, -, hmid⟩ := handleEnvelope_submits fadingService.backend
    decode_setBias ⟨rfl, rfl⟩ rfl rfl hready hset rfl
  obtain ⟨_, after, hsubmitted', -, -, hafter⟩ := handleEnvelope_submits mid
    decode_readBias ⟨rfl, rfl⟩ rfl rfl hready' hread rfl
  have hsteps : history biasProst {} 2 fadingService = (_, _) :: history biasProst {} 1 _ :=
    history_of_ok (iteration_checked (by decide) needsPreflight_bias.1 hfirst hsubmitted)
  rw [history_of_ok (iteration_checked (by decide) needsPreflight_bias.2 hsecond hsubmitted')]
    at hsteps
  have hadded : after.rpu.submissions = mid.rpu.submissions ++
      [⟨.readBias ⟨0, 0, rfl⟩, some (.error .unavailable)⟩] := by
    rw [hafter]
  have hne : after.rpu.submissions ≠ mid.rpu.submissions := by
    rw [hadded]
    simp
  refine ⟨_, _, hsteps, hadded, ?_⟩
  exact (submitted_to_healthy_machine biasProst {} (fun _ ↦ none) 1000000000 fadingHost
    fadingService.socket fadingService.backend 2).1 _ (hsteps ▸ by simp) hne

end DaphneSc.Server.PreflightGate
