import DaphneSc.Server.HandlersServed
import DaphneSc.Server.Router

/-!
# Nothing is submitted without a passed check

Whether a payload is checked for is decided before it is handled, and how it is handled is decided
again from the same payload. The two decisions agree: what is not checked for submits nothing, and
what is checked for without success gets a transport that rejects every command. So in every
iteration of the loop, a command reaches the transport only after a check of that iteration passed.
-/

namespace DaphneSc.Server.PreflightGate

open DaphneSc.Core Core.Rpu Core.Transport Handlers Pb Preflight Program Router SlowControl

variable {S P T E : Type}

/-! ## Recorded checks -/

/-- A provider together with the results it gave, oldest first. -/
structure Checked (P : Type) where
  provider : P
  results : List PreflightStatus

instance [PreflightProvider P] : PreflightProvider (Checked P) where
  check := fun checked ↦
    match PreflightProvider.check checked.provider with
    | .ok status provider => .ok status ⟨provider, checked.results ++ [status]⟩
    | .error abort provider => .error abort ⟨provider, checked.results⟩

theorem run_check [PreflightProvider P] (checked : Checked P) :
    PreflightProvider.check checked =
      match PreflightProvider.check checked.provider with
      | .ok status provider => .ok status ⟨provider, checked.results ++ [status]⟩
      | .error abort provider => .error abort ⟨provider, checked.results⟩ := rfl

/-- The loop with its checks and submissions on record. -/
abbrev Watched (S P T E : Type) := Service S (Checked P) (Observed T) E

def submissions (service : Watched S P T E) : List Submission := service.backend.rpu.submissions

def results (service : Watched S P T E) : List PreflightStatus := service.preflight.results

/-! ## A transport that rejects -/

section Rejected

variable (prost : Prost) {messageType : MessageTypeV2}

theorem reply_of_rejected {submission : Submission}
    (h : submission.Performed PreflightRejectedRpuTransport) :
    ∃ err, submission.reply = some (.error err) := by
  obtain ⟨command, reply⟩ := submission
  obtain ⟨transport, transport', hrun⟩ := h
  rcases reply with _ | err | reply
  · cases hrun
  · exact ⟨err, rfl⟩
  · cases hrun

/-- Every request gets its own response from such a transport, and the response is a failure. -/
theorem answers_of_rejected (hroute : routeMessageType messageType = .rpuAfe) (payload : List UInt8)
    (transport : PreflightRejectedRpuTransport) :
    ∃ answer transport', handleRpuAfe prost messageType payload transport = .ok answer transport' ∧
      Answers prost messageType answer false := by
  have hserves := serves_handleRpuAfe prost payload hroute ⟨transport, []⟩
  have herased := simulates_handleRpuAfe prost messageType payload ⟨transport, []⟩
  unfold wp at hserves
  cases hrun : handleRpuAfe prost messageType payload (⟨transport, []⟩ : Observed _) with
  | ok answer observed' =>
    rw [hrun] at hserves herased
    refine ⟨answer, _, herased, ?_⟩
    rcases hserves with ⟨-, hfailed⟩ | ⟨success, first, reads, hanswer, hsubmits, happlied⟩
    · exact hfailed
    · obtain ⟨err, hreply⟩ := reply_of_rejected (hsubmits.performed first List.mem_cons_self)
      cases success with
      | false => exact hanswer
      | true =>
        obtain ⟨reply, hok, -⟩ := happlied rfl
        rw [hreply] at hok
        cases hok
  | error abort observed' =>
    rw [hrun] at hserves
    obtain ⟨first, reads, hsubmits, last, hlast, hnone⟩ := hserves
    obtain ⟨err, hreply⟩ := reply_of_rejected (hsubmits.performed last hlast)
    rw [hnone] at hreply
    cases hreply

end Rejected

/-! ## What submits nothing -/

section Backend

variable [RpuAfeTransport T] [HostEnvironment E] (prost : Prost)

/-- The submissions stay as they are. -/
abbrev keepsSubmissions : Bound (Backend (Observed T) E) :=
  .keeps fun backend ↦ backend.rpu.submissions

omit [HostEnvironment E] in
theorem within_status :
    Within (σ := Backend (Observed T) E) keepsSubmissions
      (zoom Backend.rpuLens RpuAfeTransport.status) := by
  have hkeeps : Within (.keeps Observed.submissions)
      (RpuAfeTransport.status : Prog RpuError (Observed T) RpuLinkStatus) :=
    within_zoom (within_top _) fun _ _ _ ↦ rfl
  exact within_zoom hkeeps fun _ _ h ↦ h

theorem within_handleSlowControlStatus (payload : List UInt8) (preflight : PreflightStatus) :
    Within (σ := Backend (Observed T) E) keepsSubmissions
      (handleSlowControlStatus prost payload preflight) := by
  unfold handleSlowControlStatus
  split
  · exact within_pure _
  · apply within_bind (within_attempt within_status)
    intro rpuStatusResult
    exact within_bind (within_zoom (within_top _) fun _ _ _ ↦ rfl) fun _ ↦ within_pure _

theorem within_handleLinuxStatus (messageType : MessageTypeV2) (payload : List UInt8)
    (preflight : PreflightStatus) :
    Within (σ := Backend (Observed T) E) keepsSubmissions
      (handleLinuxStatus prost messageType payload preflight) := by
  unfold handleLinuxStatus
  split
  · split <;> exact within_pure _
  · split <;> exact within_pure _
  · exact within_pure _
  · exact within_handleSlowControlStatus prost payload preflight
  · exact within_pure _

/-- A payload is handled without a submission when its route is another one or the checks failed. -/
theorem within_handlePayload {messageType : Int32} {preflight : PreflightStatus}
    (h : ∀ coreType, MessageTypeV2.tryFrom messageType.toUInt32 = some coreType →
      routeMessageType coreType = .rpuAfe → preflight.readyForHardwareCommands = false)
    (payload : List UInt8) :
    Within (σ := Backend (Observed T) E) keepsSubmissions
      (handlePayload prost messageType payload preflight) := by
  unfold handlePayload
  split
  · exact within_pure _
  · rename_i coreType hcoreType
    split
    · rename_i hroute
      rw [h coreType hcoreType hroute, if_neg Bool.false_ne_true]
      unfold runLocal
      split
      · exact within_pure _
      · exact within_stop
    · exact within_handleLinuxStatus prost coreType payload preflight
    · exact within_pure _
    · exact within_pure _

omit [RpuAfeTransport T] in
theorem within_makeResponse (req : ControlEnvelopeV2) (payload : List UInt8) :
    Within (σ := Backend (Observed T) E) keepsSubmissions (makeResponse req payload) := by
  have hnow : Within (keepsSubmissions : Bound (Backend (Observed T) E)) nowNs := fun _ ↦ rfl
  have hid : Within (keepsSubmissions : Bound (Backend (Observed T) E)) nextMsgId :=
    within_bind (fun _ ↦ rfl) fun _ ↦ within_bind hnow fun _ ↦ within_pure _
  exact within_bind hid fun _ ↦ within_bind hnow fun _ ↦ within_pure _

/-- The two decisions agree: a payload that is not checked for, or not with success, is handled
without a submission. -/
theorem within_handleEnvelope {payload : List UInt8} {preflight : PreflightStatus}
    (h : needsPreflight prost payload = true → preflight.readyForHardwareCommands = false) :
    Within (σ := Backend (Observed T) E) keepsSubmissions
      (handleEnvelope prost payload preflight) := by
  unfold handleEnvelope
  unfold needsPreflight at h
  split
  · exact within_pure _
  · rename_i req hdecode
    rw [hdecode] at h
    dsimp only at h
    split
    · exact within_pure _
    · rename_i hrequest
      rw [if_neg hrequest] at h
      apply within_bind (within_handlePayload prost _ _)
      · intro responsePayload
        exact within_bind (within_makeResponse req responsePayload) fun _ ↦ within_pure _
      · intro coreType hcoreType hroute
        apply h
        rw [hcoreType]
        simp [hroute]

/-- A request for the AFEs that comes with a failed check is answered with a failure. -/
theorem handleEnvelope_of_rejected {payload : List UInt8} {req : ControlEnvelopeV2}
    {messageType : MessageTypeV2} {preflight : PreflightStatus}
    (hdecode : prost.decode payload = .ok req) (hversion : req.version = 2)
    (hdir : req.dir = dirRequest)
    (htype : MessageTypeV2.tryFrom req.type.toUInt32 = some messageType)
    (hroute : routeMessageType messageType = .rpuAfe)
    (hfailed : preflight.readyForHardwareCommands = false) (backend : Backend (Observed T) E) :
    ∃ (response : ControlEnvelopeV2) (after : Backend (Observed T) E),
      handleEnvelope prost payload preflight backend =
        .ok (some (prost.encodeToVec response)) after ∧
      response.correlId = req.msgId ∧ Answers prost messageType response.payload false := by
  obtain ⟨answer, transport, hrun, hanswer⟩ := answers_of_rejected prost hroute req.payload
    (PreflightRejectedRpuTransport.mk preflight.failureMessage)
  have hpayload : handlePayload prost req.type req.payload preflight backend =
      .ok answer backend := by
    unfold handlePayload
    rw [htype]
    dsimp only
    rw [hroute]
    dsimp only
    rw [hfailed, if_neg Bool.false_ne_true, runLocal, hrun]
    rfl
  unfold handleEnvelope
  rw [hdecode]
  dsimp only
  rw [if_neg (by simp [hversion, hdir]), run_bind, hpayload]
  exact ⟨_, _, rfl, rfl, hanswer⟩

end Backend

/-! ## One iteration -/

section Loop

variable [RouterSocket S] [PreflightProvider P] [RpuAfeTransport T] [HostEnvironment E]
variable (prost : Prost) (options : RouterOptions)

/-- Something was submitted between two states only if a check between them passed, and it was the
only one. -/
def Gated (before after : Watched S P T E) : Prop :=
  submissions after ≠ submissions before →
    ∃ status, results after = results before ++ [status] ∧ status.readyForHardwareCommands = true

abbrev keepsServiceSubmissions : Bound (Watched S P T E) := .keeps submissions

abbrev keepsResults : Bound (Watched S P T E) := .keeps results

omit [RouterSocket S] [PreflightProvider P] [RpuAfeTransport T] [HostEnvironment E] in
theorem within_socketIo {α : Type} (doing : String) (m : Prog String S α) :
    Within (σ := Watched S P T E) (keepsServiceSubmissions.inter keepsResults) (socketIo doing m) :=
  within_mapError (within_zoom (within_top m) fun _ _ _ ↦ ⟨rfl, rfl⟩)

omit [PreflightProvider P] in
theorem within_respond {B : Bound (Watched S P T E)} {payload : List UInt8}
    {status : PreflightStatus}
    (hhandle :
      Within B (infallible (zoom Service.backendLens (handleEnvelope prost payload status))))
    (hsocket : ∀ s t, (keepsServiceSubmissions.inter keepsResults).rel s t → B.rel s t)
    (clientId : List UInt8) : Within B (respond prost clientId payload status) := by
  have hsend {α : Type} (doing : String) (m : Prog String S α) : Within B (socketIo doing m) :=
    fun s ↦ wp_mono (within_socketIo doing m s) (fun _ t h ↦ hsocket s t h) fun _ t h ↦
      hsocket s t h
  apply within_bind hhandle
  intro response
  cases response with
  | none => exact within_pure _
  | some response => exact within_bind (hsend _ _) fun _ ↦ hsend _ _

omit [PreflightProvider P] in
/-- What is not checked for, or not with success, submits nothing. -/
theorem within_respond_of_rejected (clientId payload : List UInt8) (status : PreflightStatus)
    (h : needsPreflight prost payload = true → status.readyForHardwareCommands = false) :
    Within (σ := Watched S P T E) keepsServiceSubmissions (respond prost clientId payload status) :=
  within_respond prost (within_mapError (within_zoom (within_handleEnvelope prost h) fun _ _ h ↦ h))
    (fun _ _ h ↦ h.1) clientId

omit [PreflightProvider P] in
/-- Nothing is checked for once a payload is handled. -/
theorem within_respond_results (clientId payload : List UInt8) (status : PreflightStatus) :
    Within (σ := Watched S P T E) keepsResults (respond prost clientId payload status) :=
  within_respond prost (within_mapError (within_zoom (within_top _) fun _ _ _ ↦ rfl))
    (fun _ _ h ↦ h.2) clientId

omit [RouterSocket S] [RpuAfeTransport T] [HostEnvironment E] in
/-- A check submits nothing and writes down its result. -/
theorem wp_check (service : Watched S P T E) :
    wp (infallible (zoom Service.preflightLens PreflightProvider.check))
      (fun status checked ↦ submissions checked = submissions service ∧
        results checked = results service ++ [status])
      (fun _ checked ↦ submissions checked = submissions service) service := by
  rw [infallible, wp_mapError, wp_zoom]
  simp only [wp, PreflightProvider.check, Service.preflightLens]
  cases PreflightProvider.check service.preflight.provider with
  | ok status provider => exact ⟨rfl, rfl⟩
  | error abort provider => cases abort <;> rfl

theorem gated_serve (frames : List (List UInt8)) (service : Watched S P T E) :
    wp (serve prost options frames) (fun _ ↦ Gated service) (fun _ ↦ Gated service) service := by
  have hsame {after : Watched S P T E} (h : submissions after = submissions service) :
      Gated service after := fun hne ↦ absurd h hne
  unfold serve
  split
  · rename_i clientId _ _ payload _
    split
    · exact hsame rfl
    · rw [wp_bind]
      split
      · apply wp_mono (wp_check service)
        · rintro status checked ⟨hsubmissions, hresults⟩
          cases hstatus : status.readyForHardwareCommands with
          | true =>
            have hgated (after : Watched S P T E) (h : results after = results checked) :
                Gated service after := fun _ ↦ ⟨status, h.trans hresults, hstatus⟩
            exact wp_mono (within_respond_results prost clientId payload status checked)
              (fun _ after h ↦ hgated after h) fun _ after h ↦ hgated after h
          | false =>
            have hkeeps := within_respond_of_rejected prost clientId payload status
              (fun _ ↦ hstatus) checked
            exact wp_mono hkeeps (fun _ _ h ↦ hsame (h.trans hsubmissions))
              fun _ _ h ↦ hsame (h.trans hsubmissions)
        · exact fun _ checked h ↦ hsame h
      · rename_i hneeds
        have hkeeps := within_respond_of_rejected prost clientId payload .ready
          (fun h ↦ absurd h hneeds) service
        rw [wp_pure]
        exact wp_mono hkeeps (fun _ _ h ↦ hsame h) fun _ _ h ↦ hsame h
  · exact hsame rfl

/-- Receiving changes neither record. -/
theorem gated_iteration (service : Watched S P T E) :
    wp (iteration prost options) (fun _ ↦ Gated service) (fun _ ↦ Gated service) service := by
  apply wp_bind_of_within (within_socketIo _ _)
  · rintro frames received ⟨hsubmissions, hresults⟩
    have hgated {after : Watched S P T E} (h : Gated received after) : Gated service after := by
      unfold Gated at h ⊢
      rwa [hsubmissions, hresults] at h
    exact wp_mono (gated_serve prost options frames received) (fun _ _ h ↦ hgated h)
      fun _ _ h ↦ hgated h
  · rintro _ received ⟨hsubmissions, -⟩
    exact fun hne ↦ absurd hsubmissions hne

/-! ## Runs -/

/-- The states before and after each iteration of a run. -/
def history : ℕ → Watched S P T E → List (Watched S P T E × Watched S P T E)
  | 0, _ => []
  | n + 1, service =>
    match iteration prost options service with
    | .ok _ next => (service, next) :: history n next
    | .error _ next => [(service, next)]

theorem gated_history (n : ℕ) (service : Watched S P T E) :
    ∀ step ∈ history prost options n service, Gated step.1 step.2 := by
  induction n generalizing service with
  | zero => exact fun _ h ↦ absurd h List.not_mem_nil
  | succ n ih =>
    have hgated := gated_iteration prost options service
    unfold wp at hgated
    rw [history]
    cases hrun : iteration prost options service with
    | ok _ next =>
      rw [hrun] at hgated
      exact List.forall_mem_cons.mpr ⟨hgated, ih next⟩
    | error _ next =>
      rw [hrun] at hgated
      exact List.forall_mem_singleton.mpr hgated

/-! ## The records change nothing -/

def eraseBackend (backend : Backend (Observed T) E) : Backend T E where
  rpu := backend.rpu.transport
  host := backend.host
  nextMsgSeq := backend.nextMsgSeq

def erase (service : Watched S P T E) : Service S P T E where
  socket := service.socket
  preflight := service.preflight.provider
  backend := eraseBackend service.backend

omit [RouterSocket S] [PreflightProvider P] in
theorem simulates_handleLinuxStatus (messageType : MessageTypeV2) (payload : List UInt8)
    (preflight : PreflightStatus) :
    Simulates (eraseBackend : Backend (Observed T) E → Backend T E)
      (handleLinuxStatus prost messageType payload preflight)
      (handleLinuxStatus prost messageType payload preflight) := by
  unfold handleLinuxStatus
  split
  · split <;> exact simulates_pure _
  · split <;> exact simulates_pure _
  · exact simulates_pure _
  · unfold handleSlowControlStatus
    split
    · exact simulates_pure _
    · apply simulates_bind
      · exact simulates_attempt (simulates_zoom (fun _ ↦ rfl) (fun _ _ ↦ rfl) simulates_status)
      · intro rpuStatusResult
        apply simulates_bind
        · exact simulates_zoom (fun _ ↦ rfl) (fun _ _ ↦ rfl) (simulates_refl _)
        · exact fun _ ↦ simulates_pure _
  · exact simulates_pure _

theorem simulates_handleEnvelope (payload : List UInt8) (preflight : PreflightStatus) :
    Simulates (eraseBackend : Backend (Observed T) E → Backend T E)
      (handleEnvelope prost payload preflight) (handleEnvelope prost payload preflight) := by
  have hnow : Simulates (eraseBackend : Backend (Observed T) E → Backend T E) nowNs nowNs :=
    simulates_modifyGet fun _ ↦ rfl
  unfold handleEnvelope
  split
  · exact simulates_pure _
  · rename_i req _
    split
    · exact simulates_pure _
    · apply simulates_bind
      · unfold handlePayload
        split
        · exact simulates_pure _
        · rename_i coreType _
          split
          · split
            · exact simulates_zoom (fun _ ↦ rfl) (fun _ _ ↦ rfl)
                (simulates_handleRpuAfe prost coreType req.payload)
            · unfold runLocal
              split
              · exact simulates_pure _
              · exact simulates_stop
          · exact simulates_handleLinuxStatus prost coreType req.payload preflight
          · exact simulates_pure _
          · exact simulates_pure _
      · intro responsePayload
        apply simulates_bind
        · apply simulates_bind
          · exact simulates_bind (simulates_modifyGet fun _ ↦ rfl) fun _ ↦
              simulates_bind hnow fun _ ↦ simulates_pure _
          · exact fun _ ↦ simulates_bind hnow fun _ ↦ simulates_pure _
        · exact fun _ ↦ simulates_pure _

omit [RpuAfeTransport T] [HostEnvironment E] [PreflightProvider P] [RouterSocket S] in
theorem simulates_socketIo {α : Type} (doing : String) (m : Prog String S α) :
    Simulates (erase : Watched S P T E → Service S P T E) (socketIo doing m) (socketIo doing m) :=
  simulates_mapError _ (simulates_zoom (fun _ ↦ rfl) (fun _ _ ↦ rfl) (simulates_refl m))

omit [RpuAfeTransport T] [HostEnvironment E] [RouterSocket S] in
theorem simulates_check :
    Simulates (erase : Watched S P T E → Service S P T E)
      (infallible (zoom Service.preflightLens PreflightProvider.check))
      (infallible (zoom Service.preflightLens PreflightProvider.check)) := by
  apply simulates_mapError
  apply simulates_zoom (f := Checked.provider) (fun _ ↦ rfl) fun _ _ ↦ rfl
  intro checked
  simp only [PreflightProvider.check]
  cases PreflightProvider.check checked.provider <;> rfl

/-- The loop runs alike with the records and without. -/
theorem simulates_run (n : ℕ) :
    Simulates (erase : Watched S P T E → Service S P T E) (run prost options n)
      (run prost options n) := by
  have hrespond (clientId payload : List UInt8) (status : PreflightStatus) :
      Simulates (erase : Watched S P T E → Service S P T E) (respond prost clientId payload status)
        (respond prost clientId payload status) := by
    apply simulates_bind
    · exact simulates_mapError _ (simulates_zoom (fun _ ↦ rfl) (fun _ _ ↦ rfl)
        (simulates_handleEnvelope prost payload status))
    · intro response
      cases response with
      | none => exact simulates_pure _
      | some response => exact simulates_bind (simulates_socketIo _ _) fun _ ↦
          simulates_socketIo _ _
  induction n with
  | zero => exact simulates_pure _
  | succ n ih =>
    apply simulates_bind _ fun _ ↦ ih
    apply simulates_bind (simulates_socketIo _ _)
    intro frames
    unfold serve
    split
    · split
      · exact simulates_pure _
      · apply simulates_bind
        · split
          · exact simulates_check
          · exact simulates_pure _
        · exact fun status ↦ hrespond _ _ status
    · exact simulates_pure _

/-! ## Main result -/

/-- In every iteration of every run, something is submitted only after a check of that iteration
passed. What is not checked for submits nothing, nor does what is checked for without success, and
then a request for the AFEs is answered with a failure. -/
theorem submitted_only_after_check :
    (∀ n (service : Watched S P T E), ∀ step ∈ history prost options n service,
      Gated step.1 step.2) ∧
    (∀ payload status (backend : Backend (Observed T) E),
      (needsPreflight prost payload = false ∨ status.readyForHardwareCommands = false) →
        (final (handleEnvelope prost payload status) backend).rpu.submissions =
          backend.rpu.submissions) ∧
    ∀ payload (req : ControlEnvelopeV2) messageType status (backend : Backend (Observed T) E),
      prost.decode payload = .ok req → req.version = 2 → req.dir = dirRequest →
      MessageTypeV2.tryFrom req.type.toUInt32 = some messageType →
      routeMessageType messageType = .rpuAfe → status.readyForHardwareCommands = false →
        ∃ (response : ControlEnvelopeV2) (after : Backend (Observed T) E),
          handleEnvelope prost payload status backend =
            .ok (some (prost.encodeToVec response)) after ∧
          response.correlId = req.msgId ∧ Answers prost messageType response.payload false := by
  refine ⟨gated_history prost options, ?_, ?_⟩
  · intro payload status backend h
    have hagree : needsPreflight prost payload = true → status.readyForHardwareCommands = false :=
      fun hneeds ↦ h.resolve_left (by simp [hneeds])
    exact (within_handleEnvelope prost hagree).final backend
  · intro payload req messageType status backend hdecode hversion hdir htype hroute hfailed
    exact handleEnvelope_of_rejected prost hdecode hversion hdir htype hroute hfailed backend

end Loop

end DaphneSc.Server.PreflightGate
