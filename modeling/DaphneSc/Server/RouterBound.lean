import DaphneSc.Program.Within
import DaphneSc.Server.Router

/-!
# What the transport keeps, the router keeps

Whatever is requested of it, the router does nothing with the transport but submit commands and ask
for the status of the link. A restriction that both calls respect is respected by every run.
-/

namespace DaphneSc.Server.Router

open DaphneSc.Core Core.Afe Core.Rpu Core.Transport Handlers Pb Preflight Program SlowControl

variable {S P T E : Type} [RpuAfeTransport T] {B : Bound T}

/-- Both calls respect the bound. -/
structure Respected (B : Bound T) : Prop where
  status : Within B (RpuAfeTransport.status : Prog RpuError T RpuLinkStatus)
  submitAfeCommand (command : AfeCommand) :
    Within B (RpuAfeTransport.submitAfeCommand command : Prog RpuError T AfeCommandReply)

/-! ## Handlers -/

section Handlers

variable (h : Respected B) (prost : Prost)
include h

theorem Respected.submit (command : AfeCommand) :
    Within B (Handlers.submit command : Prog Empty T SubmitOutcome) := by
  unfold Handlers.submit
  split
  · exact within_pure _
  · exact within_map (within_attempt (h.submitAfeCommand command))

theorem Respected.handle {Req Resp : Type} [Inhabited Req] (name : String) (bad : String → Resp)
    (command : Req → Except String AfeCommand) (refused : Req → String → Resp)
    (respond : Req → SubmitOutcome → Resp) (payload : List UInt8) :
    Within B (Handlers.handle prost name bad command refused respond payload :
      Prog Empty T (List UInt8)) := by
  unfold Handlers.handle
  split
  · exact within_pure _
  · split
    · exact within_pure _
    · exact within_bind (h.submit _) fun _ ↦ within_pure _

theorem Respected.readAlignmentVectors :
    Within B (readAlignmentVectors : Prog Empty T (List UInt32 × List UInt32)) := by
  apply within_foldlM
  intro vectors afeBoard
  unfold readAlignmentVector
  split
  · exact within_pure _
  · apply within_bind (h.submit _)
    intro outcome
    split
    · exact within_pure _
    · exact within_ite (within_pure _) (within_pure _)

theorem Respected.handleAlignAfe (payload : List UInt8) :
    Within B (handleAlignAfe prost payload : Prog Empty T (List UInt8)) := by
  unfold Handlers.handleAlignAfe
  split
  · exact within_pure _
  · apply within_bind (h.submit _)
    intro outcome
    apply within_bind (within_ite (within_pure _) h.readAlignmentVectors)
    exact fun _ ↦ within_pure _

theorem Respected.handleRpuAfe (messageType : MessageTypeV2) (payload : List UInt8) :
    Within B (handleRpuAfe prost messageType payload : Prog Empty T (List UInt8)) := by
  cases messageType with
  | alignAfeReq => exact h.handleAlignAfe prost payload
  | configureClksReq | readCurrentMonitorReq | readBiasVoltageMonitorReq | dumpSpybufferReq
  | doSoftwareTriggerReq | dumpSpybufferChunkReq | readTestRegReq | readTriggerCountersReq
  | readGeneralInfoReq | readSlowControlStatusReq => exact within_pure _
  | _ =>
    unfold Handlers.handleRpuAfe
    apply h.handle

end Handlers

/-! ## Envelopes -/

/-- The bound on the transport behind the handlers. -/
abbrev backendBound (E : Type) (B : Bound T) : Bound (Backend T E) := B.comap Backend.rpu

section Envelopes

variable [HostEnvironment E] (h : Respected B) (prost : Prost)

omit [HostEnvironment E] [RpuAfeTransport T] in
theorem backendBound_of_keeps {α : Type} {m : Prog Empty (Backend T E) α}
    (hm : Within (.keeps Backend.rpu) m) : Within (backendBound E B) m := by
  have hrel {s t : Backend T E} (hkept : t.rpu = s.rpu) : (backendBound E B).rel s t := by
    change B.rel s.rpu t.rpu
    rw [hkept]
    exact B.refl _
  exact fun s ↦ wp_mono (hm s) (fun _ _ hkept ↦ hrel hkept) fun _ _ hkept ↦ hrel hkept

omit [HostEnvironment E] [RpuAfeTransport T] in
theorem backendBound_zoom {ε α : Type} {m : Prog ε T α} (hm : Within B m) :
    Within (backendBound E B) (zoom Backend.rpuLens m) :=
  within_zoom hm fun _ _ ht ↦ ht

include h in
theorem Respected.handleSlowControlStatus (payload : List UInt8) (preflight : PreflightStatus) :
    Within (backendBound E B) (handleSlowControlStatus prost payload preflight) := by
  unfold Router.handleSlowControlStatus
  split
  · exact within_pure _
  · apply within_bind (within_attempt (backendBound_zoom h.status))
    intro rpuStatusResult
    apply within_bind (backendBound_of_keeps (within_zoom_keeps _ fun _ _ ↦ rfl))
    exact fun _ ↦ within_pure _

include h in
theorem Respected.handlePayload (messageType : Int32) (payload : List UInt8)
    (preflight : PreflightStatus) :
    Within (backendBound E B) (handlePayload prost messageType payload preflight) := by
  unfold Router.handlePayload
  split
  · exact within_pure _
  · split
    · split
      · exact backendBound_zoom (h.handleRpuAfe prost _ payload)
      · unfold runLocal
        split
        · exact within_pure _
        · exact within_stop
    · unfold handleLinuxStatus
      split
      · split <;> exact within_pure _
      · split <;> exact within_pure _
      · exact within_pure _
      · exact h.handleSlowControlStatus prost payload preflight
      · exact within_pure _
    · exact within_pure _
    · exact within_pure _

omit [RpuAfeTransport T] in
theorem keepsRpu_makeResponse (req : ControlEnvelopeV2) (payload : List UInt8) :
    Within (.keeps Backend.rpu : Bound (Backend T E)) (makeResponse req payload) := by
  have hnow : Within (.keeps Backend.rpu : Bound (Backend T E)) nowNs := fun _ ↦ rfl
  have hid : Within (.keeps Backend.rpu : Bound (Backend T E)) nextMsgId :=
    within_bind (fun _ ↦ rfl) fun _ ↦ within_bind hnow fun _ ↦ within_pure _
  exact within_bind hid fun _ ↦ within_bind hnow fun _ ↦ within_pure _

include h in
theorem Respected.handleEnvelope (payload : List UInt8) (preflight : PreflightStatus) :
    Within (backendBound E B) (handleEnvelope prost payload preflight) := by
  unfold Router.handleEnvelope
  split
  · exact within_pure _
  · rename_i req _
    apply within_ite (within_pure _)
    apply within_bind (h.handlePayload prost req.type req.payload preflight)
    intro responsePayload
    exact within_bind (backendBound_of_keeps (keepsRpu_makeResponse req responsePayload)) fun _ ↦
      within_pure _

end Envelopes

/-! ## Runs -/

/-- The bound on the transport of the whole service. -/
abbrev serviceBound (S P E : Type) (B : Bound T) : Bound (Service S P T E) :=
  B.comap fun service ↦ service.backend.rpu

section Runs

variable [RouterSocket S] [PreflightProvider P] [HostEnvironment E]
variable (h : Respected B) (prost : Prost) (options : RouterOptions)

omit [RpuAfeTransport T] [RouterSocket S] [PreflightProvider P] [HostEnvironment E] in
theorem serviceBound_of_keeps {α : Type} {m : Prog String (Service S P T E) α}
    (hm : Within (.keeps Service.backend) m) : Within (serviceBound S P E B) m := by
  have hrel {s t : Service S P T E} (hkept : t.backend = s.backend) :
      (serviceBound S P E B).rel s t := by
    change B.rel s.backend.rpu t.backend.rpu
    rw [hkept]
    exact B.refl _
  exact fun s ↦ wp_mono (hm s) (fun _ _ hkept ↦ hrel hkept) fun _ _ hkept ↦ hrel hkept

omit [RpuAfeTransport T] [RouterSocket S] [PreflightProvider P] [HostEnvironment E] in
theorem serviceBound_socketIo {α : Type} (doing : String) (m : Prog String S α) :
    Within (serviceBound S P E B) (socketIo doing m) :=
  serviceBound_of_keeps (within_mapError (within_zoom_keeps m fun _ _ ↦ rfl))

include h in
omit [PreflightProvider P] in
theorem Respected.respond (clientId payload : List UInt8) (status : PreflightStatus) :
    Within (serviceBound S P E B) (respond prost clientId payload status) := by
  unfold Router.respond
  apply within_bind
  · exact within_mapError (within_zoom (h.handleEnvelope prost payload status) fun _ _ ht ↦ ht)
  · intro response
    cases response with
    | none => exact within_pure _
    | some response => exact within_bind (serviceBound_socketIo _ _) fun _ ↦
        serviceBound_socketIo _ _

include h in
theorem Respected.iteration : Within (serviceBound S P E B) (iteration prost options) := by
  unfold Router.iteration
  apply within_bind (serviceBound_socketIo _ _)
  intro frames
  unfold serve
  split
  · apply within_ite (within_pure _)
    apply within_bind
    · apply within_ite _ (within_pure _)
      exact serviceBound_of_keeps (within_mapError (within_zoom_keeps _ fun _ _ ↦ rfl))
    · exact fun status ↦ h.respond prost _ _ status
  · exact within_pure _

include h in
theorem Respected.run (n : ℕ) : Within (serviceBound S P E B) (run prost options n) := by
  induction n with
  | zero => exact within_pure _
  | succ n ih => exact within_bind (h.iteration prost options) fun _ ↦ ih

end Runs

end DaphneSc.Server.Router
