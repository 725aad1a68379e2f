import DaphneSc.Program.Simulated
import DaphneSc.Program.Within
import DaphneSc.Server.Handlers

/-!
# Transports whose submissions are recorded

Any transport can be watched: it behaves as before, and every command submitted to it is kept with
what became of it. The handlers run alike with the record and without.
-/

namespace DaphneSc.Server.Handlers

open DaphneSc.Core Core.Afe Core.Rpu Core.Transport Pb Program

/-- A command that was submitted. There is no reply when the transport stopped. -/
structure Submission where
  command : AfeCommand
  reply : Option (Except RpuError AfeCommandReply)

/-- The transport replied that the command was accepted and applied. -/
def Submission.Applied (submission : Submission) : Prop :=
  ∃ reply, submission.reply = some (.ok reply) ∧ reply.accepted = true ∧ reply.applied = true

/-- A transport together with the commands submitted to it, oldest first. -/
structure Observed (T : Type) where
  transport : T
  submissions : List Submission

variable {T : Type} [RpuAfeTransport T]

namespace Observed

def transportLens : Lens (Observed T) T where
  view := transport
  update transport observed := { observed with transport := transport }
  view_update _ _ := rfl

instance : RpuAfeTransport (Observed T) where
  status := zoom transportLens RpuAfeTransport.status
  submitAfeCommand command := fun observed ↦
    match RpuAfeTransport.submitAfeCommand command observed.transport with
    | .ok reply transport =>
      .ok reply ⟨transport, observed.submissions ++ [⟨command, some (.ok reply)⟩]⟩
    | .error (.error err) transport =>
      .error (.error err) ⟨transport, observed.submissions ++ [⟨command, some (.error err)⟩]⟩
    | .error .panic transport =>
      .error .panic ⟨transport, observed.submissions ++ [⟨command, none⟩]⟩

end Observed

theorem run_submitAfeCommand (command : AfeCommand) (observed : Observed T) :
    (RpuAfeTransport.submitAfeCommand command : Prog RpuError (Observed T) AfeCommandReply)
    observed =
      match RpuAfeTransport.submitAfeCommand command observed.transport with
      | .ok reply transport =>
        .ok reply ⟨transport, observed.submissions ++ [⟨command, some (.ok reply)⟩]⟩
      | .error (.error err) transport =>
        .error (.error err) ⟨transport, observed.submissions ++ [⟨command, some (.error err)⟩]⟩
      | .error .panic transport =>
        .error .panic ⟨transport, observed.submissions ++ [⟨command, none⟩]⟩ := rfl

/-! ## The record changes nothing -/

theorem simulates_status :
    Simulates Observed.transport (RpuAfeTransport.status : Prog RpuError (Observed T) RpuLinkStatus)
      RpuAfeTransport.status := by
  intro observed
  simp only [RpuAfeTransport.status, zoom, Observed.transportLens]
  cases RpuAfeTransport.status observed.transport <;> rfl

theorem simulates_submitAfeCommand (command : AfeCommand) :
    Simulates Observed.transport
      (RpuAfeTransport.submitAfeCommand command : Prog RpuError (Observed T) AfeCommandReply)
      (RpuAfeTransport.submitAfeCommand command) := by
  intro observed
  rw [run_submitAfeCommand]
  rcases RpuAfeTransport.submitAfeCommand command observed.transport with _ | ⟨_ | _, _⟩ <;> rfl

theorem simulates_submit (command : AfeCommand) :
    Simulates Observed.transport (submit command : Prog Empty (Observed T) SubmitOutcome)
      (submit command) := by
  unfold submit
  cases command.validate with
  | error err => exact simulates_pure _
  | ok _ => exact simulates_map _ (simulates_attempt (simulates_submitAfeCommand command))

variable (prost : Prost)

theorem simulates_handle {Req Resp : Type} [Inhabited Req] (name : String) (bad : String → Resp)
    (command : Req → Except String AfeCommand) (refused : Req → String → Resp)
    (respond : Req → SubmitOutcome → Resp) (payload : List UInt8) :
    Simulates Observed.transport
      (handle prost name bad command refused respond payload : Prog Empty (Observed T) (List UInt8))
      (handle prost name bad command refused respond payload) := by
  unfold handle
  cases (prost.decode payload : Except DecodeError Req) with
  | error err => exact simulates_pure _
  | ok req =>
    dsimp only
    cases command req with
    | error err => exact simulates_pure _
    | ok command => exact simulates_bind (simulates_submit command) fun _ ↦ simulates_pure _

theorem simulates_readAlignmentVectors :
    Simulates Observed.transport
      (readAlignmentVectors : Prog Empty (Observed T) (List UInt32 × List UInt32))
      readAlignmentVectors := by
  apply simulates_foldlM
  intro vectors afeBoard
  unfold readAlignmentVector
  cases AfeId.fromBoard (UInt8.ofNat afeBoard) with
  | error _ => exact simulates_pure _
  | ok afe =>
    apply simulates_bind (simulates_submit _)
    intro outcome
    cases outcome.readback with
    | none => exact simulates_pure _
    | some readback =>
      dsimp only
      split <;> exact simulates_pure _

theorem simulates_handleAlignAfe (payload : List UInt8) :
    Simulates Observed.transport
      (handleAlignAfe prost payload : Prog Empty (Observed T) (List UInt8))
      (handleAlignAfe prost payload) := by
  unfold handleAlignAfe
  cases (prost.decode payload : Except DecodeError CmdAlignAfEs) with
  | error err => exact simulates_pure _
  | ok _ =>
    apply simulates_bind (simulates_submit _)
    intro outcome
    apply simulates_bind
    · split
      · exact simulates_pure _
      · exact simulates_readAlignmentVectors
    · exact fun _ ↦ simulates_pure _

/-- The handlers of the AFE requests run alike with the record and without. -/
theorem simulates_handleRpuAfe (messageType : MessageTypeV2) (payload : List UInt8) :
    Simulates Observed.transport
      (handleRpuAfe prost messageType payload : Prog Empty (Observed T) (List UInt8))
      (handleRpuAfe prost messageType payload) := by
  cases messageType with
  | alignAfeReq => exact simulates_handleAlignAfe prost payload
  | configureClksReq | readCurrentMonitorReq | readBiasVoltageMonitorReq | dumpSpybufferReq
  | doSoftwareTriggerReq | dumpSpybufferChunkReq | readTestRegReq | readTriggerCountersReq
  | readGeneralInfoReq | readSlowControlStatusReq => exact simulates_pure _
  | _ =>
    unfold handleRpuAfe
    apply simulates_handle

/-! ## What a submission records -/

/-- The transport, in some state, did with the command what is recorded. -/
def Submission.Performed (T : Type) [RpuAfeTransport T] (submission : Submission) : Prop :=
  ∃ transport transport' : T, RpuAfeTransport.submitAfeCommand submission.command transport =
    match submission.reply with
    | some (.ok reply) => .ok reply transport'
    | some (.error err) => .error (.error err) transport'
    | none => .error .panic transport'

/-- A command that does not pass its own check is not submitted; the others are, once. -/
theorem wp_submit {command : AfeCommand} {observed : Observed T}
    {Q : SubmitOutcome → Observed T → Prop} {E : Abort Empty → Observed T → Prop}
    (hinvalid : ∀ outcome : SubmitOutcome, outcome.success = false → command.validate ≠ .ok () →
      Q outcome observed)
    (hreply : ∀ transport result, command.validate = .ok () →
      Submission.Performed T ⟨command, some result⟩ →
        Q (submitOutcome result) ⟨transport, observed.submissions ++ [⟨command, some result⟩]⟩)
    (hstop : ∀ transport, command.validate = .ok () → Submission.Performed T ⟨command, none⟩ →
      E .panic ⟨transport, observed.submissions ++ [⟨command, none⟩]⟩) :
    wp (submit command) Q E observed := by
  unfold submit
  cases hvalid : command.validate with
  | error err => exact hinvalid _ rfl (by simp [hvalid])
  | ok _ =>
    dsimp only
    rw [wp_map, wp_attempt, wp, run_submitAfeCommand]
    rcases hrun : RpuAfeTransport.submitAfeCommand command observed.transport with
      ⟨reply, transport⟩ | ⟨err | _, transport⟩
    · exact hreply transport (.ok reply) hvalid ⟨_, _, hrun⟩
    · exact hreply transport (.error err) hvalid ⟨_, _, hrun⟩
    · exact hstop transport hvalid ⟨_, _, hrun⟩

end DaphneSc.Server.Handlers
