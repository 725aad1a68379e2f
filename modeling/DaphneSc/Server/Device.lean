import DaphneSc.Program.Within
import DaphneSc.Server.Rpmsg

/-!
# Devices that keep whole frames

A device takes a frame for every write, lets time pass while the host polls, and hands out the
oldest reply that has arrived. On such a device a transaction is: accept the frame, wait, and take
the oldest reply for the reply to the frame, if its sequence number agrees.
-/

namespace DaphneSc.Server.Rpmsg

open DaphneSc.Core Core.Afe Core.RpuWire Core.Rpu Program

class FrameDevice (F : Type) where
  accept (file : F) (bytes : Vector UInt8 rpuWireCommandLen) : F
  wait (file : F) : F
  receive (file : F) : Option (Vector UInt8 rpuWireReplyLen × F)

open FrameDevice RpmsgAfeTransport

variable {F : Type} [FrameDevice F]

instance : RpmsgFile F where
  writeAll bytes := modify fun file ↦ accept file bytes
  flush := pure ()
  poll _ := do
    modify wait
    let file ← get
    return if (receive file).isSome then some pollIn else none
  readExact := do
    let file ← get
    match receive file with
    | some (bytes, file) => do
      set file
      return bytes
    -- Not reached: a reply is read only after a poll found one.
    | none => fail "no reply"

/-- The device when a transaction has polled. -/
def polled (file : F) (command : RpuWireCommand) : F := wait (accept file command.encode)

theorem writeAll_device (bytes : Vector UInt8 rpuWireCommandLen) (file : F) :
    (RpmsgFile.writeAll bytes : Prog String F Unit) file = .ok () (accept file bytes) := rfl

theorem flush_device (file : F) :
    (RpmsgFile.flush : Prog String F Unit) file = .ok () file := rfl

theorem poll_device (timeoutMs : ℕ) (file : F) :
    (RpmsgFile.poll timeoutMs : Prog String F (Option UInt16)) file =
      .ok (if (receive (wait file)).isSome then some pollIn else none) (wait file) := rfl

theorem readExact_device {file file' : F} {bytes : Vector UInt8 rpuWireReplyLen}
    (h : receive file = some (bytes, file')) :
    (RpmsgFile.readExact : Prog String F _) file = .ok bytes file' := by
  simp only [RpmsgFile.readExact, run_get_bind, h]
  rfl

theorem waitReadable_device (transport : RpmsgAfeTransport F) :
    waitReadable transport =
      if (receive (wait transport.file)).isSome then
        .ok () { transport with file := wait transport.file }
      else .error (.error .timeout) { transport with file := wait transport.file } := by
  unfold waitReadable
  rw [run_get_bind, run_bind, io_of_ok (poll_device _ _)]
  cases (receive (wait transport.file)).isSome <;> rfl

/-- A transaction sends its frame, then takes the oldest unread reply for the reply to it. -/
theorem transact_eq (command : RpuWireCommand) (transport : RpmsgAfeTransport F) :
    transact command transport =
      match receive (polled transport.file command) with
      | none => .error (.error .timeout) { transport with file := polled transport.file command }
      | some (bytes, file) => acceptReply command bytes { transport with file := file } := by
  unfold transact
  rw [run_bind, io_of_ok (writeAll_device _ _)]
  dsimp only
  rw [run_bind, io_of_ok (flush_device _)]
  dsimp only
  rw [run_bind, waitReadable_device]
  cases hreceive : receive (polled transport.file command) with
  | none =>
    have hnone : ¬ (receive (polled transport.file command)).isSome = true := by simp [hreceive]
    unfold polled at hnone
    rw [if_neg hnone]
    rfl
  | some pair =>
    obtain ⟨bytes, file⟩ := pair
    have hsome : (receive (polled transport.file command)).isSome = true := by simp [hreceive]
    have hread := readExact_device hreceive
    unfold polled at hsome hread
    rw [if_pos hsome]
    dsimp only
    rw [run_bind, io_of_ok hread]

/-! ## Accepting a reply -/

section Accept

variable {command : RpuWireCommand} {bytes : Vector UInt8 rpuWireReplyLen} {reply : RpuWireReply}
variable {transport transport' : RpmsgAfeTransport F}

omit [FrameDevice F]

theorem acceptReply_of_eq (hdecode : RpuWireReply.decode bytes.toList = .ok reply)
    (hsequence : reply.sequence = command.sequence) :
    acceptReply command bytes transport = .ok reply (noteReply reply transport) := by
  simp only [acceptReply, hdecode, Except.mapError, ofResult_ok, pure_bind, failIf, ne_eq,
    hsequence, not_true_eq_false, if_false]
  rfl

theorem acceptReply_of_ne (hdecode : RpuWireReply.decode bytes.toList = .ok reply)
    (hsequence : reply.sequence ≠ command.sequence) :
    acceptReply command bytes transport = .error (.error (.transport
      s!"RPU reply sequence mismatch: sent {command.sequence}, got {reply.sequence}"))
      transport := by
  simp only [acceptReply, hdecode, Except.mapError, ofResult_ok, pure_bind, failIf, ne_eq,
    hsequence, not_false_eq_true, if_true]
  rfl

/-- A reply is accepted exactly when it decodes to the sequence number of the frame. -/
theorem acceptReply_eq_ok_iff :
    acceptReply command bytes transport = .ok reply transport' ↔
      RpuWireReply.decode bytes.toList = .ok reply ∧ reply.sequence = command.sequence ∧
        transport' = noteReply reply transport := by
  constructor
  · intro h
    cases hdecode : RpuWireReply.decode bytes.toList with
    | error err => simp [acceptReply, hdecode, Except.mapError, run_fail] at h
    | ok reply' =>
      by_cases hsequence : reply'.sequence = command.sequence
      · rw [acceptReply_of_eq hdecode hsequence] at h
        cases h
        exact ⟨rfl, hsequence, rfl⟩
      · simp [acceptReply, hdecode, Except.mapError, failIf, hsequence, run_fail] at h
  · rintro ⟨hdecode, hsequence, rfl⟩
    exact acceptReply_of_eq hdecode hsequence

/-- Whether or not it is accepted, a reply does not move the device. -/
theorem within_acceptReply (command : RpuWireCommand) (bytes : Vector UInt8 rpuWireReplyLen) :
    Within (.keeps fun transport : RpmsgAfeTransport F ↦ (transport.file, transport.nextSequence))
      (acceptReply command bytes) := by
  unfold acceptReply
  refine within_bind (within_ofResult _) fun reply ↦ within_bind (within_failIf _ _) fun _ ↦ ?_
  exact within_bind (within_modify fun _ ↦ rfl) fun _ ↦ within_pure _

theorem file_acceptReply (command : RpuWireCommand) (bytes : Vector UInt8 rpuWireReplyLen)
    (transport : RpmsgAfeTransport F) :
    (final (acceptReply command bytes) transport).file = transport.file :=
  congrArg Prod.fst (Bound.keeps_rel.mp ((within_acceptReply command bytes).final transport))

end Accept

/-! ## The device after a transaction -/

section After

variable {command : RpuWireCommand} {transport : RpmsgAfeTransport F}

theorem file_transact_of_none (h : receive (polled transport.file command) = none) :
    (final (transact command) transport).file = polled transport.file command := by
  have htransact := transact_eq command transport
  rw [h] at htransact
  rw [final_of_error htransact]

theorem file_transact_of_some {bytes : Vector UInt8 rpuWireReplyLen} {file : F}
    (h : receive (polled transport.file command) = some (bytes, file)) :
    (final (transact command) transport).file = file := by
  have htransact := transact_eq command transport
  rw [h] at htransact
  rw [final, htransact]
  exact file_acceptReply command bytes { transport with file }

end After

end DaphneSc.Server.Rpmsg
