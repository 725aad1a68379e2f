import DaphneSc.Core.ConfigureFrames
import DaphneSc.Core.RpuWireCommands
import DaphneSc.Program.Within
import DaphneSc.Server.Rpmsg

/-!
# Calls of the transport

A run of the transport is a list of calls, whatever they return. The calls share one counter of
sequence numbers: as long as it does not overflow, the frames of a run carry strictly increasing
numbers, whichever of the two allocators they come from.
-/

namespace DaphneSc.Server.Rpmsg

open DaphneSc.Core Core.Afe Core.RpuWire Core.Rpu Program RpmsgAfeTransport

/-! ## Sequence numbers of a command -/

/-- The frames of a command are numbered consecutively. -/
theorem sequences_of_command {firstSequence : UInt64} {command : AfeCommand} {count : ℕ}
    {frames : List RpuWireCommand}
    (hcount : RpuWireCommand.frameCountForAfeCommand command = .ok count)
    (hframes : RpuWireCommand.fromAfeCommandSequence firstSequence command = .ok frames)
    (hfirst : 1 ≤ firstSequence) (hbound : firstSequence.toNat + count ≤ 2 ^ 64) :
    frames.map (fun frame ↦ frame.sequence.toNat) = List.range' firstSequence.toNat count := by
  by_cases hconfigure : ∃ afes channels biasControl,
    command = .configureFrontend afes channels biasControl
  · obtain ⟨afes, channels, biasControl, rfl⟩ := hconfigure
    obtain ⟨-, -, rfl⟩ := RpuWireCommand.configureFrontendSequence_eq_ok_iff.mp hframes
    obtain ⟨-, -, rfl⟩ := RpuWireCommand.frameCountForAfeCommand_eq_ok_iff.mp hcount
    have hlength := RpuWireCommand.length_configureBuilders afes channels biasControl
    rw [← hlength] at hbound ⊢
    exact RpuWireCommand.map_sequence_numberFrames
      (fun _ ↦ RpuWireCommand.sequence_configureBuilders) hfirst hbound
  · have hone : count = 1 ∧ ∃ frame, frames = [frame] ∧
        RpuWireCommand.fromAfeCommand firstSequence command = .ok frame := by
      cases command
      case configureFrontend afes channels biasControl =>
        exact absurd ⟨afes, channels, biasControl, rfl⟩ hconfigure
      all_goals
        unfold RpuWireCommand.fromAfeCommandSequence at hframes
        cases hcount
        dsimp only [bind, Except.bind] at hframes
        split at hframes
        · cases hframes
        · rename_i frame hframe
          cases hframes
          exact ⟨rfl, frame, rfl, hframe⟩
    obtain ⟨rfl, frame, rfl, hframe⟩ := hone
    rw [List.map_singleton, RpuWireCommand.sequence_fromAfeCommand hframe]
    rfl

/-! ## Calls -/

inductive HostCall where
  | status
  | submit (command : AfeCommand)

/-- How many sequence numbers a call takes. -/
def HostCall.issues : HostCall → ℕ
  | .status => 1
  | .submit command =>
    match command.validate, RpuWireCommand.frameCountForAfeCommand command with
    | .ok _, .ok count => count
    | _, _ => 0

section Allocators

variable {F : Type} {transport : RpmsgAfeTransport F}

theorem max_one_of_positive {sequence : UInt64} (h : 1 ≤ sequence.toNat) :
    max sequence 1 = sequence := by
  change (if sequence ≤ 1 then 1 else sequence) = sequence
  split
  · rename_i hle
    have hle' : sequence.toNat ≤ 1 := UInt64.le_iff_toNat_le.mp hle
    have hlt : (1 : UInt64).toNat ≤ sequence.toNat := h
    exact (UInt64.toNat_inj.mp (Nat.le_antisymm hle' hlt)).symm
  · rfl

/-- Reserving numbers that are still free. -/
theorem reserveSequences_eq {count : ℕ}
    (hfree : transport.nextSequence.toNat + count < 2 ^ 64) (hfirst : 1 ≤ transport.nextSequence) :
    ∃ next, next.toNat = transport.nextSequence.toNat + count ∧
      reserveSequences count transport =
        .ok transport.nextSequence { transport with nextSequence := next } := by
  have hcount : count < 2 ^ 64 := by omega
  have htoNat : (UInt64.ofNat count).toNat = count := by
    rw [UInt64.toNat_ofNat', Nat.mod_eq_of_lt hcount]
  have hpositive : 1 ≤ transport.nextSequence.toNat := UInt64.le_iff_toNat_le.mp hfirst
  unfold reserveSequences
  rw [if_pos hcount]
  dsimp only
  rw [run_get_bind]
  by_cases hzero : UInt64.ofNat count = 0
  · have hcount_zero : count = 0 := by rw [← htoNat, hzero]; rfl
    rw [if_pos hzero]
    exact ⟨transport.nextSequence, by rw [hcount_zero, Nat.add_zero], rfl⟩
  · have hroom : ¬ transport.nextSequence > u64Max - UInt64.ofNat count := by
      have hle : UInt64.ofNat count ≤ u64Max := by
        rw [UInt64.le_iff_toNat_le, htoNat]
        change count ≤ 2 ^ 64 - 1
        omega
      rw [gt_iff_lt, UInt64.not_lt, UInt64.le_iff_toNat_le, UInt64.toNat_sub_of_le _ _ hle, htoNat]
      change _ ≤ 2 ^ 64 - 1 - count
      omega
    have hsum : (transport.nextSequence + UInt64.ofNat count).toNat =
        transport.nextSequence.toNat + count := by
      rw [UInt64.toNat_add, htoNat, Nat.mod_eq_of_lt hfree]
    rw [if_neg hzero, if_neg hroom]
    refine ⟨transport.nextSequence + UInt64.ofNat count, hsum, ?_⟩
    rw [run_modify_bind, saturatingAdd, htoNat, if_pos hfree, max_one_of_positive]
    · rfl
    · rw [hsum]
      exact hpositive.trans (Nat.le_add_right _ _)

/-- Taking a number that is still free. -/
theorem takeSequence_eq (hfree : transport.nextSequence.toNat + 1 < 2 ^ 64) :
    ∃ next, next.toNat = transport.nextSequence.toNat + 1 ∧
      takeSequence transport =
        .ok transport.nextSequence { transport with nextSequence := next } := by
  have hsum : (transport.nextSequence + 1).toNat = transport.nextSequence.toNat + 1 := by
    rw [UInt64.toNat_add]
    exact Nat.mod_eq_of_lt hfree
  refine ⟨transport.nextSequence + 1, hsum, ?_⟩
  unfold takeSequence
  rw [run_get_bind, run_modify_bind, max_one_of_positive]
  · rfl
  · rw [hsum]
    exact Nat.le_add_left _ _

/-- Preparing a command takes its numbers off the counter, also when no frames come of it, and
leaves the file alone. -/
theorem wp_prepareFrames {command : AfeCommand}
    (hfree : transport.nextSequence.toNat + (HostCall.submit command).issues < 2 ^ 64)
    (hfirst : 1 ≤ transport.nextSequence) :
    wp (prepareFrames command)
      (fun prepared after ↦
        (after.file = transport.file ∧
          after.nextSequence.toNat =
            transport.nextSequence.toNat + (HostCall.submit command).issues) ∧
        prepared.2.map (fun frame ↦ frame.sequence.toNat) =
          List.range' transport.nextSequence.toNat (HostCall.submit command).issues)
      (fun _ after ↦ after.file = transport.file ∧
        after.nextSequence.toNat =
          transport.nextSequence.toNat + (HostCall.submit command).issues) transport := by
  cases hvalid : command.validate with
  | error err =>
    simp [prepareFrames, HostCall.issues, hvalid, Except.mapError]
  | ok _ =>
    cases hcount : RpuWireCommand.frameCountForAfeCommand command with
    | error err =>
      simp [prepareFrames, HostCall.issues, hvalid, hcount, Except.mapError]
    | ok count =>
      have hissues : (HostCall.submit command).issues = count := by
        simp only [HostCall.issues, hvalid, hcount]
      rw [hissues] at hfree ⊢
      obtain ⟨next, hnext, hreserve⟩ := reserveSequences_eq hfree hfirst
      simp only [prepareFrames, hvalid, hcount, Except.mapError, ofResult_ok, pure_bind]
      rw [wp_bind, wp, hreserve]
      dsimp only
      rw [wp_bind, wp_ofResult]
      refine ⟨fun frames hframes ↦ ⟨⟨rfl, hnext⟩, ?_⟩, fun _ _ ↦ ⟨rfl, hnext⟩⟩
      cases hbuilt : RpuWireCommand.fromAfeCommandSequence transport.nextSequence command with
      | error err =>
        rw [hbuilt] at hframes
        cases hframes
      | ok built =>
        rw [hbuilt] at hframes
        cases hframes
        exact sequences_of_command hcount hbuilt hfirst hfree.le

end Allocators

/-! ## Transactions of a run -/

section Runs

variable {F : Type} [RpmsgFile F]

/-- The transport after a call, whatever it returned. -/
def afterCall (transport : RpmsgAfeTransport F) : HostCall → RpmsgAfeTransport F
  | .status => final status transport
  | .submit command => final (submitAfeCommand command) transport

/-- A call of `transact`. -/
structure Exchange (F : Type) where
  command : RpuWireCommand
  transport : RpmsgAfeTransport F

/-- The transactions in which frames are sent. -/
def exchangesOfFrames : List RpuWireCommand → RpmsgAfeTransport F → List (Exchange F)
  | [], _ => []
  | frame :: frames, transport =>
    ⟨frame, transport⟩ ::
      match transact frame transport with
      | .ok _ after => exchangesOfFrames frames after
      | .error _ _ => []

/-- The transactions of a call. -/
def exchanges (transport : RpmsgAfeTransport F) : HostCall → List (Exchange F)
  | .status =>
    match takeSequence transport with
    | .ok sequence after => [⟨.status sequence, after⟩]
    | .error _ _ => []
  | .submit command =>
    match prepareFrames command transport with
    | .ok (_, frames) after => exchangesOfFrames frames after
    | .error _ _ => []

/-- The transactions of a run of calls. -/
def exchangesOfRun : List HostCall → RpmsgAfeTransport F → List (Exchange F)
  | [], _ => []
  | call :: calls, transport =>
    exchanges transport call ++ exchangesOfRun calls (afterCall transport call)

/-- The transport after a run of calls. -/
def afterRun (calls : List HostCall) (transport : RpmsgAfeTransport F) : RpmsgAfeTransport F :=
  calls.foldl afterCall transport

/-- The transport after frames were sent, up to the first one without an accepted reply. -/
def afterFrames : List RpuWireCommand → RpmsgAfeTransport F → RpmsgAfeTransport F
  | [], transport => transport
  | frame :: frames, transport =>
    match transact frame transport with
    | .ok _ after => afterFrames frames after
    | .error _ after => after

theorem final_sendFrames (frameCount idx : ℕ) (finalReply : Option RpuWireReply)
    (frames : List RpuWireCommand) (transport : RpmsgAfeTransport F) :
    final (sendFrames frameCount idx finalReply frames) transport =
      afterFrames frames transport := by
  induction frames generalizing idx finalReply transport with
  | nil => rfl
  | cons frame frames ih =>
    simp only [sendFrames, afterFrames, final, run_bind, mapError]
    cases transact frame transport with
    | ok reply after => exact ih _ _ after
    | error abort after => cases abort <;> rfl

theorem afterCall_status (transport : RpmsgAfeTransport F) :
    afterCall transport .status =
      match takeSequence transport with
      | .ok sequence after => final (transact (.status sequence)) after
      | .error _ after => after := by
  simp only [afterCall, status, final, run_bind]
  cases takeSequence transport with
  | error abort after => rfl
  | ok sequence after =>
    dsimp only
    cases transact (.status sequence) after <;> rfl

theorem afterCall_submit (transport : RpmsgAfeTransport F) (command : AfeCommand) :
    afterCall transport (.submit command) =
      match prepareFrames command transport with
      | .ok (_, frames) after => afterFrames frames after
      | .error _ after => after := by
  simp only [afterCall, submitAfeCommand, final, run_bind]
  cases prepareFrames command transport with
  | error abort after => rfl
  | ok prepared after =>
    obtain ⟨frameCount, frames⟩ := prepared
    dsimp only
    rw [← final_sendFrames frameCount 0 none frames after, final]
    cases sendFrames frameCount 0 none frames after with
    | error abort after => rfl
    | ok finalReply after => cases finalReply <;> rfl

/-- Preparing frames does not touch the file. -/
theorem within_prepareFrames {F : Type} (command : AfeCommand) :
    Within (.keeps fun transport : RpmsgAfeTransport F ↦ transport.file)
      (prepareFrames command) := by
  have hreserve (count : ℕ) :
      Within (.keeps fun transport : RpmsgAfeTransport F ↦ transport.file)
        (reserveSequences count) :=
    within_bind within_get fun _ ↦ within_ite (within_pure _) <|
      within_bind (within_modify fun _ ↦ rfl) fun _ ↦ within_pure _
  exact within_bind (within_ofResult _) fun _ ↦ within_bind (within_ofResult _) fun count ↦
    within_bind (hreserve count) fun _ ↦ within_bind (within_ofResult _) fun _ ↦ within_pure _

theorem within_takeSequence {F : Type} :
    Within (.keeps fun transport : RpmsgAfeTransport F ↦ transport.file) takeSequence :=
  within_bind within_get fun _ ↦ within_bind (within_modify fun _ ↦ rfl) fun _ ↦ within_pure _

theorem within_waitReadable {B : Bound (RpmsgAfeTransport F)}
    (hpoll : ∀ timeoutMs, Within B (io "polling RPU transport" (RpmsgFile.poll timeoutMs))) :
    Within B waitReadable := by
  unfold waitReadable
  refine within_bind within_get fun _ ↦ within_bind (hpoll _) fun events ↦ ?_
  cases events with
  | none => exact within_fail _
  | some revents => exact within_failIf _ _

omit [RpmsgFile F] in
theorem within_accept {B : Bound (RpmsgAfeTransport F)}
    (hnote : ∀ reply transport, B.rel transport (noteReply reply transport))
    (command : RpuWireCommand) (bytes : Vector UInt8 rpuWireReplyLen) :
    Within B (acceptReply command bytes) := by
  unfold acceptReply
  refine within_bind (within_ofResult _) fun _ ↦ within_bind (within_failIf _ _) fun _ ↦ ?_
  exact within_bind (within_modify (hnote _)) fun _ ↦ within_pure _

/-- Sending frames does not touch the counter. -/
theorem within_transact (command : RpuWireCommand) :
    Within (.keeps fun transport : RpmsgAfeTransport F ↦ transport.nextSequence)
      (transact command) := by
  have hio : ∀ {α : Type} (doing : String) (m : Prog String F α),
      Within (.keeps fun transport : RpmsgAfeTransport F ↦ transport.nextSequence) (io doing m) :=
    fun _ m ↦ within_mapError (within_zoom (within_top m) fun _ _ _ ↦ rfl)
  unfold transact
  refine within_bind (hio _ _) fun _ ↦ within_bind (hio _ _) fun _ ↦ ?_
  refine within_bind (within_waitReadable fun _ ↦ hio _ _) fun _ ↦ ?_
  exact within_bind (hio _ _) fun _ ↦ within_accept (fun _ _ ↦ rfl) _ _

end Runs

/-! ## A rule for runs -/

/-- The frames sent so far carry increasing numbers below the next one. -/
structure NumberedBelow (sent : List RpuWireCommand) (next : ℕ) : Prop where
  increasing : (sent.map fun frame ↦ frame.sequence.toNat).Pairwise (· < ·)
  below : ∀ frame ∈ sent, frame.sequence.toNat < next

section Rule

variable {F : Type} [RpmsgFile F] {I : List RpuWireCommand → F → Prop} {Q : Exchange F → Prop}

/-- A transaction that sends a frame with a new number has the property, and keeps the invariant. -/
def TransactionRule (I : List RpuWireCommand → F → Prop) (Q : Exchange F → Prop) : Prop :=
  ∀ sent command transport, I sent transport.file →
    NumberedBelow sent command.sequence.toNat → 1 ≤ command.sequence.toNat →
    Q ⟨command, transport⟩ ∧ I (sent ++ [command]) (final (transact command) transport).file

theorem NumberedBelow.mono {sent : List RpuWireCommand} {next next' : ℕ}
    (h : NumberedBelow sent next) (hle : next ≤ next') : NumberedBelow sent next' :=
  ⟨h.increasing, fun frame hmem ↦ (h.below frame hmem).trans_le hle⟩

theorem NumberedBelow.append {sent : List RpuWireCommand} {next : ℕ} {frame : RpuWireCommand}
    (h : NumberedBelow sent frame.sequence.toNat) (hframe : frame.sequence.toNat < next) :
    NumberedBelow (sent ++ [frame]) next := by
  constructor
  · rw [List.map_append, List.map_singleton, List.pairwise_append]
    refine ⟨h.increasing, List.pairwise_singleton _ _, fun a ha b hb ↦ ?_⟩
    obtain ⟨earlier, hmem, rfl⟩ := List.mem_map.mp ha
    rw [List.mem_singleton.mp hb]
    exact h.below earlier hmem
  · intro other hmem
    rcases List.mem_append.mp hmem with hmem | hmem
    · exact (h.below other hmem).trans hframe
    · rwa [List.mem_singleton.mp hmem]

theorem exchangesOfFrames_rule (hrule : TransactionRule I Q) {frames : List RpuWireCommand}
    {first count : ℕ} (hfirst : 1 ≤ first)
    (hframes : frames.map (fun frame ↦ frame.sequence.toNat) = List.range' first count)
    {sent : List RpuWireCommand} {transport : RpmsgAfeTransport F} (hI : I sent transport.file)
    (hsent : NumberedBelow sent first) :
    (∀ exchange ∈ exchangesOfFrames frames transport, Q exchange) ∧
      ∃ sent', I sent' (afterFrames frames transport).file ∧
        NumberedBelow sent' (first + count) := by
  induction frames generalizing first count sent transport with
  | nil => exact ⟨by simp [exchangesOfFrames], sent, hI, hsent.mono (Nat.le_add_right _ _)⟩
  | cons frame frames ih =>
    obtain ⟨count, rfl⟩ : ∃ n, count = n + 1 := by
      apply Nat.exists_eq_succ_of_ne_zero
      rintro rfl
      cases hframes
    rw [List.map_cons, List.range'_succ, List.cons.injEq] at hframes
    obtain ⟨hnumber, hrest⟩ := hframes
    obtain ⟨hQ, hI'⟩ := hrule sent frame transport hI (hnumber ▸ hsent) (hnumber ▸ hfirst)
    have hsent' : NumberedBelow (sent ++ [frame]) (first + 1) :=
      (NumberedBelow.append (hnumber ▸ hsent) (hnumber ▸ Nat.lt_succ_self first))
    have hcount : first + 1 + count = first + (count + 1) := by omega
    unfold exchangesOfFrames afterFrames
    cases htransact : transact frame transport with
    | error abort after =>
      rw [final_of_error htransact] at hI'
      exact ⟨by simpa using hQ, sent ++ [frame], hI', hsent'.mono (by omega)⟩
    | ok reply after =>
      rw [final_of_ok htransact] at hI'
      obtain ⟨hall, hafter⟩ := ih (Nat.le_add_left 1 first) hrest hI' hsent'
      rw [hcount] at hafter
      refine ⟨fun exchange hmem ↦ ?_, hafter⟩
      rcases List.mem_cons.mp hmem with rfl | hmem
      · exact hQ
      · exact hall exchange hmem

theorem nextSequence_afterFrames (frames : List RpuWireCommand) (transport : RpmsgAfeTransport F) :
    (afterFrames frames transport).nextSequence = transport.nextSequence := by
  induction frames generalizing transport with
  | nil => rfl
  | cons frame frames ih =>
    have hkeeps := Bound.keeps_rel.mp ((within_transact frame).final transport)
    unfold afterFrames
    cases htransact : transact frame transport with
    | error abort after =>
      rw [final_of_error htransact] at hkeeps
      exact hkeeps
    | ok reply after =>
      rw [final_of_ok htransact] at hkeeps
      exact (ih after).trans hkeeps

/-- A call takes its numbers, and the property holds of its transactions. -/
theorem exchanges_rule (hrule : TransactionRule I Q) (call : HostCall)
    {sent : List RpuWireCommand} {transport : RpmsgAfeTransport F} (hI : I sent transport.file)
    (hsent : NumberedBelow sent transport.nextSequence.toNat) (hfirst : 1 ≤ transport.nextSequence)
    (hissued : transport.nextSequence.toNat + call.issues < 2 ^ 64) :
    (∀ exchange ∈ exchanges transport call, Q exchange) ∧
      (afterCall transport call).nextSequence.toNat =
        transport.nextSequence.toNat + call.issues ∧
      ∃ sent', I sent' (afterCall transport call).file ∧
        NumberedBelow sent' (transport.nextSequence.toNat + call.issues) := by
  have hpositive : 1 ≤ transport.nextSequence.toNat := UInt64.le_iff_toNat_le.mp hfirst
  cases call with
  | status =>
    obtain ⟨next, hnext, htake⟩ := takeSequence_eq hissued
    rw [afterCall_status, exchanges, htake]
    have hnumber : (RpuWireCommand.status transport.nextSequence).sequence.toNat =
        transport.nextSequence.toNat := rfl
    obtain ⟨hQ, hI'⟩ := hrule sent (.status transport.nextSequence)
      { transport with nextSequence := next } hI (hnumber ▸ hsent) hpositive
    have hkeeps := Bound.keeps_rel.mp
      ((within_transact (.status transport.nextSequence)).final
        { transport with nextSequence := next })
    refine ⟨by simpa using hQ, ?_, _, hI', NumberedBelow.append (hnumber ▸ hsent) ?_⟩
    · exact (congrArg UInt64.toNat hkeeps).trans hnext
    · exact Nat.lt_succ_self _
  | submit command =>
    have hprepared := wp_prepareFrames hissued hfirst
    rw [afterCall_submit, exchanges]
    unfold wp at hprepared
    cases hprepare : prepareFrames command transport with
    | error abort after =>
      rw [hprepare] at hprepared
      obtain ⟨hfile, hnext⟩ := hprepared
      refine ⟨by simp, hnext, sent, ?_, hsent.mono (Nat.le_add_right _ _)⟩
      dsimp only
      rwa [hfile]
    | ok prepared after =>
      rw [hprepare] at hprepared
      obtain ⟨⟨hfile, hnext⟩, hnumbers⟩ := hprepared
      obtain ⟨hall, hafter⟩ :=
        exchangesOfFrames_rule hrule hpositive hnumbers (hfile ▸ hI) hsent
      refine ⟨hall, ?_, hafter⟩
      dsimp only
      rw [nextSequence_afterFrames, hnext]

/-- As long as the counter does not overflow, what holds of a transaction with a new number holds of
every transaction of a run. -/
theorem exchangesOfRun_rule (hrule : TransactionRule I Q) (calls : List HostCall)
    {sent : List RpuWireCommand} {transport : RpmsgAfeTransport F} (hI : I sent transport.file)
    (hsent : NumberedBelow sent transport.nextSequence.toNat) (hfirst : 1 ≤ transport.nextSequence)
    (hissued : transport.nextSequence.toNat + (calls.map HostCall.issues).sum < 2 ^ 64) :
    ∀ exchange ∈ exchangesOfRun calls transport, Q exchange := by
  induction calls generalizing sent transport with
  | nil => simp [exchangesOfRun]
  | cons call calls ih =>
    rw [List.map_cons, List.sum_cons] at hissued
    obtain ⟨hcall, hnext, sent', hI', hsent'⟩ :=
      exchanges_rule hrule call hI hsent hfirst (by omega)
    rw [← hnext] at hsent'
    have hfirst' : 1 ≤ (afterCall transport call).nextSequence := by
      have hpositive := UInt64.le_iff_toNat_le.mp hfirst
      rw [UInt64.le_iff_toNat_le, hnext]
      exact hpositive.trans (Nat.le_add_right _ _)
    intro exchange hmem
    rcases List.mem_append.mp hmem with hmem | hmem
    · exact hcall exchange hmem
    · exact ih hI' hsent' hfirst' (by omega) exchange hmem

end Rule

end DaphneSc.Server.Rpmsg
