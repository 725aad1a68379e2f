import DaphneSc.Rpu.Mmio
import DaphneSc.Server.Calls
import DaphneSc.Server.NoisyLink

/-!
# Replies and their frames

On a link with delays and corrupted frames every frame and every reply on its way belongs to one of
the frames sent. Sequence numbers increase from frame to frame and are never zero, so the only reply
a transaction accepts is the one computed for its own frame.
-/

namespace DaphneSc.Server.Rpmsg

open Core.Afe Core.RpuWire Core.Rpu Rpu.Runtime Rpu.Mmio Program FrameDevice RpmsgAfeTransport

variable {H ε : Type} [AfeHardware H ε]

/-! ## What is on its way -/

/-- The bytes delivered for a frame. -/
def deliveredBytes (noise : ℕ → Option Garbage) (number : ℕ) (command : RpuWireCommand) :
    Vector UInt8 rpuWireCommandLen :=
  match noise number with
  | some garbage => garbage.bytes
  | none => command.encode

/-- One of the frames sent, as it is delivered. -/
def InFlight (noise : ℕ → Option Garbage) (sent : List RpuWireCommand)
    (frame : Numbered rpuWireCommandLen) : Prop :=
  ∃ command, sent[frame.frame]? = some command ∧
    frame.bytes = deliveredBytes noise frame.frame command

/-- The runtime computed the reply from what was delivered for one of the frames sent. -/
def Computed (H : Type) {ε : Type} [AfeHardware H ε] (noise : ℕ → Option Garbage)
    (sent : List RpuWireCommand) (answer : Numbered rpuWireReplyLen) : Prop :=
  ∃ command, sent[answer.frame]? = some command ∧ ∃ runtime runtime' : RpuRuntime H,
    RpuRuntime.handleFrame (deliveredBytes noise answer.frame command) runtime =
      .ok answer.bytes runtime'

/-- Everything on the link belongs to one of the frames sent. -/
structure Accounted (noise : ℕ → Option Garbage) (sent : List RpuWireCommand)
    (link : NoisyLink H) : Prop where
  noise_eq : link.noise = noise
  written : link.written = sent.length
  frames : ∀ frame ∈ link.frames.unread, InFlight noise sent frame
  replies : ∀ answer ∈ link.replies.unread, Computed H noise sent answer

section Steps

variable {noise : ℕ → Option Garbage} {sent : List RpuWireCommand} {link : NoisyLink H}

theorem getElem?_append_of_some {command frame : RpuWireCommand} {i : ℕ}
    (h : sent[i]? = some command) : (sent ++ [frame])[i]? = some command := by
  obtain ⟨hi, -⟩ := List.getElem?_eq_some_iff.mp h
  rwa [List.getElem?_append_left hi]

theorem NoisyLink.handle_of_ok (link : NoisyLink H) (frame : Numbered rpuWireCommandLen)
    {reply : Vector UInt8 rpuWireReplyLen} {runtime : RpuRuntime H}
    (h : RpuRuntime.handleFrame frame.bytes ((link.interlocks frame.frame).foldl
      (fun runtime interlock ↦ runtime.setInterlock interlock) link.runtime) = .ok reply runtime) :
    link.handle frame =
      { link with runtime := runtime, replies := link.replies.send ⟨frame.frame, reply⟩ } := by
  unfold NoisyLink.handle
  dsimp only
  rw [h]

/-- The next frame written is delivered as the noise says. -/
theorem delivered_encode (h : Accounted noise sent link) (command : RpuWireCommand) :
    link.delivered command.encode = deliveredBytes noise link.written command := by
  cases hnoise : noise link.written <;>
    simp [NoisyLink.delivered, deliveredBytes, h.noise_eq, hnoise]

theorem accounted_accept (h : Accounted noise sent link) (command : RpuWireCommand) :
    Accounted noise (sent ++ [command]) (accept link command.encode) := by
  constructor
  · exact h.noise_eq
  · simpa [accept] using h.written
  · intro frame hmem
    simp only [accept, DelayedQueue.unread_send, List.mem_append, List.mem_singleton] at hmem
    rcases hmem with hmem | rfl
    · obtain ⟨earlier, hsent, hbytes⟩ := h.frames frame hmem
      exact ⟨earlier, getElem?_append_of_some hsent, hbytes⟩
    · refine ⟨command, ?_, ?_⟩
      · simp [h.written]
      · exact delivered_encode h command
  · intro answer hmem
    obtain ⟨earlier, hsent, hcomputed⟩ := h.replies answer hmem
    exact ⟨earlier, getElem?_append_of_some hsent, hcomputed⟩

/-- Handling a frame turns it into a reply computed for it. -/
theorem accounted_handle (h : Accounted noise sent link) {frame : Numbered rpuWireCommandLen}
    (hframe : InFlight noise sent frame) : Accounted noise sent (link.handle frame) := by
  obtain ⟨command, hsent, hbytes⟩ := hframe
  unfold NoisyLink.handle
  dsimp only
  split
  · rename_i reply runtime hresult
    refine ⟨h.noise_eq, h.written, h.frames, fun answer hmem ↦ ?_⟩
    simp only [DelayedQueue.unread_send, List.mem_append, List.mem_singleton] at hmem
    rcases hmem with hmem | rfl
    · exact h.replies answer hmem
    · rw [hbytes] at hresult
      exact ⟨command, hsent, _, _, hresult⟩
  · exact ⟨h.noise_eq, h.written, h.frames, h.replies⟩

theorem accounted_foldl_handle (h : Accounted noise sent link)
    (frames : List (Numbered rpuWireCommandLen))
    (hframes : ∀ frame ∈ frames, InFlight noise sent frame) :
    Accounted noise sent (frames.foldl NoisyLink.handle link) := by
  induction frames generalizing link with
  | nil => exact h
  | cons frame frames ih =>
    rw [List.forall_mem_cons] at hframes
    exact ih (accounted_handle h hframes.1) hframes.2

theorem accounted_wait (h : Accounted noise sent link) : Accounted noise sent (wait link) := by
  have hunread : ∀ frame ∈ (link.frames.arrive (link.deliveries 0)).unread,
      InFlight noise sent frame := by
    intro frame hmem
    rw [DelayedQueue.unread_arrive] at hmem
    exact h.frames frame hmem
  have hhandled : Accounted noise sent link.handleDelivered := by
    apply accounted_foldl_handle
    · refine ⟨h.noise_eq, h.written, fun frame hmem ↦ hunread frame ?_, h.replies⟩
      exact List.mem_append_right _ hmem
    · exact fun frame hmem ↦ hunread frame (List.mem_append_left _ hmem)
  refine ⟨hhandled.noise_eq, hhandled.written, hhandled.frames, fun answer hmem ↦ ?_⟩
  simp only [wait, DelayedQueue.unread_arrive] at hmem
  exact hhandled.replies answer hmem

end Steps

/-! ## Accepted replies -/

/-- Sequence numbers identify the frames sent. -/
theorem eq_of_sequence_eq {sent : List RpuWireCommand}
    (h : (sent.map fun frame ↦ frame.sequence.toNat).Pairwise (· < ·)) {i j : ℕ}
    {frame other : RpuWireCommand} (hi : sent[i]? = some frame) (hj : sent[j]? = some other)
    (hsame : frame.sequence = other.sequence) : i = j := by
  have hinjective : (sent.map fun frame ↦ frame.sequence.toNat).Nodup :=
    h.imp fun hlt ↦ Nat.ne_of_lt hlt
  obtain ⟨hlt, -⟩ := List.getElem?_eq_some_iff.mp hi
  apply (List.getElem?_inj (by simpa using hlt) hinjective).mp
  simp [hi, hj, hsame]

/-- The reply a transaction returns was computed from the frame it sent, as it was sent. -/
def AnswersFrame (exchange : Exchange (NoisyLink H)) (reply : RpuWireReply) : Prop :=
  let link := exchange.transport.file
  ∃ answer replies, (polled link exchange.command).replies.receive = some (answer, replies) ∧
    RpuWireReply.decode answer.bytes.toList = .ok reply ∧ answer.frame = link.written ∧
    ∃ runtime runtime' : RpuRuntime H,
      RpuRuntime.handleFrame exchange.command.encode runtime = .ok answer.bytes runtime'

variable {noise : ℕ → Option Garbage}

/-- A reply with the number of the last frame sent was computed for that frame. -/
theorem computed_of_sequence {sent : List RpuWireCommand} {command : RpuWireCommand}
    (hnumbered : NumberedBelow sent command.sequence.toNat) (hpositive : 1 ≤ command.sequence.toNat)
    {answer : Numbered rpuWireReplyLen} (h : Computed H noise (sent ++ [command]) answer)
    {reply : RpuWireReply} (hdecode : RpuWireReply.decode answer.bytes.toList = .ok reply)
    (hsequence : reply.sequence = command.sequence) :
    answer.frame = sent.length ∧ ∃ runtime runtime' : RpuRuntime H,
      RpuRuntime.handleFrame command.encode runtime = .ok answer.bytes runtime' := by
  obtain ⟨other, hother, runtime, runtime', hresult⟩ := h
  obtain ⟨reply', hencode, hanswered⟩ := RpuRuntime.sequence_handleFrame hresult
  rw [hencode, RpuWireReply.decode_encode] at hdecode
  cases hdecode
  unfold deliveredBytes at hresult hanswered
  cases hnoise : noise answer.frame with
  | some garbage =>
    -- Garbage is answered with the number zero, which no frame carries.
    obtain ⟨err, hundecodable⟩ := garbage.undecodable
    simp only [hnoise, hundecodable] at hanswered
    rw [← hsequence, hanswered] at hpositive
    exact absurd hpositive (by decide)
  | none =>
    simp only [hnoise, RpuWireCommand.decode_encode] at hresult hanswered
    have hlast : (sent ++ [command])[sent.length]? = some command := by simp
    have hincreasing : NumberedBelow (sent ++ [command]) (command.sequence.toNat + 1) :=
      hnumbered.append (Nat.lt_succ_self _)
    have hframe : answer.frame = sent.length :=
      eq_of_sequence_eq hincreasing.increasing hother hlast (hanswered.symm.trans hsequence)
    rw [hframe, hlast] at hother
    cases hother
    exact ⟨hframe, runtime, runtime', hresult⟩

/-- A transaction accepts only the reply computed for its own frame, and everything on the link
stays accounted for. -/
theorem transactionRule_accounted :
    TransactionRule (Accounted (H := H) noise)
      (fun exchange ↦ ∀ reply after,
        transact exchange.command exchange.transport = .ok reply after →
        AnswersFrame exchange reply) := by
  intro sent command transport hI hnumbered hpositive
  have hpolled : Accounted noise (sent ++ [command]) (polled transport.file command) :=
    accounted_wait (accounted_accept hI command)
  unfold AnswersFrame
  dsimp only
  rw [transact_eq]
  cases hreceive : receive (polled transport.file command) with
  | none =>
    rw [file_transact_of_none hreceive]
    exact ⟨fun _ _ haccept ↦ (nomatch haccept), hpolled⟩
  | some pair =>
    obtain ⟨bytes, rest⟩ := pair
    rw [file_transact_of_some hreceive]
    simp only [receive, Option.map_eq_some_iff, Prod.mk.injEq] at hreceive
    obtain ⟨⟨answer, replies⟩, hreplies, rfl, rfl⟩ := hreceive
    have hunread := DelayedQueue.unread_of_receive hreplies
    constructor
    · intro reply after haccept
      obtain ⟨hdecode, hsequence, -⟩ := acceptReply_eq_ok_iff.mp haccept
      have hcomputed := hpolled.replies answer (by rw [hunread]; exact List.mem_cons_self)
      obtain ⟨hframe, hresult⟩ :=
        computed_of_sequence hnumbered hpositive hcomputed hdecode hsequence
      exact ⟨answer, replies, hreplies, hdecode, hframe.trans hI.written.symm, hresult⟩
    · refine ⟨hpolled.noise_eq, hpolled.written, hpolled.frames, fun other hmem ↦ ?_⟩
      apply hpolled.replies
      rw [hunread]
      exact List.mem_cons_of_mem _ hmem

/-- In every run of calls that takes fewer than 2^64 - 2^18 sequence numbers, with any delays of
frames and replies and any corrupted frames, a reply that a transaction returns is the one the
runtime computed for the frame sent in that transaction. -/
theorem reply_answers_frame (link : NoisyLink H) (hframes : link.frames = .empty)
    (hreplies : link.replies = .empty) (hwritten : link.written = 0) (timeout : ℕ)
    (calls : List HostCall) (hissued : (calls.map HostCall.issues).sum < 2 ^ 64 - 2 ^ 18) :
    ∀ exchange ∈ exchangesOfRun calls (RpmsgAfeTransport.open link timeout), ∀ reply after,
      transact exchange.command exchange.transport = .ok reply after →
        AnswersFrame exchange reply := by
  have hfresh : Accounted link.noise [] link := by
    refine ⟨rfl, hwritten, fun frame hmem ↦ ?_, fun answer hmem ↦ ?_⟩
    · rw [hframes] at hmem
      cases hmem
    · rw [hreplies] at hmem
      cases hmem
  have hone : (RpmsgAfeTransport.open link timeout).nextSequence.toNat = 1 := rfl
  apply exchangesOfRun_rule transactionRule_accounted calls hfresh
  · exact ⟨List.Pairwise.nil, fun frame hmem ↦ absurd hmem List.not_mem_nil⟩
  · exact UInt64.le_refl 1
  · rw [hone]
    omega

/-! ## A run with a late reply -/

/-- A link to a runtime that has answered `k` status frames, the reply to the second of which
arrives one poll late. -/
def lateLink (k : ℕ) (replies : DelayedQueue (Numbered rpuWireReplyLen)) :
    NoisyLink (AfeMmioBackend ZeroIo) where
  runtime := { RpuRuntime.new (.new ZeroIo.mk) with heartbeat := UInt64.ofNat k }
  written := k
  frames := .empty
  replies := replies
  noise _ := none
  interlocks _ := []
  deliveries _ := 1
  arrivals poll := if poll + k = 1 then 0 else 2

def statusReply (k : ℕ) : RpuWireReply :=
  ⟨UInt64.ofNat k, .applied, some 63, UInt64.ofNat k, 0, 63⟩

theorem polled_lateLink (k : ℕ) (replies : DelayedQueue (Numbered rpuWireReplyLen)) :
    polled (lateLink k replies) (.status (UInt64.ofNat (k + 1))) =
      lateLink (k + 1) ((replies.send ⟨k, (statusReply (k + 1)).encode⟩).arrive
        (if k = 1 then 0 else 2)) := by
  let command := RpuWireCommand.status (UInt64.ofNat (k + 1))
  let accepted := accept (lateLink k replies) command.encode
  have hresult : RpuRuntime.handleFrame command.encode (lateLink k replies).runtime =
      .ok (statusReply (k + 1)).encode (lateLink (k + 1) replies).runtime := by
    have htick : (lateLink k replies).runtime.tick = (lateLink (k + 1) replies).runtime := by
      simp only [RpuRuntime.tick, lateLink, UInt64.ofNat_add]
      rfl
    have hreply : RpuRuntime.answer command (lateLink (k + 1) replies).runtime .applied (some 63) 0
        63 = statusReply (k + 1) := rfl
    have hinterlock : (lateLink k replies).runtime.interlock = .default := rfl
    have hfault : InterlockState.default.faultCode = 0 := rfl
    have hcode : InterlockState.default.code = 63 := rfl
    rw [RpuRuntime.handleFrame_of_status (RpuWireCommand.decode_encode command) rfl, htick,
      hinterlock, hfault, hcode, if_pos rfl, hreply]
  let handled : NoisyLink (AfeMmioBackend ZeroIo) := { accepted with frames := .empty }
  have hdelivered : accepted.handleDelivered = { handled with
      runtime := (lateLink (k + 1) replies).runtime
      replies := replies.send ⟨k, (statusReply (k + 1)).encode⟩ } :=
    NoisyLink.handle_of_ok handled ⟨k, command.encode⟩ hresult
  simp only [polled, wait]
  rw [hdelivered]
  simp only [handled, accepted, accept, lateLink, Nat.add_assoc, Nat.add_comm 1, zero_add,
    DelayedQueue.empty]
  

abbrev LateTransport := RpmsgAfeTransport (NoisyLink (AfeMmioBackend ZeroIo))

/-- The first of three status calls gets its reply. -/
def timely : LateTransport := ⟨lateLink 0 .empty, 2, 1000, none, none⟩

/-- The reply to the second one is late. -/
def late : LateTransport := ⟨lateLink 1 .empty, 3, 1000, some 1, none⟩

/-- By the poll of the third one both replies have arrived. -/
def behind : LateTransport :=
  ⟨lateLink 2 (DelayedQueue.empty.send ⟨1, (statusReply 2).encode⟩), 4, 1000, some 1, none⟩

theorem transact_timely :
    transact (.status 1) timely = .ok (statusReply 1) { late with nextSequence := 2 } := by
  rw [transact_eq, timely, show (1 : UInt64) = UInt64.ofNat (0 + 1) from rfl]
  dsimp only
  rw [polled_lateLink]
  exact acceptReply_of_eq (RpuWireReply.decode_encode (statusReply 1)) rfl

theorem transact_late :
    transact (.status 2) late = .error (.error .timeout) { behind with nextSequence := 3 } := by
  rw [transact_eq, late, show (2 : UInt64) = UInt64.ofNat (1 + 1) from rfl]
  dsimp only
  rw [polled_lateLink]
  rfl

theorem transact_behind : ∃ after, transact (.status 3) behind =
    .error (.error (.transport "RPU reply sequence mismatch: sent 3, got 2")) after := by
  rw [transact_eq, behind, show (3 : UInt64) = UInt64.ofNat (2 + 1) from rfl]
  dsimp only
  rw [polled_lateLink]
  exact ⟨_, acceptReply_of_ne (RpuWireReply.decode_encode (statusReply 2)) (by decide)⟩

theorem exchangesOfRun_late : exchangesOfRun [.status, .status, .status]
    (RpmsgAfeTransport.open (lateLink 0 .empty) 1000) =
      [⟨.status 1, timely⟩, ⟨.status 2, late⟩, ⟨.status 3, behind⟩] := by
  have hfirst : takeSequence (RpmsgAfeTransport.open (lateLink 0 .empty) 1000) = .ok 1 timely := rfl
  have hsecond : takeSequence { late with nextSequence := 2 } = .ok 2 late := rfl
  have hthird : takeSequence { behind with nextSequence := 3 } = .ok 3 behind := rfl
  simp only [exchangesOfRun, exchanges, afterCall_status, hfirst, final_of_ok transact_timely,
    hsecond, final_of_error transact_late, hthird, List.singleton_append]

/-- The first call returns the reply computed for its frame, and no other call returns one. -/
theorem reply_answers_frame_late :
    exchangesOfRun [.status, .status, .status] (RpmsgAfeTransport.open (lateLink 0 .empty) 1000) =
        [⟨.status 1, timely⟩, ⟨.status 2, late⟩, ⟨.status 3, behind⟩] ∧
      (∃ after, transact (.status 2) late = .error (.error .timeout) after) ∧
      (∃ after, transact (.status 3) behind =
        .error (.error (.transport "RPU reply sequence mismatch: sent 3, got 2")) after) ∧
      ∃ reply after, transact (.status 1) timely = .ok reply after ∧
        AnswersFrame ⟨.status 1, timely⟩ reply := by
  refine ⟨exchangesOfRun_late, ⟨_, transact_late⟩, transact_behind, _, _, transact_timely, ?_⟩
  apply reply_answers_frame (lateLink 0 .empty) rfl rfl rfl 1000 [.status, .status, .status]
    (by decide) ⟨.status 1, timely⟩
  · rw [exchangesOfRun_late]
    exact List.mem_cons_self
  · exact transact_timely

end DaphneSc.Server.Rpmsg
