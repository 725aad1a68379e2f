import DaphneSc.Rpu.Mmio
import DaphneSc.Server.Link
import Mathlib.Data.List.Induction

/-!
# Late replies

A transaction that finds no unread reply gets the reply to its own frame, once that has arrived. A
transaction that finds one takes the oldest for the reply to its own frame: the sequence numbers
differ, or at least the heartbeats do, so what it returns is not the reply to its frame. Nothing
reads the surplus replies, so after one timeout the link stays behind.
-/

namespace DaphneSc.Server.Rpmsg

open Core.Afe Core.RpuWire Core.Rpu Rpu.Runtime Rpu.Mmio Program FrameDevice RpmsgAfeTransport

variable {H ε : Type} [AfeHardware H ε]

/-! ## Heartbeats -/

/-- Handling a frame advances the heartbeat by one, and the reply carries the new one. -/
theorem heartbeat_handleFrame (input : Vector UInt8 rpuWireCommandLen) (runtime : RpuRuntime H) :
    (final (RpuRuntime.handleFrame input) runtime).heartbeat = runtime.heartbeat + 1 ∧
      ∀ bytes runtime', RpuRuntime.handleFrame input runtime = .ok bytes runtime' →
        ∃ reply : RpuWireReply, bytes = reply.encode ∧
          reply.heartbeat = runtime.heartbeat + 1 := by
  have hhandles := RpuRuntime.handles input runtime
  unfold final
  generalize RpuRuntime.handleFrame input runtime = result at hhandles
  cases hhandles
  case panicked => exact ⟨rfl, fun _ _ h ↦ by cases h⟩
  all_goals
    refine ⟨rfl, fun bytes runtime' h ↦ ?_⟩
    cases h
    exact ⟨_, rfl, rfl⟩

theorem heartbeat_setInterlocks (runtime : RpuRuntime H) (interlocks : List InterlockState) :
    (setInterlocks runtime interlocks).heartbeat = runtime.heartbeat := by
  induction interlocks generalizing runtime with
  | nil => rfl
  | cons interlock interlocks ih => exact ih _

/-- Every unread reply was sent fewer than `count` heartbeats ago. -/
def Aged (count : ℕ) (link : Link H) : Prop :=
  ∀ bytes ∈ link.replies.unread, ∃ (reply : RpuWireReply) (age : ℕ), bytes = reply.encode ∧
    age < count ∧
    link.runtime.heartbeat = reply.heartbeat + UInt64.ofNat age

/-! ## The queue during a transaction -/

theorem handle_of_ok {link : Link H} {bytes : Vector UInt8 rpuWireCommandLen}
    {reply : Vector UInt8 rpuWireReplyLen} {runtime : RpuRuntime H}
    (h : RpuRuntime.handleFrame bytes link.facing = .ok reply runtime) :
    (link.handle bytes).replies = link.replies.send reply := by
  rw [Link.handle, h]

theorem runtime_handle (link : Link H) (bytes : Vector UInt8 rpuWireCommandLen) :
    (link.handle bytes).runtime = final (RpuRuntime.handleFrame bytes) link.facing := by
  unfold Link.handle final
  cases RpuRuntime.handleFrame bytes link.facing <;> rfl

/-- The unread replies while a transaction polls. -/
theorem unread_polled (link : Link H) (command : RpuWireCommand) :
    (polled link command).replies.unread = (link.handle command.encode).replies.unread :=
  DelayedQueue.unread_arrive ..

theorem aged_handle {count : ℕ} {link : Link H} (h : Aged count link)
    (bytes : Vector UInt8 rpuWireCommandLen) : Aged (count + 1) (link.handle bytes) := by
  obtain ⟨hticked, hreply⟩ := heartbeat_handleFrame bytes link.facing
  have hheartbeat : (link.handle bytes).runtime.heartbeat = link.runtime.heartbeat + 1 := by
    rw [runtime_handle, hticked, Link.facing, heartbeat_setInterlocks]
  have hold : ∀ bytes ∈ link.replies.unread, ∃ (reply : RpuWireReply) (age : ℕ),
      bytes = reply.encode ∧ age < count + 1 ∧
        link.runtime.heartbeat + 1 = reply.heartbeat + UInt64.ofNat age := by
    intro bytes hmem
    obtain ⟨reply, age, hencode, hage, hsame⟩ := h bytes hmem
    refine ⟨reply, age + 1, hencode, Nat.succ_lt_succ hage, ?_⟩
    rw [hsame, UInt64.ofNat_add, UInt64.add_assoc]
    rfl
  unfold Aged
  rw [hheartbeat]
  intro other hmem
  cases hresult : RpuRuntime.handleFrame bytes link.facing with
  | error e runtime =>
    rw [Link.handle, hresult] at hmem
    exact hold other hmem
  | ok answer runtime =>
    rw [handle_of_ok hresult, DelayedQueue.unread_send, List.mem_append, List.mem_singleton] at hmem
    rcases hmem with hmem | rfl
    · exact hold other hmem
    · obtain ⟨reply, hencode, hnew⟩ := hreply _ _ hresult
      refine ⟨reply, 0, hencode, Nat.succ_pos count, ?_⟩
      rw [hnew, Link.facing, heartbeat_setInterlocks]
      simp

/-- After a transaction the runtime has handled the frame, and no reply is unread that was not. -/
theorem file_transact (command : RpuWireCommand) (transport : RpmsgAfeTransport (Link H)) :
    let link := transport.file.handle command.encode
    let file := (final (transact command) transport).file
    file.runtime = link.runtime ∧ file.interlocks = link.interlocks ∧
      ∀ bytes ∈ file.replies.unread, bytes ∈ link.replies.unread := by
  intro link file
  have hunread := unread_polled transport.file command
  cases hreceive : receive (polled transport.file command) with
  | none =>
    have hfile : file = polled transport.file command := file_transact_of_none hreceive
    rw [hfile]
    exact ⟨rfl, rfl, fun _ hmem ↦ hunread ▸ hmem⟩
  | some pair =>
    obtain ⟨bytes, rest⟩ := pair
    have hfile : file = rest := file_transact_of_some hreceive
    rw [hfile]
    simp only [receive, Option.map_eq_some_iff, Prod.mk.injEq] at hreceive
    obtain ⟨⟨answer, replies⟩, hreplies, rfl, rfl⟩ := hreceive
    refine ⟨rfl, rfl, fun other hmem ↦ ?_⟩
    rw [DelayedQueue.unread_of_receive hreplies] at hunread
    rw [← hunread]
    exact List.mem_cons_of_mem _ hmem

theorem aged_transact {count : ℕ} {transport : RpmsgAfeTransport (Link H)}
    (h : Aged count transport.file) (command : RpuWireCommand) :
    Aged (count + 1) (final (transact command) transport).file := by
  obtain ⟨hruntime, -, hunread⟩ := file_transact command transport
  have haged := aged_handle h command.encode
  intro bytes hmem
  rw [hruntime]
  exact haged bytes (hunread bytes hmem)

/-! ## Runs -/

/-- The transport after some transactions, whatever they returned. -/
def afterTransactions (transport : RpmsgAfeTransport (Link H)) (commands : List RpuWireCommand) :
    RpmsgAfeTransport (Link H) :=
  commands.foldl (fun transport command ↦ final (transact command) transport) transport

theorem aged_afterTransactions {transport : RpmsgAfeTransport (Link H)}
    (hfresh : transport.file.replies = .empty) (commands : List RpuWireCommand) :
    Aged commands.length (afterTransactions transport commands).file := by
  induction commands using List.reverseRecOn with
  | nil =>
    intro bytes hmem
    have hnone : (afterTransactions transport []).file.replies.unread = [] := by
      rw [afterTransactions, List.foldl_nil, hfresh]
      rfl
    rw [hnone] at hmem
    exact absurd hmem List.not_mem_nil
  | append_singleton commands command ih =>
    rw [afterTransactions, List.foldl_concat, List.length_append]
    exact aged_transact ih command

/-- Every reply that the runtime sends for the frames so far has arrived when the transaction has
polled. -/
def AllReadable (link : Link H) (command : RpuWireCommand) : Prop :=
  (polled link command).replies.pending = []

theorem length_pending_handle (link : Link H) (bytes : Vector UInt8 rpuWireCommandLen) :
    (link.handle bytes).replies.pending.length ≤ link.replies.pending.length + 1 := by
  unfold Link.handle
  cases RpuRuntime.handleFrame bytes link.facing with
  | ok reply runtime => simp [DelayedQueue.send]
  | error e runtime => simp

theorem arrivals_handle (link : Link H) (bytes : Vector UInt8 rpuWireCommandLen) :
    (link.handle bytes).arrivals = link.arrivals := by
  unfold Link.handle
  cases RpuRuntime.handleFrame bytes link.facing <;> rfl

/-- Polling lets the next replies arrive. -/
theorem replies_polled (link : Link H) (command : RpuWireCommand) :
    (polled link command).replies =
      (link.handle command.encode).replies.arrive (link.arrivals 0) := by
  have harrivals := arrivals_handle link command.encode
  change (link.handle command.encode).replies.arrive ((link.handle command.encode).arrivals 0) = _
  rw [harrivals]

/-- Enough arrivals make everything readable. -/
theorem allReadable_of_le {link : Link H} (command : RpuWireCommand)
    (h : link.replies.pending.length + 1 ≤ link.arrivals 0) : AllReadable link command := by
  rw [AllReadable, replies_polled, DelayedQueue.pending_arrive_eq_nil_iff]
  exact (length_pending_handle link command.encode).trans h

/-- A transaction that finds no unread reply returns the reply to its frame. -/
theorem transact_of_unread_eq_nil {transport : RpmsgAfeTransport (Link H)}
    {command : RpuWireCommand}
    {reply : RpuWireReply} (hreply : replyTo transport.file.facing command = some reply)
    (hreadable : AllReadable transport.file command)
    (hunread : transport.file.replies.unread = []) :
    ∃ after, transact command transport = .ok reply after := by
  obtain ⟨runtime', hresult, hsequence, -⟩ := handleFrame_of_replyTo hreply
  have hpolled := unread_polled transport.file command
  rw [handle_of_ok hresult, DelayedQueue.unread_send, hunread, List.nil_append] at hpolled
  obtain ⟨replies, hreceive, -, -⟩ := DelayedQueue.receive_of_arrived hreadable hpolled
  have hreceive' : receive (polled transport.file command) =
      some (reply.encode, { polled transport.file command with replies := replies }) := by
    simp only [receive, hreceive, Option.map_some]
  rw [transact_eq, hreceive']
  exact ⟨_, acceptReply_of_eq (RpuWireReply.decode_encode reply) hsequence⟩

/-- A transaction that finds an unread reply of one of the last frames does not return the reply to
its frame. -/
theorem transact_of_unread_ne_nil {transport : RpmsgAfeTransport (Link H)}
    {command : RpuWireCommand}
    {reply : RpuWireReply} (hreply : replyTo transport.file.facing command = some reply)
    (hreadable : AllReadable transport.file command) {count : ℕ} (hcount : count < 2 ^ 64)
    (haged : Aged count transport.file) (hunread : transport.file.replies.unread ≠ [])
    (after : RpmsgAfeTransport (Link H)) : transact command transport ≠ .ok reply after := by
  intro htransact
  obtain ⟨runtime', hresult, -, hheartbeat⟩ := handleFrame_of_replyTo hreply
  rw [Link.facing, heartbeat_setInterlocks] at hheartbeat
  obtain ⟨stale, rest, hstale⟩ := List.exists_cons_of_ne_nil hunread
  have hpolled := unread_polled transport.file command
  rw [handle_of_ok hresult, DelayedQueue.unread_send, hstale, List.cons_append] at hpolled
  obtain ⟨replies, hreceive, -, -⟩ := DelayedQueue.receive_of_arrived hreadable hpolled
  have hreceive' : receive (polled transport.file command) =
      some (stale, { polled transport.file command with replies := replies }) := by
    simp only [receive, hreceive, Option.map_some]
  rw [transact_eq, hreceive'] at htransact
  obtain ⟨hdecode, -, -⟩ := acceptReply_eq_ok_iff.mp htransact
  -- The reply taken is an older one, whose heartbeat is not the one of the reply to this frame.
  obtain ⟨older, age, rfl, hage, hsame⟩ := haged stale (by rw [hstale]; exact List.mem_cons_self)
  rw [RpuWireReply.decode_encode] at hdecode
  cases hdecode
  have hwrap : reply.heartbeat.toNat =
      ((reply.heartbeat.toNat + age % 2 ^ 64) % 2 ^ 64 + 1) % 2 ^ 64 := by
    have htoNat := congrArg UInt64.toNat hheartbeat
    rwa [hsame, UInt64.toNat_add, UInt64.toNat_add, UInt64.toNat_ofNat'] at htoNat
  have hlt : reply.heartbeat.toNat < 2 ^ 64 := reply.heartbeat.toNat_lt
  omega

/-- In every run, with any delays, a transaction that finds no unread reply returns the reply to its
frame, if all replies have arrived by its poll. One that finds an unread reply does not return the
reply to its frame. -/
theorem transact_answers (transport : RpmsgAfeTransport (Link H))
    (hfresh : transport.file.replies = .empty) (commands : List RpuWireCommand)
    (command : RpuWireCommand) :
    let before := afterTransactions transport commands
    ∀ reply, replyTo before.file.facing command = some reply → AllReadable before.file command →
      (before.file.replies.unread = [] →
        ∃ after, transact command before = .ok reply after) ∧
      (before.file.replies.unread ≠ [] → commands.length < 2 ^ 64 →
        ∀ after, transact command before ≠ .ok reply after) := by
  intro before reply hreply hreadable
  refine ⟨transact_of_unread_eq_nil hreply hreadable, fun hunread hlength ↦ ?_⟩
  exact transact_of_unread_ne_nil hreply hreadable hlength
    (aged_afterTransactions hfresh commands) hunread

/-! ## One timeout -/

/-- A fresh transport to a fresh runtime, with replies arriving as given. -/
def freshTransport (arrivals : ℕ → ℕ) : RpmsgAfeTransport (Link (AfeMmioBackend ZeroIo)) :=
  .open ⟨.new (.new ZeroIo.mk), .empty, fun _ ↦ [], arrivals⟩ 1000

/-- The reply of a fresh runtime to a status frame. -/
theorem replyTo_status (sequence : UInt64) :
    replyTo (RpuRuntime.new (AfeMmioBackend.new ZeroIo.mk)) (.status sequence) =
      some ⟨sequence, .applied, some 63, 1, 0, 63⟩ := by
  rw [replyTo_eq]
  rfl

/-- A fresh transport whose first reply arrives only by the second poll. -/
def lateTransport : RpmsgAfeTransport (Link (AfeMmioBackend ZeroIo)) :=
  freshTransport fun poll ↦ if poll = 0 then 0 else 2

/-- The first transaction times out, and by the poll of the next one both replies have arrived. -/
theorem lateTransport_spec :
    let before := afterTransactions lateTransport [.status 1]
    transact (.status 1) lateTransport = .error (.error .timeout) before ∧
      before.file.replies.unread ≠ [] ∧ AllReadable before.file (.status 2) ∧
      ∃ reply, replyTo before.file.facing (.status 2) = some reply := by
  intro before
  obtain ⟨runtime, hresult, -, -⟩ := handleFrame_of_replyTo (replyTo_status 1)
  have hqueued : (lateTransport.file.handle (RpuWireCommand.status 1).encode).replies =
      DelayedQueue.empty.send (RpuWireReply.encode ⟨1, .applied, some 63, 1, 0, 63⟩) :=
    handle_of_ok hresult
  have hpolled : (polled lateTransport.file (.status 1)).replies =
      ((lateTransport.file.handle (RpuWireCommand.status 1).encode).replies).arrive 0 :=
    replies_polled _ _
  have hreceive : receive (polled lateTransport.file (.status 1)) = none := by
    simp only [receive, hpolled, hqueued]
    rfl
  have htimeout : transact (.status 1) lateTransport = .error (.error .timeout)
      { lateTransport with file := polled lateTransport.file (.status 1) } := by
    rw [transact_eq, hreceive]
  have hbefore : before = { lateTransport with file := polled lateTransport.file (.status 1) } := by
    simp only [before, afterTransactions, List.foldl_cons, List.foldl_nil, final, htimeout]
  have hunread : before.file.replies.unread ≠ [] := by
    rw [hbefore]
    dsimp only
    rw [hpolled, DelayedQueue.unread_arrive, hqueued, DelayedQueue.unread_send]
    simp
  have hreadable : AllReadable before.file (.status 2) := by
    have harrivals : before.file.arrivals 0 = 2 := by
      rw [hbefore]
      exact congrArg (· 1) (arrivals_handle lateTransport.file (RpuWireCommand.status 1).encode)
    apply allReadable_of_le
    rw [harrivals, hbefore]
    dsimp only
    rw [hpolled, hqueued]
    decide
  have hreply : RpuRuntime.handleFrame (RpuWireCommand.status 2).encode before.file.facing = _ :=
    RpuRuntime.handleFrame_of_status (RpuWireCommand.decode_encode (.status 2)) rfl
  exact ⟨by rw [htimeout, hbefore], hunread, hreadable, _, replyTo_of_answer hreply⟩

/-- The transaction of a reply that is in time returns it; with a late reply before it, it does
not. -/
theorem transact_answers_late :
    (∃ after, transact (.status 1) (afterTransactions (freshTransport fun _ ↦ 1) []) =
      .ok ⟨1, .applied, some 63, 1, 0, 63⟩ after) ∧
    ∃ reply, replyTo (afterTransactions lateTransport [.status 1]).file.facing (.status 2) =
        some reply ∧
      ∀ after, transact (.status 2) (afterTransactions lateTransport [.status 1]) ≠
        .ok reply after := by
  obtain ⟨-, hunread, hreadable, reply, hreply⟩ := lateTransport_spec
  refine ⟨?_, reply, hreply, ?_⟩
  · exact (transact_answers (freshTransport fun _ ↦ 1) rfl [] (.status 1) _ (replyTo_status 1)
      (allReadable_of_le _ (Nat.le_refl 1))).1 rfl
  · exact (transact_answers lateTransport rfl [.status 1] (.status 2) reply hreply hreadable).2
      hunread (by decide)

/-- The first reply is late: its transaction times out, and the next one, by whose poll both replies
have arrived, does not return the reply to its frame. -/
theorem late_reply_poisons :
    let transport := freshTransport fun poll ↦ if poll = 0 then 0 else 2
    let before := afterTransactions transport [.status 1]
    transact (.status 1) transport = .error (.error .timeout) before ∧
      ∃ reply, replyTo before.file.facing (.status 2) = some reply ∧
        AllReadable before.file (.status 2) ∧
        ∀ after, transact (.status 2) before ≠ .ok reply after := by
  intro transport before
  obtain ⟨htimeout, hunread, hreadable, reply, hreply⟩ := lateTransport_spec
  refine ⟨htimeout, reply, hreply, hreadable, fun after ↦ ?_⟩
  exact transact_of_unread_ne_nil hreply hreadable (by decide)
    (aged_afterTransactions rfl [.status 1]) hunread after

end DaphneSc.Server.Rpmsg
