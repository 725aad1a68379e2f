import DaphneSc.Server.Calls
import DaphneSc.Server.LateReplies

/-!
# A link without delays

On a link that has delivered every reply by the next poll, the host never falls behind: a
transaction returns the reply to its own frame, and frames sent in a row are frames fed to the RPU
in a row.
-/

namespace DaphneSc.Server.Rpmsg

open Core.Afe Core.RpuWire Core.Rpu Rpu.Runtime Program FrameDevice RpmsgAfeTransport

variable {H ε : Type} [AfeHardware H ε]

/-- Nothing is unread, and each of the next replies arrives in time. -/
structure Prompt (link : Link H) : Prop where
  unread : link.replies.unread = []
  arrives : ∀ n, 1 ≤ link.arrivals n

/-- The link after one more frame. -/
structure Advances (link after : Link H) (frame : RpuWireCommand) : Prop where
  prompt : Prompt after
  runtime : after.runtime = stepFrame link.facing frame
  interlocks : after.interlocks = fun n ↦ link.interlocks (n + 1)

section Transactions

variable {transport : RpmsgAfeTransport (Link H)} {frame : RpuWireCommand}

theorem Prompt.allReadable {link : Link H} (h : Prompt link) (frame : RpuWireCommand) :
    AllReadable link frame := by
  have hpending : link.replies.pending = [] := (List.append_eq_nil_iff.mp h.unread).2
  apply allReadable_of_le
  rw [hpending]
  exact h.arrives 0

theorem arrivals_transact (frame : RpuWireCommand) (transport : RpmsgAfeTransport (Link H)) :
    (final (transact frame) transport).file.arrivals =
      fun n ↦ transport.file.arrivals (n + 1) := by
  have hpolled : (polled transport.file frame).arrivals =
      fun n ↦ transport.file.arrivals (n + 1) := by
    change (fun n ↦ (transport.file.handle frame.encode).arrivals (n + 1)) = _
    rw [arrivals_handle]
  cases hreceive : receive (polled transport.file frame) with
  | none => rw [file_transact_of_none hreceive, hpolled]
  | some pair =>
    obtain ⟨bytes, rest⟩ := pair
    have hrest : rest.arrivals = (polled transport.file frame).arrivals := by
      simp only [receive, Option.map_eq_some_iff, Prod.mk.injEq] at hreceive
      obtain ⟨_, -, -, rfl⟩ := hreceive
      rfl
    rw [file_transact_of_some hreceive, hrest, hpolled]

/-- A frame without a reply is one at which the runtime panics. -/
theorem error_of_replyTo_eq_none {runtime : RpuRuntime H} (h : replyTo runtime frame = none) :
    ∃ abort runtime', RpuRuntime.handleFrame frame.encode runtime = .error abort runtime' := by
  cases hresult : RpuRuntime.handleFrame frame.encode runtime with
  | error abort runtime' => exact ⟨abort, runtime', rfl⟩
  | ok bytes runtime' =>
    obtain ⟨reply, rfl, -⟩ := (heartbeat_handleFrame frame.encode runtime).2 bytes runtime' hresult
    rw [replyTo_of_answer hresult] at h
    cases h

/-- The unread replies while a transaction polls are the reply to its frame. -/
theorem Prompt.unread_polled {link : Link H} (h : Prompt link) (frame : RpuWireCommand) :
    (polled link frame).replies.unread =
      ((replyTo link.facing frame).map RpuWireReply.encode).toList := by
  rw [Rpmsg.unread_polled]
  cases hreply : replyTo link.facing frame with
  | none =>
    obtain ⟨abort, runtime', hresult⟩ := error_of_replyTo_eq_none hreply
    rw [Link.handle, hresult]
    exact h.unread
  | some reply =>
    obtain ⟨runtime', hresult, -, -⟩ := handleFrame_of_replyTo hreply
    rw [handle_of_ok hresult, DelayedQueue.unread_send, h.unread]
    rfl

/-- The only reply that can be read is the one to the frame. -/
theorem transact_of_prompt (h : Prompt transport.file) {reply : RpuWireReply}
    {after : RpmsgAfeTransport (Link H)} (hok : transact frame transport = .ok reply after) :
    replyTo transport.file.facing frame = some reply := by
  cases hreply : replyTo transport.file.facing frame with
  | some reply' =>
    obtain ⟨after', hok'⟩ := transact_of_unread_eq_nil hreply (h.allReadable frame) h.unread
    rw [hok] at hok'
    cases hok'
    rfl
  | none =>
    have hunread := h.unread_polled frame
    rw [hreply] at hunread
    have hreceive : receive (polled transport.file frame) = none := by
      have hreadable : (polled transport.file frame).replies.readable = [] :=
        (List.append_eq_nil_iff.mp hunread).1
      simp only [receive, DelayedQueue.receive_eq_none_iff.mpr hreadable, Option.map_none]
    rw [transact_eq, hreceive] at hok
    cases hok

theorem unread_transact (h : Prompt transport.file) (frame : RpuWireCommand) :
    (final (transact frame) transport).file.replies.unread = [] := by
  have hunread := h.unread_polled frame
  cases hreceive : receive (polled transport.file frame) with
  | none =>
    rw [file_transact_of_none hreceive]
    cases hreply : replyTo transport.file.facing frame with
    | none =>
      rw [hreply] at hunread
      exact hunread
    | some reply =>
      rw [hreply] at hunread
      obtain ⟨replies, hreplies, -, -⟩ :=
        DelayedQueue.receive_of_arrived (h.allReadable frame) hunread
      simp only [receive, hreplies, Option.map_some] at hreceive
      cases hreceive
  | some pair =>
    obtain ⟨bytes, rest⟩ := pair
    rw [file_transact_of_some hreceive]
    simp only [receive, Option.map_eq_some_iff, Prod.mk.injEq] at hreceive
    obtain ⟨⟨answer, replies⟩, hreplies, rfl, rfl⟩ := hreceive
    rw [DelayedQueue.unread_of_receive hreplies] at hunread
    cases hreply : replyTo transport.file.facing frame with
    | none =>
      rw [hreply] at hunread
      cases hunread
    | some reply =>
      rw [hreply] at hunread
      exact (List.cons.inj hunread).2

theorem advances_transact (h : Prompt transport.file) (frame : RpuWireCommand) :
    Advances transport.file (final (transact frame) transport).file frame := by
  obtain ⟨hruntime, hinterlocks, -⟩ := file_transact frame transport
  have harrivals := arrivals_transact frame transport
  constructor
  · refine ⟨unread_transact h frame, fun n ↦ ?_⟩
    rw [harrivals]
    exact h.arrives (n + 1)
  · rw [hruntime, runtime_handle]
    rfl
  · rw [hinterlocks, Link.handle]
    cases RpuRuntime.handleFrame frame.encode transport.file.facing <;> rfl

theorem advances_of_ok (h : Prompt transport.file) {reply : RpuWireReply}
    {after : RpmsgAfeTransport (Link H)} (hok : transact frame transport = .ok reply after) :
    Advances transport.file after.file frame := by
  have hadvances := advances_transact h frame
  rwa [final_of_ok hok] at hadvances

end Transactions

/-! ## Calls -/

section Calls

variable {transport : RpmsgAfeTransport (Link H)}

theorem prompt_afterFrames (h : Prompt transport.file) (frames : List RpuWireCommand) :
    Prompt (afterFrames frames transport).file := by
  induction frames generalizing transport with
  | nil => exact h
  | cons frame frames ih =>
    have hadvances := advances_transact h frame
    unfold afterFrames
    cases htransact : transact frame transport with
    | ok reply after => exact ih (advances_of_ok h htransact).prompt
    | error abort after =>
      rw [final_of_error htransact] at hadvances
      exact hadvances.prompt

/-- Whatever a call returns, nothing is left unread. -/
theorem prompt_afterCall (h : Prompt transport.file) (call : HostCall) :
    Prompt (afterCall transport call).file := by
  cases call with
  | status =>
    rw [afterCall_status]
    cases htake : takeSequence transport with
    | error abort after =>
      have hfile := Bound.keeps_rel.mp (within_takeSequence.error htake)
      exact hfile ▸ h
    | ok sequence after =>
      have hfile := Bound.keeps_rel.mp (within_takeSequence.ok htake)
      rw [← hfile] at h
      exact (advances_transact h (.status sequence)).prompt
  | submit command =>
    rw [afterCall_submit]
    cases hprepare : prepareFrames command transport with
    | error abort after =>
      have hfile := Bound.keeps_rel.mp ((within_prepareFrames command).error hprepare)
      exact hfile ▸ h
    | ok prepared after =>
      have hfile := Bound.keeps_rel.mp ((within_prepareFrames command).ok hprepare)
      rw [← hfile] at h
      exact prompt_afterFrames h prepared.2

theorem prompt_foldl_afterCall (h : Prompt transport.file) (calls : List HostCall) :
    Prompt (calls.foldl afterCall transport).file := by
  induction calls generalizing transport with
  | nil => exact h
  | cons call calls ih => exact ih (prompt_afterCall h call)

end Calls

/-! ## Frames in a row -/

/-- The runtime after frames, with interlock changes before each of them. -/
def feed (interlocks : ℕ → List InterlockState) (runtime : RpuRuntime H) :
    List RpuWireCommand → RpuRuntime H
  | [] => runtime
  | frame :: frames =>
    feed (fun n ↦ interlocks (n + 1)) (stepFrame (setInterlocks runtime (interlocks 0)) frame)
      frames

theorem sendFrames_cons_of_ok {F : Type} [RpmsgFile F] {frameCount idx : ℕ}
    {kept finalReply : Option RpuWireReply} {frame : RpuWireCommand} {frames : List RpuWireCommand}
    {transport after : RpmsgAfeTransport F}
    (hok : sendFrames frameCount idx kept (frame :: frames) transport = .ok finalReply after) :
    ∃ reply next, transact frame transport = .ok reply next ∧
      sendFrames frameCount (idx + 1) (some reply) frames next = .ok finalReply after := by
  rw [sendFrames, bind_eq_ok_iff] at hok
  obtain ⟨reply, next, hmapped, hrest⟩ := hok
  refine ⟨reply, next, ?_, hrest⟩
  unfold mapError at hmapped
  rcases htransact : transact frame transport with ⟨reply', next'⟩ | ⟨abort | _, next'⟩
  · rw [htransact] at hmapped
    exact hmapped
  · rw [htransact] at hmapped
    cases hmapped
  · rw [htransact] at hmapped
    cases hmapped

/-- Frames that were all answered have been fed to the runtime, and the last one's reply is kept. -/
theorem sendFrames_of_prompt {frameCount idx : ℕ} {kept finalReply : Option RpuWireReply}
    {frames : List RpuWireCommand} {last : RpuWireCommand}
    {transport after : RpmsgAfeTransport (Link H)} (h : Prompt transport.file)
    (hok : sendFrames frameCount idx kept (frames ++ [last]) transport = .ok finalReply after) :
    let link := transport.file
    let facing := setInterlocks (feed link.interlocks link.runtime frames)
      (link.interlocks frames.length)
    finalReply = replyTo facing last ∧ after.file.runtime = stepFrame facing last := by
  induction frames generalizing idx kept transport with
  | nil =>
    obtain ⟨reply, next, htransact, hdone⟩ := sendFrames_cons_of_ok hok
    have hadvances := advances_of_ok h htransact
    rw [sendFrames] at hdone
    cases hdone
    exact ⟨(transact_of_prompt h htransact).symm, hadvances.runtime⟩
  | cons frame frames ih =>
    obtain ⟨reply, next, htransact, hrest⟩ := sendFrames_cons_of_ok hok
    have hadvances := advances_of_ok h htransact
    have hnext := ih hadvances.prompt hrest
    dsimp only at hnext
    rw [hadvances.runtime, hadvances.interlocks] at hnext
    exact hnext

/-- The replies to frames, with interlock changes before each of them. -/
def replies (interlocks : ℕ → List InterlockState) (runtime : RpuRuntime H) :
    List RpuWireCommand → List (Option RpuWireReply)
  | [] => []
  | frame :: frames =>
    let facing := setInterlocks runtime (interlocks 0)
    replyTo facing frame :: replies (fun n ↦ interlocks (n + 1)) (stepFrame facing frame) frames

/-- When the runtime answers every frame, all frames are sent. -/
theorem sendFrames_of_replies {frameCount idx : ℕ} {kept : Option RpuWireReply}
    {frames : List RpuWireCommand} {transport : RpmsgAfeTransport (Link H)}
    (h : Prompt transport.file)
    (hreplies : ∀ reply ∈ replies transport.file.interlocks transport.file.runtime frames,
      reply.isSome = true) :
    ∃ after, sendFrames frameCount idx kept frames transport =
        .ok ((replies transport.file.interlocks transport.file.runtime frames).getLast?.getD kept)
          after ∧
      afterFrames frames transport = after ∧
      after.file.runtime = feed transport.file.interlocks transport.file.runtime frames ∧
      after.file.interlocks = fun n ↦ transport.file.interlocks (n + frames.length) := by
  induction frames generalizing idx kept transport with
  | nil => exact ⟨transport, rfl, rfl, rfl, rfl⟩
  | cons frame frames ih =>
    obtain ⟨reply, hreply⟩ := Option.isSome_iff_exists.mp (hreplies _ List.mem_cons_self)
    obtain ⟨next, htransact⟩ := transact_of_unread_eq_nil hreply (h.allReadable frame) h.unread
    have hadvances := advances_of_ok h htransact
    have hrest : ∀ reply ∈ replies next.file.interlocks next.file.runtime frames,
        reply.isSome = true := by
      rw [hadvances.interlocks, hadvances.runtime]
      exact fun reply hmem ↦ hreplies reply (List.mem_cons_of_mem _ hmem)
    obtain ⟨after, hsend, hafter, hruntime, hinterlocks⟩ :=
      @ih (idx + 1) (some reply) next hadvances.prompt hrest
    rw [hadvances.interlocks, hadvances.runtime] at hsend hruntime
    refine ⟨after, ?_, ?_, hruntime, ?_⟩
    · rw [sendFrames, run_bind]
      simp only [mapError, htransact]
      rw [hsend, replies, List.getLast?_cons, hreply]
      rfl
    · rw [afterFrames, htransact]
      exact hafter
    · rw [hinterlocks, hadvances.interlocks]
      rfl

end DaphneSc.Server.Rpmsg
