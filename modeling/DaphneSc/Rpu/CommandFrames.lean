import DaphneSc.Rpu.Dispatch

/-!
# Frames of a host

A host sends the runtime encoded commands and decodes the replies. Since both codecs round-trip, the
step of such a frame and its reply are those of the command itself.
-/

namespace DaphneSc.Rpu.Runtime

open Core.Afe Core.RpuWire Program

variable {H ε : Type} [AfeHardware H ε]

/-- The runtime after a command frame. -/
def stepFrame (runtime : RpuRuntime H) (frame : RpuWireCommand) : RpuRuntime H :=
  final (RpuRuntime.handleFrame frame.encode) runtime

/-- The reply a command frame gets. -/
def replyTo (runtime : RpuRuntime H) (frame : RpuWireCommand) : Option RpuWireReply :=
  match RpuRuntime.handleFrame frame.encode runtime with
  | .ok bytes _ => (RpuWireReply.decode bytes.toList).toOption
  | .error _ _ => none

def applied (runtime : RpuRuntime H) (frame : RpuWireCommand) : Bool :=
  (replyTo runtime frame).any fun reply ↦ reply.status == .applied

theorem stepFrame_eq_step (runtime : RpuRuntime H) {frame : RpuWireCommand}
    (h : frame.op ≠ .readAlignment) :
    stepFrame runtime frame = step runtime (.frame (.ofCommand frame h)) := by
  simp only [stepFrame, step, HandledFrame.ofCommand_bytes]

theorem appliedCommand_of_bytes (runtime : RpuRuntime H) {frame : RpuWireCommand}
    {input : HandledFrame} (h : input.bytes = frame.encode) :
    appliedCommand runtime input =
      if applied runtime frame then some frame else none := by
  have hdecode := RpuWireCommand.decode_encode frame
  rw [← h] at hdecode
  unfold applied replyTo
  rw [← h]
  unfold appliedCommand
  rw [hdecode]
  generalize RpuRuntime.handleFrame input.bytes runtime = result
  cases result with
  | error e runtime' => simp
  | ok bytes runtime' =>
    cases hreply : RpuWireReply.decode bytes.toList with
    | error e => simp [Except.toOption, hreply]
    | ok reply => simp [Except.toOption, hreply]

theorem appliedCommand_ofCommand (runtime : RpuRuntime H) {frame : RpuWireCommand}
    (h : frame.op ≠ .readAlignment) :
    appliedCommand runtime (.ofCommand frame h) =
      if applied runtime frame then some frame else none :=
  appliedCommand_of_bytes runtime (HandledFrame.ofCommand_bytes frame h)

/-- A command frame either only advances the heartbeat, or makes one call. -/
theorem stepFrame_cases (runtime : RpuRuntime H) {frame : RpuWireCommand}
    (h : frame.op ≠ .readAlignment) :
    (stepFrame runtime frame = runtime.tick ∧
      (applied runtime frame = true → frame.op = .status)) ∨
    ∃ call next, dispatch frame runtime.configState = some (call, next) ∧
      runtime.interlock.readyForAfe = true ∧ frame.op ≠ .status ∧
      ((∃ readback hardware, call.perform runtime.hardware = .ok readback hardware ∧
        stepFrame runtime frame =
          { runtime.tick with hardware := hardware, configState := next } ∧
        applied runtime frame = true) ∨
      ∃ abort hardware, call.perform runtime.hardware = .error abort hardware ∧
        stepFrame runtime frame = { runtime.tick with hardware := hardware } ∧
        applied runtime frame = false) := by
  have hframe : ∀ command, appliedCommand runtime (.ofCommand frame h) = some command ↔
      applied runtime frame = true ∧ frame = command := by
    intro command
    rw [appliedCommand_ofCommand]
    cases applied runtime frame <;> simp
  rw [stepFrame_eq_step runtime h]
  rcases step_frame_cases runtime (.ofCommand frame h) with ⟨hstep, happlied⟩ |
    ⟨command, call, next, hcalls, hresult⟩
  · exact Or.inl ⟨hstep, fun happ ↦ happlied frame ((hframe frame).mpr ⟨happ, rfl⟩)⟩
  · have hcommand : frame = command := by
      have hdecoded := hcalls.decoded
      rw [HandledFrame.ofCommand_bytes, RpuWireCommand.decode_encode] at hdecoded
      exact Except.ok.inj hdecoded
    subst hcommand
    refine Or.inr ⟨call, next, hcalls.dispatched, hcalls.ready, hcalls.not_status, ?_⟩
    rcases hresult with ⟨readback, hardware, hperform, hstep, happ⟩ |
      ⟨abort, hardware, hperform, hstep, happ⟩
    · exact Or.inl ⟨readback, hardware, hperform, hstep, ((hframe frame).mp happ).1⟩
    · refine Or.inr ⟨abort, hardware, hperform, hstep, ?_⟩
      rw [appliedCommand_ofCommand] at happ
      simpa using happ

/-- Neither the step nor the reply depends on the encoding of the frame. -/
theorem stepFrame_eq (runtime : RpuRuntime H) (frame : RpuWireCommand) :
    stepFrame runtime frame = final (RpuRuntime.handleCommand frame) runtime.tick := by
  rw [stepFrame, final, RpuRuntime.handleFrame_of_ok (RpuWireCommand.decode_encode frame), run_map,
    final]
  cases RpuRuntime.handleCommand frame runtime.tick <;> rfl

theorem replyTo_of_answer {runtime runtime' : RpuRuntime H} {frame : RpuWireCommand}
    {reply : RpuWireReply}
    (h : RpuRuntime.handleFrame frame.encode runtime = .ok reply.encode runtime') :
    replyTo runtime frame = some reply := by
  have hdecode := RpuWireReply.decode_encode reply
  unfold replyTo
  rw [h]
  dsimp only
  generalize RpuWireReply.decode reply.encode.toList = decoded at hdecode
  rw [hdecode]
  rfl

/-- What a reply says whatever the command did. -/
theorem handleFrame_of_replyTo {runtime : RpuRuntime H} {frame : RpuWireCommand}
    {reply : RpuWireReply} (h : replyTo runtime frame = some reply) :
    ∃ runtime', RpuRuntime.handleFrame frame.encode runtime = .ok reply.encode runtime' ∧
      reply.sequence = frame.sequence ∧ reply.heartbeat = runtime.heartbeat + 1 := by
  have hhandles := RpuRuntime.handles frame.encode runtime
  cases hresult : RpuRuntime.handleFrame frame.encode runtime with
  | error e runtime' =>
    unfold replyTo at h
    rw [hresult] at h
    cases h
  | ok bytes runtime' =>
    have hreply : ∃ reply : RpuWireReply, bytes = reply.encode ∧ reply.sequence = frame.sequence ∧
        reply.heartbeat = runtime.heartbeat + 1 := by
      rw [hresult] at hhandles
      cases hhandles with
      | undecodable decoded =>
        rw [RpuWireCommand.decode_encode] at decoded
        cases decoded
      | status decoded | interlocked decoded | rejected decoded | applied decoded
      | fault decoded =>
        rw [RpuWireCommand.decode_encode] at decoded
        cases decoded
        exact ⟨_, rfl, rfl, rfl⟩
    obtain ⟨reply', rfl, hsequence, hheartbeat⟩ := hreply
    rw [replyTo_of_answer hresult] at h
    cases h
    exact ⟨runtime', rfl, hsequence, hheartbeat⟩

theorem replyTo_eq (runtime : RpuRuntime H) (frame : RpuWireCommand) :
    replyTo runtime frame = match RpuRuntime.handleCommand frame runtime.tick with
      | .ok reply _ => some reply
      | .error _ _ => none := by
  have hframe : RpuRuntime.handleFrame frame.encode runtime = _ :=
    RpuRuntime.handleFrame_of_ok (RpuWireCommand.decode_encode frame)
  rw [run_map] at hframe
  cases hcommand : RpuRuntime.handleCommand frame runtime.tick with
  | ok reply runtime' =>
    rw [hcommand] at hframe
    exact replyTo_of_answer hframe
  | error e runtime' =>
    rw [hcommand] at hframe
    unfold replyTo
    rw [hframe]

/-- The reply to a command whose call returns. -/
theorem replyTo_of_call {runtime : RpuRuntime H} {frame : RpuWireCommand}
    (hready : runtime.interlock.readyForAfe = true) (hstatus : frame.op ≠ .status)
    {call : HardwareCall} {next : ConfigState}
    (hdispatch : dispatch frame runtime.configState = some (call, next)) {readback : Option UInt32}
    {hardware : H} (hperform : call.perform runtime.hardware = .ok readback hardware) :
    replyTo runtime frame =
      some (RpuRuntime.answer frame runtime.tick .applied readback 0 0) := by
  have hframe := RpuRuntime.handleFrame_of_ready (RpuWireCommand.decode_encode frame) hstatus hready
  rw [hdispatch] at hframe
  simp only [hperform] at hframe
  exact replyTo_of_answer hframe

theorem applied_of_call {runtime : RpuRuntime H} {frame : RpuWireCommand}
    (hready : runtime.interlock.readyForAfe = true) (hstatus : frame.op ≠ .status)
    {call : HardwareCall} {next : ConfigState}
    (hdispatch : dispatch frame runtime.configState = some (call, next)) {readback : Option UInt32}
    {hardware : H} (hperform : call.perform runtime.hardware = .ok readback hardware) :
    applied runtime frame = true := by
  rw [applied, replyTo_of_call hready hstatus hdispatch hperform]
  rfl

end DaphneSc.Rpu.Runtime
