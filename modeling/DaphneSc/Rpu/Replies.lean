import DaphneSc.Rpu.Recorded

/-!
# What a reply tells

Every frame is answered by a decodable reply that names the frame and counts it. A frame that is
refused has only been counted: no call of the hardware was made, and every later reply is the one
that would have come without the frame, counted one higher.
-/

namespace DaphneSc.Rpu.Runtime

open Core.Afe Core.RpuWire Program

variable {H ε : Type} [AfeHardware H ε]

/-- The reply to a frame. -/
def answerTo (runtime : RpuRuntime H) (input : HandledFrame) : Option RpuWireReply :=
  match RpuRuntime.handleFrame input.bytes runtime with
  | .ok bytes _ => (RpuWireReply.decode bytes.toList).toOption
  | .error _ _ => none

/-- The replies to the frames of a run, in order. -/
def answers (runtime : RpuRuntime H) : List RuntimeEvent → List (Option RpuWireReply)
  | [] => []
  | .frame input :: events => answerTo runtime input :: answers (step runtime (.frame input)) events
  | .setInterlock interlock :: events => answers (runtime.setInterlock interlock) events

def RuntimeEvent.isFrame : RuntimeEvent → Bool
  | .frame _ => true
  | .setInterlock _ => false

/-- The dispatched call of a frame stops instead of returning or failing. -/
def CallStops (runtime : RpuRuntime H) (input : HandledFrame) : Prop :=
  ∃ command call next hardware, Calls runtime input command call next ∧
    call.perform runtime.hardware = .error .panic hardware

/-- What a reply tells about the step it answers. A refused frame is counted and nothing else. -/
structure Reports (runtime : RpuRuntime H) (input : HandledFrame) (reply : RpuWireReply)
    (runtime' : RpuRuntime H) : Prop where
  sequence : reply.sequence = match RpuWireCommand.decode input.bytes.toList with
    | .ok command => command.sequence
    | .error _ => 0
  heartbeat : reply.heartbeat = runtime.heartbeat + 1
  counted : runtime'.heartbeat = runtime.heartbeat + 1
  refused : reply.status = .rejected ∨ reply.status = .interlocked → runtime' = runtime.tick
  fault : reply.status = .fault → runtime'.configState = runtime.configState

/-- Every frame is answered, unless the hardware stops. -/
theorem handleFrame_reports (runtime : RpuRuntime H) (input : HandledFrame) :
    (∃ bytes reply runtime', RpuRuntime.handleFrame input.bytes runtime = .ok bytes runtime' ∧
      RpuWireReply.decode bytes.toList = .ok reply ∧ Reports runtime input reply runtime') ∨
    CallStops runtime input := by
  have hhandles := RpuRuntime.handles input.bytes runtime
  generalize RpuRuntime.handleFrame input.bytes runtime = result at hhandles
  cases hhandles with
  | undecodable hdecode | status hdecode | interlocked hdecode | rejected hdecode =>
    exact Or.inl ⟨_, _, _, rfl, RpuWireReply.decode_encode _, by rw [hdecode]; rfl, rfl, rfl,
      fun _ ↦ rfl, fun _ ↦ rfl⟩
  | applied hdecode =>
    refine Or.inl ⟨_, _, _, rfl, RpuWireReply.decode_encode _, by rw [hdecode]; rfl, rfl, rfl,
      fun hstatus ↦ ?_, nofun⟩
    rcases hstatus with hstatus | hstatus <;> exact nomatch hstatus
  | fault hdecode =>
    refine Or.inl ⟨_, _, _, rfl, RpuWireReply.decode_encode _, by rw [hdecode]; rfl, rfl, rfl,
      fun hstatus ↦ ?_, fun _ ↦ rfl⟩
    rcases hstatus with hstatus | hstatus <;> exact nomatch hstatus
  | panicked hdecode hstatus hready hdispatch hperform =>
    exact Or.inr ⟨_, _, _, _, ⟨hready, hdecode, hstatus, hdispatch⟩, hperform⟩

/-! ## Runs -/

theorem answerTo_heartbeat {runtime : RpuRuntime H} {input : HandledFrame} {reply : RpuWireReply}
    (h : answerTo runtime input = some reply) : reply.heartbeat = runtime.heartbeat + 1 := by
  unfold answerTo at h
  rcases handleFrame_reports runtime input with
    ⟨bytes, reply', runtime', hresult, hdecode, hreports⟩ | ⟨_, _, _, _, hcalls, hperform⟩
  · rw [hresult] at h
    simp only [hdecode, Except.toOption, Option.some.injEq] at h
    rw [← h]
    exact hreports.heartbeat
  · rw [RpuRuntime.handleFrame_of_ready hcalls.decoded hcalls.not_status hcalls.ready,
      hcalls.dispatched] at h
    simp only [hperform] at h
    cases h

theorem answerTo_eq_none {runtime : RpuRuntime H} {input : HandledFrame}
    (h : answerTo runtime input = none) : CallStops runtime input := by
  unfold answerTo at h
  rcases handleFrame_reports runtime input with ⟨_, _, _, hresult, hdecode, -⟩ | hstops
  · rw [hresult] at h
    simp only [hdecode, Except.toOption] at h
    cases h
  · exact hstops

/-- A step counts the frame, whatever else it does. -/
theorem step_heartbeat (runtime : RpuRuntime H) (input : HandledFrame) :
    (step runtime (.frame input)).heartbeat = runtime.heartbeat + 1 := by
  rcases step_frame_cases runtime input with
    ⟨hstep, -⟩ | ⟨_, _, _, -, ⟨_, _, -, hstep, -⟩ | ⟨_, _, -, hstep, -⟩⟩
  all_goals
    rw [hstep]
    rfl

theorem length_answers (runtime : RpuRuntime H) (events : List RuntimeEvent) :
    (answers runtime events).length = events.countP (·.isFrame) := by
  induction events generalizing runtime with
  | nil => rfl
  | cons event events ih =>
    cases event with
    | frame input => simp [answers, ih, RuntimeEvent.isFrame]
    | setInterlock interlock => simp [answers, ih, RuntimeEvent.isFrame]

/-- The replies of a run are numbered by consecutive heartbeats. -/
theorem answers_heartbeat {runtime : RpuRuntime H} {events : List RuntimeEvent} {k : ℕ}
    {reply : RpuWireReply} (h : (answers runtime events)[k]? = some (some reply)) :
    reply.heartbeat = runtime.heartbeat + 1 + UInt64.ofNat k := by
  induction events generalizing runtime k with
  | nil => cases h
  | cons event events ih =>
    cases event with
    | setInterlock interlock =>
      have hlater : (answers (runtime.setInterlock interlock) events)[k]? = some (some reply) := h
      have hheartbeat := ih hlater
      exact hheartbeat
    | frame input =>
      cases k with
      | zero =>
        rw [answers, List.getElem?_cons_zero, Option.some.injEq] at h
        rw [answerTo_heartbeat h]
        simp
      | succ k =>
        rw [answers, List.getElem?_cons_succ] at h
        calc reply.heartbeat
            = runtime.heartbeat + 1 + 1 + UInt64.ofNat k := by rw [ih h, step_heartbeat]
          _ = runtime.heartbeat + 1 + UInt64.ofNat (k + 1) := by
              rw [UInt64.ofNat_add, UInt64.add_assoc (runtime.heartbeat + 1),
                UInt64.add_comm (UInt64.ofNat k)]
              rfl

theorem answers_stops {runtime : RpuRuntime H} {events : List RuntimeEvent} {k : ℕ}
    (h : (answers runtime events)[k]? = some none) :
    ∃ (runtime' : RpuRuntime H) (input : HandledFrame), CallStops runtime' input := by
  induction events generalizing runtime k with
  | nil => cases h
  | cons event events ih =>
    cases event with
    | setInterlock interlock =>
      have hlater : (answers (runtime.setInterlock interlock) events)[k]? = some none := h
      exact ih hlater
    | frame input =>
      cases k with
      | zero =>
        rw [answers, List.getElem?_cons_zero, Option.some.injEq] at h
        exact ⟨runtime, input, answerTo_eq_none h⟩
      | succ k =>
        rw [answers, List.getElem?_cons_succ] at h
        exact ih h

/-! ## Counting one higher -/

/-- A reply counted one higher. -/
def recount (reply : RpuWireReply) : RpuWireReply := { reply with heartbeat := reply.heartbeat + 1 }

/-- The heartbeat is counted and reported, and read nowhere else. -/
theorem handleFrame_tick (input : Vector UInt8 rpuWireCommandLen) (runtime : RpuRuntime H) :
    (∃ reply runtime', RpuRuntime.handleFrame input runtime = .ok reply.encode runtime' ∧
      RpuRuntime.handleFrame input runtime.tick = .ok (recount reply).encode runtime'.tick) ∨
    ∃ runtime', RpuRuntime.handleFrame input runtime = .error .panic runtime' ∧
      RpuRuntime.handleFrame input runtime.tick = .error .panic runtime'.tick := by
  cases hdecode : RpuWireCommand.decode input.toList with
  | error err =>
    rw [RpuRuntime.handleFrame_of_error hdecode, RpuRuntime.handleFrame_of_error hdecode]
    exact Or.inl ⟨_, _, rfl, rfl⟩
  | ok command =>
    by_cases hstatus : command.op = .status
    · rw [RpuRuntime.handleFrame_of_status hdecode hstatus,
        RpuRuntime.handleFrame_of_status hdecode hstatus]
      exact Or.inl ⟨_, _, rfl, rfl⟩
    · cases hready : runtime.interlock.readyForAfe with
      | false =>
        have hready' : runtime.tick.interlock.readyForAfe = false := hready
        rw [RpuRuntime.handleFrame_of_interlocked hdecode hstatus hready,
          RpuRuntime.handleFrame_of_interlocked hdecode hstatus hready']
        exact Or.inl ⟨_, _, rfl, rfl⟩
      | true =>
        have hready' : runtime.tick.interlock.readyForAfe = true := hready
        have hconfig : runtime.tick.configState = runtime.configState := rfl
        have hhardware : runtime.tick.hardware = runtime.hardware := rfl
        rw [RpuRuntime.handleFrame_of_ready hdecode hstatus hready,
          RpuRuntime.handleFrame_of_ready hdecode hstatus hready', hconfig, hhardware]
        cases dispatch command runtime.configState with
        | none => exact Or.inl ⟨_, _, rfl, rfl⟩
        | some pair =>
          dsimp only
          rcases pair.1.perform runtime.hardware with _ | ⟨_ | _, _⟩
          · exact Or.inl ⟨_, _, rfl, rfl⟩
          · exact Or.inl ⟨_, _, rfl, rfl⟩
          · exact Or.inr ⟨_, rfl, rfl⟩

theorem answerTo_tick (runtime : RpuRuntime H) (input : HandledFrame) :
    answerTo runtime.tick input = (answerTo runtime input).map recount := by
  unfold answerTo
  rcases handleFrame_tick input.bytes runtime with ⟨_, _, hresult, htick⟩ | ⟨_, hresult, htick⟩
  · rw [hresult, htick]
    simp only [RpuWireReply.decode_encode, Except.toOption, Option.map_some]
  · rw [hresult, htick, Option.map_none]

theorem step_tick (runtime : RpuRuntime H) (event : RuntimeEvent) :
    step runtime.tick event = (step runtime event).tick := by
  cases event with
  | setInterlock interlock => rfl
  | frame input =>
    rcases handleFrame_tick input.bytes runtime with ⟨_, _, hresult, htick⟩ | ⟨_, hresult, htick⟩
    · simp only [step, final, hresult, htick]
    · simp only [step, final, hresult, htick]

theorem answers_tick (runtime : RpuRuntime H) (events : List RuntimeEvent) :
    answers runtime.tick events = (answers runtime events).map (Option.map recount) := by
  induction events generalizing runtime with
  | nil => rfl
  | cons event events ih =>
    cases event with
    | setInterlock interlock => exact ih (runtime.setInterlock interlock)
    | frame input =>
      calc answers runtime.tick (.frame input :: events)
          = answerTo runtime.tick input :: answers (step runtime.tick (.frame input)) events := rfl
        _ = (answers runtime (.frame input :: events)).map (Option.map recount) := by
            rw [answerTo_tick, step_tick, ih]
            rfl

/-- Every frame, in every state of every hardware, is answered as `Reports` says, unless the
hardware stops. A refused frame makes no call and is seen later only in the count, and the replies
of a run are counted one after the other. -/
theorem frames_reported (runtime : RpuRuntime (Recorded H)) :
    (∀ input : HandledFrame,
      (∃ bytes reply runtime', RpuRuntime.handleFrame input.bytes runtime = .ok bytes runtime' ∧
        RpuWireReply.decode bytes.toList = .ok reply ∧ Reports runtime input reply runtime' ∧
        (reply.status = .rejected ∨ reply.status = .interlocked →
          runtime'.hardware.calls = runtime.hardware.calls ∧
          runtime'.configState = runtime.configState ∧
          ∀ events, answers runtime' events =
            (answers runtime events).map (Option.map recount))) ∨
      CallStops runtime input) ∧
    ∀ events,
      (answers runtime events).length = events.countP (·.isFrame) ∧
      ∀ k (answer : Option RpuWireReply), (answers runtime events)[k]? = some answer →
        match answer with
        | some reply => reply.heartbeat = runtime.heartbeat + 1 + UInt64.ofNat k
        | none => ∃ (runtime' : RpuRuntime (Recorded H)) (input : HandledFrame),
            CallStops runtime' input := by
  refine ⟨fun input ↦ ?_, fun events ↦ ⟨length_answers runtime events, fun k answer h ↦ ?_⟩⟩
  · rcases handleFrame_reports runtime input with
      ⟨bytes, reply, runtime', hresult, hdecode, hreports⟩ | hstops
    · refine Or.inl ⟨bytes, reply, runtime', hresult, hdecode, hreports, fun hstatus ↦ ?_⟩
      rw [hreports.refused hstatus]
      exact ⟨rfl, rfl, answers_tick runtime⟩
    · exact Or.inr hstops
  · cases answer with
    | some reply => exact answers_heartbeat h
    | none => exact answers_stops h

end DaphneSc.Rpu.Runtime
