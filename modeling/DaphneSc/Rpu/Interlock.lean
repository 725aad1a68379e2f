import DaphneSc.Rpu.Recorded

/-!
# The interlock gates the hardware

In every run, whatever frames arrive and however the interlock changes between them, the hardware
is called only while the interlock is ready. A command refused by the interlock and a status command
leave the hardware and the configuration bookkeeping as they were.
-/

namespace DaphneSc.Rpu.Runtime

open Core.Afe Core.RpuWire Program

variable {H ε : Type} [AfeHardware H ε]

/-- The calls of a run, each with the interlock state it was made under. -/
def callTrace (runtime : RpuRuntime (Recorded H)) :
    List RuntimeEvent → List (InterlockState × CallRecord H)
  | [] => []
  | event :: events =>
    ((step runtime event).hardware.calls.drop runtime.hardware.calls.length).map
      (runtime.interlock, ·) ++ callTrace (step runtime event) events

/-! ## One step -/

theorem step_frame_interlock (runtime : RpuRuntime H) (input : HandledFrame) :
    (step runtime (.frame input)).interlock = runtime.interlock := by
  rcases step_frame_cases runtime input with
    ⟨h, -⟩ | ⟨_, _, _, _, ⟨_, _, _, h, -⟩ | ⟨_, _, _, h, -⟩⟩
  all_goals
    rw [h]
    rfl

/-- A step adds calls to the record, and adds one only while the interlock is ready. -/
theorem step_calls (runtime : RpuRuntime (Recorded H)) (event : RuntimeEvent) :
    ∃ calls, (step runtime event).hardware.calls = runtime.hardware.calls ++ calls ∧
      (calls = [] ∨ runtime.interlock.readyForAfe = true) := by
  rcases step_recorded runtime event with ⟨hcalls, -⟩ | ⟨_, _, _, _, hready, -, hcalls, -⟩
  · exact ⟨[], by simpa using hcalls, Or.inl rfl⟩
  · exact ⟨_, hcalls, Or.inr hready⟩

/-! ## Whole runs -/

/-- The trace accounts for every recorded call. -/
theorem callTrace_calls (runtime : RpuRuntime (Recorded H)) (events : List RuntimeEvent) :
    (run runtime events).hardware.calls =
      runtime.hardware.calls ++ (callTrace runtime events).map (·.2) := by
  induction events generalizing runtime with
  | nil => simp [callTrace]
  | cons event events ih =>
    obtain ⟨calls, hcalls, -⟩ := step_calls runtime event
    calc (run runtime (event :: events)).hardware.calls
        = (run (step runtime event) events).hardware.calls := rfl
      _ = runtime.hardware.calls ++ calls ++
            (callTrace (step runtime event) events).map (·.2) := by rw [ih, hcalls]
      _ = runtime.hardware.calls ++ (callTrace runtime (event :: events)).map (·.2) := by
          simp [callTrace, hcalls, Function.comp_def]

theorem callTrace_ready (runtime : RpuRuntime (Recorded H)) (events : List RuntimeEvent) :
    ∀ entry ∈ callTrace runtime events, entry.1.readyForAfe = true := by
  induction events generalizing runtime with
  | nil => simp [callTrace]
  | cons event events ih =>
    intro entry hentry
    rcases List.mem_append.mp hentry with hnow | hlater
    · obtain ⟨calls, hcalls, hready⟩ := step_calls runtime event
      rw [hcalls, List.drop_left] at hnow
      obtain ⟨call, hcall, rfl⟩ := List.mem_map.mp hnow
      rcases hready with rfl | hready
      · exact absurd hcall List.not_mem_nil
      · exact hready
    · exact ih (step runtime event) entry hlater

/-- In every run, hardware calls are made only under a ready interlock, which no frame changes. At
its end, a command other than a status command is refused without effect while the interlock is not
ready, naming a missing condition, and a status command has no effect under any interlock. -/
theorem interlock_gates_hardware (hardware : H) (events : List RuntimeEvent) :
    let start : RpuRuntime (Recorded H) := RpuRuntime.new ⟨hardware, []⟩
    let runtime := run start events
    (callTrace start events).map (·.2) = runtime.hardware.calls ∧
    (∀ entry ∈ callTrace start events, entry.1.readyForAfe = true) ∧
    ∀ input : HandledFrame,
      (step runtime (.frame input)).interlock = runtime.interlock ∧
      ∀ command, RpuWireCommand.decode input.bytes.toList = .ok command →
        (command.op ≠ .status → runtime.interlock.readyForAfe = false →
          ∃ bytes reply runtime', RpuRuntime.handleFrame input.bytes runtime = .ok bytes runtime' ∧
            RpuWireReply.decode bytes.toList = .ok reply ∧ reply.status = .interlocked ∧
            reply.interlockCode ≠ 0 ∧ runtime'.hardware = runtime.hardware ∧
            runtime'.configState = runtime.configState) ∧
        (command.op = .status →
          ∃ bytes runtime', RpuRuntime.handleFrame input.bytes runtime = .ok bytes runtime' ∧
            runtime'.hardware = runtime.hardware ∧
            runtime'.configState = runtime.configState) := by
  intro start runtime
  refine ⟨?_, callTrace_ready start events, fun input ↦
    ⟨step_frame_interlock runtime input, fun command hdecode ↦ ⟨?_, ?_⟩⟩⟩
  · exact (callTrace_calls start events).symm
  · intro hstatus hready
    have hcode : runtime.interlock.code ≠ 0 := by
      intro hzero
      rw [runtime.interlock.code_eq_zero_iff, hready] at hzero
      exact Bool.false_ne_true hzero
    exact ⟨_, _, _, RpuRuntime.handleFrame_of_interlocked hdecode hstatus hready,
      RpuWireReply.decode_encode _, rfl, hcode, rfl, rfl⟩
  · intro hstatus
    exact ⟨_, _, RpuRuntime.handleFrame_of_status hdecode hstatus, rfl, rfl⟩

end DaphneSc.Rpu.Runtime
