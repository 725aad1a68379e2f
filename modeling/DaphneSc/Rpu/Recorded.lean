import DaphneSc.Rpu.Dispatch

/-!
# Hardware whose calls are recorded

Any hardware can be watched: `Recorded H` behaves as `H` and keeps the calls made on it, each with
the state it was made in and whether it succeeded. Erasing the record from a runtime gives back the
runtime on `H` itself, so what is said about recorded runs is said about all runs.
-/

namespace DaphneSc.Rpu.Runtime

open Core.Afe Core.RpuWire Program

/-- One call, the hardware it found and whether it returned. -/
structure CallRecord (H : Type) where
  call : HardwareCall
  before : H
  succeeded : Bool

/-- Hardware together with the calls made on it, oldest first. -/
structure Recorded (H : Type) where
  hardware : H
  calls : List (CallRecord H)

variable {H ε : Type}

namespace Recorded

/-- Make a call and write it down. -/
def record {α : Type} (call : HardwareCall) (m : Prog ε H α) : Prog ε (Recorded H) α := fun s ↦
  match m s.hardware with
  | .ok a hardware => .ok a ⟨hardware, s.calls ++ [⟨call, s.hardware, true⟩]⟩
  | .error e hardware => .error e ⟨hardware, s.calls ++ [⟨call, s.hardware, false⟩]⟩

theorem record_map {α β : Type} (call : HardwareCall) (f : α → β) (m : Prog ε H α) :
    f <$> record call m = record call (f <$> m) := by
  funext s
  rw [run_map, record, record, run_map]
  cases m s.hardware <;> rfl

end Recorded

variable [AfeHardware H ε]

instance : AfeHardware (Recorded H) ε where
  readRegister afePl register :=
    Recorded.record (.readRegister afePl register) (AfeHardware.readRegister afePl register)
  writeRegister afePl register value :=
    Recorded.record (.writeRegister afePl register value)
      (AfeHardware.writeRegister afePl register value)
  readScalar op afePl := Recorded.record (.readScalar op afePl) (AfeHardware.readScalar op afePl)
  writeScalar op afePl value :=
    Recorded.record (.writeScalar op afePl value) (AfeHardware.writeScalar op afePl value)
  readChannelScalar command :=
    Recorded.record (.readChannelScalar command) (AfeHardware.readChannelScalar command)
  writeChannelScalar command :=
    Recorded.record (.writeChannelScalar command) (AfeHardware.writeChannelScalar command)
  readVbiasControl := Recorded.record .readVbiasControl AfeHardware.readVbiasControl
  writeVbiasControl value enable :=
    Recorded.record (.writeVbiasControl value enable) (AfeHardware.writeVbiasControl value enable)
  setReset asserted := Recorded.record (.setReset asserted) (AfeHardware.setReset asserted)
  doReset := Recorded.record .doReset AfeHardware.doReset
  setPowerState enabled :=
    Recorded.record (.setPowerState enabled) (AfeHardware.setPowerState enabled)
  align := Recorded.record .align AfeHardware.align
  beginConfigureFrontend counts :=
    Recorded.record (.beginConfigureFrontend counts) (AfeHardware.beginConfigureFrontend counts)
  configureAfe config := Recorded.record (.configureAfe config) (AfeHardware.configureAfe config)
  configureChannel config :=
    Recorded.record (.configureChannel config) (AfeHardware.configureChannel config)
  applyConfigureFrontend :=
    Recorded.record .applyConfigureFrontend AfeHardware.applyConfigureFrontend
  writeFunction afePl name value :=
    Recorded.record (.writeFunction afePl name value) (AfeHardware.writeFunction afePl name value)

/-- A call on recorded hardware is the call itself, written down. -/
theorem perform_recorded (call : HardwareCall) :
    (call.perform : Prog ε (Recorded H) (Option UInt32)) = Recorded.record call call.perform := by
  cases call <;> exact Recorded.record_map _ _ _

namespace RpuRuntime

/-- Forget the record. -/
def erase (runtime : RpuRuntime (Recorded H)) : RpuRuntime H where
  hardware := runtime.hardware.hardware
  heartbeat := runtime.heartbeat
  interlock := runtime.interlock
  configState := runtime.configState

theorem configState_erase (runtime : RpuRuntime (Recorded H)) :
    runtime.erase.configState = runtime.configState := rfl

/-- Recording changes no reply and no state. -/
theorem handleFrame_erase (input : Vector UInt8 rpuWireCommandLen)
    (runtime : RpuRuntime (Recorded H)) :
    handleFrame input runtime.erase =
      match handleFrame input runtime with
      | .ok reply runtime' => .ok reply runtime'.erase
      | .error e runtime' => .error e runtime'.erase := by
  cases hdecode : RpuWireCommand.decode input.toList with
  | error err =>
    rw [handleFrame_of_error hdecode, handleFrame_of_error hdecode]
    rfl
  | ok command =>
    by_cases hstatus : command.op = .status
    · rw [handleFrame_of_status hdecode hstatus, handleFrame_of_status hdecode hstatus]
      rfl
    · cases hready : runtime.interlock.readyForAfe with
      | false =>
        have hready' : runtime.erase.interlock.readyForAfe = false := hready
        rw [handleFrame_of_interlocked hdecode hstatus hready,
          handleFrame_of_interlocked hdecode hstatus hready']
        rfl
      | true =>
        have hready' : runtime.erase.interlock.readyForAfe = true := hready
        have hconfig : runtime.erase.configState = runtime.configState := rfl
        rw [handleFrame_of_ready hdecode hstatus hready,
          handleFrame_of_ready hdecode hstatus hready', hconfig]
        cases dispatch command runtime.configState with
        | none => rfl
        | some pair =>
          obtain ⟨call, next⟩ := pair
          dsimp only
          rw [perform_recorded, Recorded.record]
          have hhardware : runtime.erase.hardware = runtime.hardware.hardware := rfl
          rw [hhardware]
          rcases call.perform runtime.hardware.hardware with _ | ⟨_ | _, _⟩ <;> rfl

end RpuRuntime

/-- Recorded runs are the runs of the hardware itself. -/
theorem run_erase (runtime : RpuRuntime (Recorded H)) (events : List RuntimeEvent) :
    (run runtime events).erase = run runtime.erase events := by
  induction events generalizing runtime with
  | nil => rfl
  | cons event events ih =>
    have hstep : (step runtime event).erase = step runtime.erase event := by
      cases event with
      | setInterlock interlock => rfl
      | frame input =>
        simp only [step, final]
        rw [RpuRuntime.handleFrame_erase]
        cases RpuRuntime.handleFrame input.bytes runtime <;> rfl
    exact (ih (step runtime event)).trans (by rw [hstep]; rfl)

/-- A step makes no call, or one, which is written down and moves the bookkeeping on when it
succeeds. -/
theorem step_recorded (runtime : RpuRuntime (Recorded H)) (event : RuntimeEvent) :
    ((step runtime event).hardware.calls = runtime.hardware.calls ∧
      (step runtime event).configState = runtime.configState) ∨
    ∃ command call next succeeded, runtime.interlock.readyForAfe = true ∧
      dispatch command runtime.configState = some (call, next) ∧
      (step runtime event).hardware.calls =
        runtime.hardware.calls ++ [⟨call, runtime.hardware.hardware, succeeded⟩] ∧
      (step runtime event).configState = if succeeded then next else runtime.configState := by
  cases event with
  | setInterlock interlock => exact Or.inl ⟨rfl, rfl⟩
  | frame input =>
    rcases step_frame_cases runtime input with ⟨hstep, -⟩ | ⟨command, call, next, hcalls, hresult⟩
    · rw [hstep]
      exact Or.inl ⟨rfl, rfl⟩
    · refine Or.inr ⟨command, call, next, ?_⟩
      simp only [perform_recorded, Recorded.record] at hresult
      cases hcall : call.perform runtime.hardware.hardware with
      | ok readback hardware =>
        simp only [hcall] at hresult
        rcases hresult with ⟨_, _, hok, hstep, -⟩ | ⟨_, _, herror, -, -⟩
        · cases hok
          rw [hstep]
          exact ⟨true, hcalls.ready, hcalls.dispatched, rfl, rfl⟩
        · cases herror
      | error abort hardware =>
        simp only [hcall] at hresult
        rcases hresult with ⟨_, _, hok, -, -⟩ | ⟨_, _, herror, hstep, -⟩
        · cases hok
        · cases herror
          rw [hstep]
          exact ⟨false, hcalls.ready, hcalls.dispatched, rfl, rfl⟩

end DaphneSc.Rpu.Runtime
