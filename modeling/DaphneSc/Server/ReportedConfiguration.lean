import DaphneSc.Rpu.ConfigureRun
import DaphneSc.Rpu.Recorded
import DaphneSc.Rpu.ConfigureReadback
import DaphneSc.Server.PromptLink

/-!
# Configurations reported as applied

The host sends a configuration frame by frame and reports what the last reply says. The RPU keeps a
sequence open until it is applied or begun anew, so a configuration whose begin was refused can
apply the one that was left open. When no sequence was left open, or the begin was not refused, what
is reported as applied is what was sent.
-/

namespace DaphneSc.Server.ReportedConfiguration

open Core.Afe Core.RpuWire Core.RpuWire.RpuWireCommand Core.Rpu Rpu.Runtime Rpu.Mmio
open Rpu.Mmio.AfeMmioBackend Rpu.ConfigureRun Rpu.ConfigureSequence Server.Rpmsg
  Server.Rpmsg.RpmsgAfeTransport Program Slots
open Rpu.ConfigureReadback (stepFrame_interlock sampleAfe)

variable {I ε : Type}

/-! ## Programmed configurations -/

/-- The configurations that were programmed, in order. -/
def programmedConfigs (calls : List (CallRecord (AfeMmioBackend I))) : List StagedConfig :=
  calls.filterMap fun record ↦
    match record.call, record.succeeded with
    | .applyConfigureFrontend, true => some record.before.stagedConfig
    | _, _ => none

/-- A staged configuration of exactly these records. -/
structure IsConfiguration (staged : StagedConfig) (afes : List AfeFrontendConfig)
    (channels : List ChannelFrontendConfig) (biasControl : UInt16) : Prop where
  afes : (filled staged.afes).Perm (afes.map wireAfe)
  channels : (filled staged.channels).Perm (channels.map wireChannel)
  biasControl : staged.counts.biasControl = biasControl

/-- The slots hold exactly the records sent when there are as many of them as announced. -/
theorem isConfiguration_of_holds {staged : StagedConfig} {afes : List AfeFrontendConfig}
    {channels : List ChannelFrontendConfig} {biasControl : UInt16}
    (hafes : afes.length ≤ 65535) (hchannels : channels.length ≤ 65535)
    (h : Holds (announced afes channels biasControl) (afes.map wireAfe)
      (channels.map wireChannel) staged)
    (hcounts : (staged.validateCounts : Except (MmioAfeError ε) Unit) = .ok ()) :
    IsConfiguration staged afes channels biasControl := by
  have hlength {n m : ℕ} (hn : n ≤ 65535) (hm : m ≤ 65535)
      (heq : UInt16.ofNat n = UInt16.ofNat m) : n = m := by
    have htoNat := congrArg UInt16.toNat heq
    rw [UInt16.toNat_ofNat', UInt16.toNat_ofNat'] at htoNat
    omega
  obtain ⟨hreceivedAfes, hreceivedChannels⟩ := StagedConfig.validateCounts_eq_ok_iff.mp hcounts
  rw [StagedConfig.receivedAfes, h.staged_counts, h.staged_afes] at hreceivedAfes
  rw [StagedConfig.receivedChannels, h.staged_counts, h.staged_channels] at hreceivedChannels
  have hafeSlots : ((afes.map wireAfe).map afeSlot).Nodup := by
    apply (length_filled_fill_eq_iff h.afe_valid).mp
    rw [List.length_map]
    exact hlength ((length_filled_le _).trans (by decide)) hafes hreceivedAfes
  have hchannelSlots : ((channels.map wireChannel).map channelSlot).Nodup := by
    apply (length_filled_fill_eq_iff fun record hmem ↦ (h.channel_valid record hmem).2.2).mp
    rw [List.length_map]
    exact hlength ((length_filled_le _).trans (by decide)) hchannels hreceivedChannels
  constructor
  · exact h.afes_perm hafeSlots
  · exact h.channels_perm hchannelSlots
  · rw [h.staged_counts]
    rfl

/-! ## Recorded frames -/

section Recorded

variable {H : Type} [AfeHardware H ε]

theorem erase_setInterlocks (runtime : RpuRuntime (Recorded H))
    (interlocks : List InterlockState) :
    (setInterlocks runtime interlocks).erase = setInterlocks runtime.erase interlocks := by
  induction interlocks generalizing runtime with
  | nil => rfl
  | cons interlock interlocks ih => exact ih _

theorem erase_stepFrame (runtime : RpuRuntime (Recorded H)) (frame : RpuWireCommand) :
    (stepFrame runtime frame).erase = stepFrame runtime.erase frame := by
  simp only [stepFrame, final, RpuRuntime.handleFrame_erase]
  cases RpuRuntime.handleFrame frame.encode runtime <;> rfl

theorem erase_feed (interlocks : ℕ → List InterlockState) (runtime : RpuRuntime (Recorded H))
    (frames : List RpuWireCommand) :
    (feed interlocks runtime frames).erase = feed interlocks runtime.erase frames := by
  induction frames generalizing interlocks runtime with
  | nil => rfl
  | cons frame frames ih =>
    rw [feed, feed, ih, erase_stepFrame, erase_setInterlocks]

theorem replyTo_erase (runtime : RpuRuntime (Recorded H)) (frame : RpuWireCommand) :
    replyTo runtime.erase frame = replyTo runtime frame := by
  simp only [replyTo, RpuRuntime.handleFrame_erase]
  cases RpuRuntime.handleFrame frame.encode runtime <;> rfl

theorem applied_erase (runtime : RpuRuntime (Recorded H)) (frame : RpuWireCommand) :
    applied runtime.erase frame = applied runtime frame := by
  rw [applied, applied, replyTo_erase]

/-- Recording changes no reply. -/
theorem replies_erase (interlocks : ℕ → List InterlockState) (runtime : RpuRuntime (Recorded H))
    (frames : List RpuWireCommand) :
    replies interlocks runtime.erase frames = replies interlocks runtime frames := by
  induction frames generalizing interlocks runtime with
  | nil => rfl
  | cons frame frames ih =>
    rw [replies, replies, ← erase_setInterlocks, replyTo_erase, ← erase_stepFrame, ih]

/-- A call that returns or fails is written down as such. -/
theorem calls_of_ok {call : HardwareCall} {hardware hardware' : Recorded H} {a : Option UInt32}
    (h : (call.perform : Prog ε (Recorded H) (Option UInt32)) hardware = .ok a hardware') :
    hardware'.calls = hardware.calls ++ [⟨call, hardware.hardware, true⟩] := by
  rw [perform_recorded, Recorded.record] at h
  cases hcall : (call.perform : Prog ε H (Option UInt32)) hardware.hardware with
  | ok b inner =>
    rw [hcall] at h
    cases h
    rfl
  | error abort inner =>
    rw [hcall] at h
    cases h

theorem calls_of_error {call : HardwareCall} {hardware hardware' : Recorded H} {abort : Abort ε}
    (h : (call.perform : Prog ε (Recorded H) (Option UInt32)) hardware = .error abort hardware') :
    hardware'.calls = hardware.calls ++ [⟨call, hardware.hardware, false⟩] := by
  rw [perform_recorded, Recorded.record] at h
  cases hcall : (call.perform : Prog ε H (Option UInt32)) hardware.hardware with
  | ok b inner =>
    rw [hcall] at h
    cases h
  | error abort' inner =>
    rw [hcall] at h
    cases h
    rfl

end Recorded

/-! ## Frames of a configuration -/

section Fed

variable [RegisterIo I ε]

/-- Interlock changes concern neither the bookkeeping nor the hardware. -/
theorem setInterlocks_eq {H : Type} (runtime : RpuRuntime H) (interlocks : List InterlockState) :
    setInterlocks runtime interlocks =
      runtime.setInterlock (setInterlocks runtime interlocks).interlock := by
  induction interlocks generalizing runtime with
  | nil => rfl
  | cons interlock interlocks ih => exact ih _

/-- A frame other than an apply programs nothing. -/
theorem programs_nothing (runtime : RpuRuntime (Recorded (AfeMmioBackend I)))
    {frame : RpuWireCommand} (hop : frame.op ≠ .applyConfigureFrontend)
    (hne : frame.op ≠ .readAlignment) :
    ∃ calls, (stepFrame runtime frame).hardware.calls = runtime.hardware.calls ++ calls ∧
      programmedConfigs calls = [] := by
  have hother {call : HardwareCall} {next : ConfigState} (succeeded : Bool)
      (hdispatch : dispatch frame runtime.configState = some (call, next)) :
      programmedConfigs [⟨call, runtime.hardware.hardware, succeeded⟩] = [] := by
    have hcall : call ≠ .applyConfigureFrontend := by
      rintro rfl
      cases configures_of_dispatch hdispatch with
      | apply happly => exact hop happly
      | other houtside => exact houtside trivial
    cases call with
    | applyConfigureFrontend => exact absurd rfl hcall
    | _ => rfl
  rcases stepFrame_cases runtime hne with ⟨hstep, -⟩ |
    ⟨call, next, hdispatch, -, -, ⟨_, hardware, hperform, hstep, -⟩ | ⟨_, hardware, hperform, hstep,
      -⟩⟩
  · rw [hstep]
    exact ⟨[], (List.append_nil _).symm, rfl⟩
  · rw [hstep]
    exact ⟨_, calls_of_ok hperform, hother true hdispatch⟩
  · rw [hstep]
    exact ⟨_, calls_of_error hperform, hother false hdispatch⟩

theorem programmedConfigs_append (calls calls' : List (CallRecord (AfeMmioBackend I))) :
    programmedConfigs (calls ++ calls') = programmedConfigs calls ++ programmedConfigs calls' :=
  List.filterMap_append

/-- Nor do several, with interlock changes in between. -/
theorem feed_programs_nothing (interlocks : ℕ → List InterlockState)
    (runtime : RpuRuntime (Recorded (AfeMmioBackend I))) {frames : List RpuWireCommand}
    (hops : ∀ frame ∈ frames,
      frame.op ≠ .applyConfigureFrontend ∧ frame.op ≠ .readAlignment) :
    ∃ calls, (feed interlocks runtime frames).hardware.calls = runtime.hardware.calls ++ calls ∧
      programmedConfigs calls = [] := by
  induction frames generalizing interlocks runtime with
  | nil => exact ⟨[], (List.append_nil _).symm, rfl⟩
  | cons frame frames ih =>
    obtain ⟨hop, hne⟩ := hops frame List.mem_cons_self
    obtain ⟨calls, hcalls, hnothing⟩ :=
      programs_nothing (setInterlocks runtime (interlocks 0)) hop hne
    obtain ⟨calls', hcalls', hnothing'⟩ := ih (fun n ↦ interlocks (n + 1))
      (stepFrame (setInterlocks runtime (interlocks 0)) frame)
      fun frame' hmem ↦ hops frame' (List.mem_cons_of_mem _ hmem)
    refine ⟨calls ++ calls', ?_, by rw [programmedConfigs_append, hnothing, hnothing']; rfl⟩
    rw [feed, hcalls', hcalls, List.append_assoc, setInterlocks_eq]
    rfl

/-- An apply that is applied programs what is staged. -/
theorem programs_staged {runtime : RpuRuntime (Recorded (AfeMmioBackend I))}
    {frame : RpuWireCommand} (hop : frame.op = .applyConfigureFrontend)
    (happlied : applied runtime frame = true) :
    (stepFrame runtime frame).hardware.calls = runtime.hardware.calls ++
      [⟨.applyConfigureFrontend, runtime.hardware.hardware, true⟩] := by
  have hne : frame.op ≠ .readAlignment := by simp [hop]
  rcases stepFrame_cases runtime hne with ⟨-, hstatus⟩ |
    ⟨call, next, hdispatch, -, -, ⟨_, hardware, hperform, hstep, -⟩ | ⟨_, _, _, _, happ⟩⟩
  · exact absurd (hstatus happlied) (by simp [hop])
  · cases configures_of_dispatch hdispatch with
    | apply =>
      rw [hstep]
      exact calls_of_ok hperform
    | other _ hne => exact absurd hop hne.2.2.2
    | «begin» hop' | afe hop' | channel hop' => simp [hop'] at hop
  · exact absurd happlied (by simp [happ])

variable {runtime : RpuRuntime (AfeMmioBackend I)}

/-- An open sequence follows the frames fed to the runtime. -/
theorem follows_feed {counts : RpuWireConfigCounts} {sent frames : List RpuWireCommand}
    (interlocks : ℕ → List InterlockState) (h : Follows counts sent runtime)
    (hframes : ∀ frame ∈ frames, frame.op = .configureAfe ∨ frame.op = .configureChannel) :
    Follows counts (sent ++ frames) (feed interlocks runtime frames) := by
  induction frames generalizing interlocks runtime sent with
  | nil =>
    rw [List.append_nil]
    exact h
  | cons frame frames ih =>
    have hop := hframes frame List.mem_cons_self
    have hbegin : frame.op ≠ .beginConfigureFrontend := by rcases hop with hop | hop <;> simp [hop]
    have hne : frame.op ≠ .readAlignment := by rcases hop with hop | hop <;> simp [hop]
    have hfacing : Follows counts sent (setInterlocks runtime (interlocks 0)) := by
      rw [setInterlocks_eq]
      exact h
    have hrest := ih (fun n ↦ interlocks (n + 1)) (hfacing.stepFrame hbegin hne)
      fun frame' hmem ↦ hframes frame' (List.mem_cons_of_mem _ hmem)
    rwa [List.append_assoc, List.singleton_append] at hrest

/-- Without a begin a closed sequence stays closed. -/
theorem closed_stepFrame (hclosed : runtime.configState.active = false) {frame : RpuWireCommand}
    (hbegin : frame.op ≠ .beginConfigureFrontend) (hne : frame.op ≠ .readAlignment) :
    (stepFrame runtime frame).configState.active = false := by
  have hnot : ¬ runtime.configState.active = true := by simp [hclosed]
  rcases stepFrame_cases runtime hne with ⟨hstep, -⟩ |
    ⟨call, next, hdispatch, -, -, ⟨_, hardware, -, hstep, -⟩ | ⟨_, hardware, -, hstep, -⟩⟩
  · rw [hstep]
    exact hclosed
  · rw [hstep]
    cases configures_of_dispatch hdispatch with
    | «begin» hop => exact absurd hop hbegin
    | afe _ _ hactive => exact absurd hactive hnot
    | channel _ _ hactive => exact absurd hactive hnot
    | apply _ hactive => exact absurd hactive hnot
    | other => exact hclosed
  · rw [hstep]
    exact hclosed

/-- A begin that is refused does not open a sequence. -/
theorem closed_of_refused {frame : RpuWireCommand} (hop : frame.op = .beginConfigureFrontend)
    (hready : runtime.interlock.readyForAfe = false)
    (hclosed : runtime.configState.active = false) :
    (stepFrame runtime frame).configState.active = false := by
  have hne : frame.op ≠ .readAlignment := by simp [hop]
  rcases stepFrame_cases runtime hne with ⟨hstep, -⟩ | ⟨_, _, _, hready', _⟩
  · rw [hstep]
    exact hclosed
  · rw [hready] at hready'
    exact absurd hready' Bool.false_ne_true

theorem closed_feed (interlocks : ℕ → List InterlockState)
    (hclosed : runtime.configState.active = false) {frames : List RpuWireCommand}
    (hframes : ∀ frame ∈ frames, frame.op = .configureAfe ∨ frame.op = .configureChannel) :
    (feed interlocks runtime frames).configState.active = false := by
  induction frames generalizing interlocks runtime with
  | nil => exact hclosed
  | cons frame frames ih =>
    have hop := hframes frame List.mem_cons_self
    have hbegin : frame.op ≠ .beginConfigureFrontend := by rcases hop with hop | hop <;> simp [hop]
    have hne : frame.op ≠ .readAlignment := by rcases hop with hop | hop <;> simp [hop]
    have hfacing : (setInterlocks runtime (interlocks 0)).configState.active = false := by
      rw [setInterlocks_eq]
      exact hclosed
    exact ih _ (closed_stepFrame hfacing hbegin hne) fun frame' hmem ↦
      hframes frame' (List.mem_cons_of_mem _ hmem)

end Fed

/-! ## The interlock at each frame -/

/-- The interlock that a frame of the next call meets, by its place among the frames: the last
change before it. -/
def interlockAt {H : Type} (link : Link H) (place : ℕ) : InterlockState :=
  (((List.range (place + 1)).flatMap link.interlocks).getLast?).getD link.runtime.interlock

theorem interlock_setInterlocks {H : Type} (runtime : RpuRuntime H)
    (interlocks : List InterlockState) :
    (setInterlocks runtime interlocks).interlock =
      interlocks.getLast?.getD runtime.interlock := by
  induction interlocks using List.reverseRecOn with
  | nil => rfl
  | append_singleton interlocks interlock ih =>
    rw [setInterlocks, List.foldl_concat, List.getLast?_concat]
    rfl

theorem getD_getLast?_append {α : Type} (as bs : List α) (a : α) :
    (as ++ bs).getLast?.getD a = bs.getLast?.getD (as.getLast?.getD a) := by
  rw [List.getLast?_append]
  cases bs.getLast? <;> rfl

theorem interlock_feed {H : Type} [AfeHardware H ε] (interlocks : ℕ → List InterlockState)
    (runtime : RpuRuntime H) {frames : List RpuWireCommand}
    (hne : ∀ frame ∈ frames, frame.op ≠ .readAlignment) :
    (feed interlocks runtime frames).interlock =
      (((List.range frames.length).flatMap interlocks).getLast?).getD runtime.interlock := by
  induction frames generalizing interlocks runtime with
  | nil => rfl
  | cons frame frames ih =>
    rw [feed, ih _ _ fun frame' hmem ↦ hne frame' (List.mem_cons_of_mem _ hmem),
      stepFrame_interlock _ (hne frame List.mem_cons_self), interlock_setInterlocks,
      List.length_cons, List.range_succ_eq_map, List.flatMap_cons, getD_getLast?_append,
      List.flatMap_map]

/-- The interlock that a frame meets after the ones before it. -/
theorem interlock_facing {H : Type} [AfeHardware H ε] (link : Link H)
    {frames : List RpuWireCommand} (hne : ∀ frame ∈ frames, frame.op ≠ .readAlignment) :
    (setInterlocks (feed link.interlocks link.runtime frames)
      (link.interlocks frames.length)).interlock = interlockAt link frames.length := by
  rw [interlock_setInterlocks, interlock_feed _ _ hne, interlockAt, List.range_succ,
    List.flatMap_append, getD_getLast?_append, List.flatMap_singleton]

/-! ## Main result -/

section Submit

variable [RegisterIo I ε]

/-- What was programmed between two states of a transport. -/
def programmedDuring (before after : RpmsgAfeTransport (Link (Recorded (AfeMmioBackend I)))) :
    List StagedConfig :=
  programmedConfigs
    (after.file.runtime.hardware.calls.drop before.file.runtime.hardware.calls.length)

/-- A configuration that is reported as applied is the one that was programmed. -/
def ReportsFaithfully (transport : RpmsgAfeTransport (Link (Recorded (AfeMmioBackend I))))
    (afes : List AfeFrontendConfig) (channels : List ChannelFrontendConfig) (biasControl : UInt16) :
    Prop :=
  ∀ reply after,
    submitAfeCommand (.configureFrontend afes channels biasControl) transport = .ok reply after →
      reply.applied = true →
        ∃ staged, programmedDuring transport after = [staged] ∧
          IsConfiguration staged afes channels biasControl

/-- No sequence was left open, or the interlock lets the begin through, or it holds the apply up. -/
def Unhindered {H : Type} (link : Link H) (afes : List AfeFrontendConfig)
    (channels : List ChannelFrontendConfig) : Prop :=
  link.runtime.configState.active = false ∨
    (interlockAt link 0).readyForAfe = true ∨
    (interlockAt link (afes.length + channels.length + 1)).readyForAfe = false

variable {afes : List AfeFrontendConfig} {channels : List ChannelFrontendConfig}
variable {biasControl : UInt16}

/-- The frames of a configuration that was prepared. -/
theorem frames_of_prepareFrames {F : Type} {transport after : RpmsgAfeTransport F} {count : ℕ}
    {frames : List RpuWireCommand}
    (h : prepareFrames (.configureFrontend afes channels biasControl) transport =
      .ok (count, frames) after) :
    after.file = transport.file ∧ afes.length ≤ 65535 ∧ channels.length ≤ 65535 ∧
      ∃ firstSequence,
        frames = numberFrames firstSequence (configureBuilders afes channels biasControl) := by
  have hfile := Bound.keeps_rel.mp ((within_prepareFrames _).ok h)
  unfold prepareFrames at h
  simp only [bind_eq_ok_iff] at h
  obtain ⟨_, _, -, _, _, -, firstSequence, _, -, built, _, hbuilt, hframes⟩ := h
  have hsequence : fromAfeCommandSequence firstSequence
      (.configureFrontend afes channels biasControl) = .ok built := by
    cases hresult : fromAfeCommandSequence firstSequence
        (.configureFrontend afes channels biasControl) with
    | error err =>
      rw [hresult] at hbuilt
      cases hbuilt
    | ok built' =>
      rw [hresult] at hbuilt
      cases hbuilt
      rfl
  cases hframes
  obtain ⟨hafes, hchannels, hnumbered⟩ := configureFrontendSequence_eq_ok_iff.mp hsequence
  exact ⟨hfile, hafes, hchannels, firstSequence, hnumbered⟩

/-- An apply that returns has found its counts in order. -/
theorem validateCounts_of_perform {hardware hardware' : AfeMmioBackend I} {a : Option UInt32}
    (h : (HardwareCall.applyConfigureFrontend.perform : Prog (MmioAfeError ε) (AfeMmioBackend I) _)
      hardware = .ok a hardware') :
    (hardware.stagedConfig.validateCounts : Except (MmioAfeError ε) Unit) = .ok () := by
  obtain ⟨_, hrun, -⟩ := map_eq_ok_iff.mp h
  change (AfeMmioBackend.applyConfigureFrontend : BackendProg I ε Unit) hardware = _ at hrun
  simp only [AfeMmioBackend.applyConfigureFrontend, bind_eq_ok_iff] at hrun
  obtain ⟨backend, s, hget, _, s', hactive, _, s'', hchecked, -⟩ := hrun
  cases hget
  cases hresult : (hardware.stagedConfig.validateCounts : Except (MmioAfeError ε) Unit) with
  | ok _ => rfl
  | error err =>
    rw [hresult] at hchecked
    cases hchecked

theorem applied_of_commandReply {H : Type} [AfeHardware H ε] {runtime : RpuRuntime H}
    {frame : RpuWireCommand} {reply : RpuWireReply} (hreply : replyTo runtime frame = some reply)
    (happlied : (commandReply reply).applied = true) : applied runtime frame = true := by
  have hstatus : reply.status = .applied := by
    cases hstatus : reply.status <;> simp [commandReply, hstatus] at happlied ⊢
  rw [applied, hreply, Option.any_some, hstatus]
  rfl

/-- An apply that is applied programs the records just sent, unless the begin was refused while a
sequence was open. -/
theorem isConfiguration_of_applied {runtime : RpuRuntime (AfeMmioBackend I)}
    {interlocks : ℕ → List InterlockState} (firstSequence : UInt64)
    {beginning apply : RpuWireCommand} (hbegin : beginning.op = .beginConfigureFrontend)
    (hcounts : beginning.configureCounts = .ok (announced afes channels biasControl))
    (happly : apply.op = .applyConfigureFrontend) (hafes : afes.length ≤ 65535)
    (hchannels : channels.length ≤ 65535) (hopen : runtime.configState.active = false ∨
      (setInterlocks runtime (interlocks 0)).interlock.readyForAfe = true) :
    let records := recordFrames firstSequence afes channels
    let facing := setInterlocks (feed interlocks runtime (beginning :: records))
      (interlocks (beginning :: records).length)
    applied facing apply = true →
      IsConfiguration facing.hardware.stagedConfig afes channels biasControl := by
  intro records facing happlied
  let first := setInterlocks runtime (interlocks 0)
  have hrecords : ∀ frame ∈ records, frame.op = .configureAfe ∨ frame.op = .configureChannel :=
    fun _ ↦ op_recordFrames
  obtain ⟨next, _, hardware, hdispatch, hperform, -⟩ := call_of_apply happly happlied
  have hfed : facing.configState =
      (feed interlocks runtime (beginning :: records)).configState := by
    dsimp only [facing]
    rw [setInterlocks_eq]
    rfl
  have hbegun : applied first beginning = true := by
    rcases Bool.eq_false_or_eq_true first.interlock.readyForAfe with hready | hready
    · exact applied_begin hbegin hcounts hready
    -- A refused begin leaves the sequence closed, and then the apply is not passed on.
    · exfalso
      have hclosed : facing.configState.active = false := by
        rw [hfed]
        apply closed_feed _ (closed_of_refused hbegin hready ?_) hrecords
        change (setInterlocks runtime (interlocks 0)).configState.active = false
        rw [setInterlocks_eq]
        exact hopen.resolve_right (by simp [first, hready])
      cases configures_of_dispatch hdispatch with
      | apply _ hactive => exact absurd hactive (by simp [hclosed])
      | other houtside => exact houtside trivial
  have hfollows : Follows (announced afes channels biasControl) records facing := by
    have hstart := follows_begin hbegin hcounts hbegun
    have hall := follows_feed (fun n ↦ interlocks (n + 1)) hstart hrecords
    dsimp only [facing]
    rw [setInterlocks_eq]
    exact hall
  have hholds := hfollows.holds hdispatch (announced_afeCount hafes)
    (announced_channelCount hchannels)
  rw [sentAfes_recordFrames, sentChannels_recordFrames] at hholds
  exact isConfiguration_of_holds hafes hchannels hholds (validateCounts_of_perform hperform)

/-- Only a status frame is applied while the interlock is not ready. -/
theorem ready_of_applied {H : Type} [AfeHardware H ε] {runtime : RpuRuntime H}
    {frame : RpuWireCommand} (hne : frame.op ≠ .readAlignment) (hstatus : frame.op ≠ .status)
    (happlied : applied runtime frame = true) : runtime.interlock.readyForAfe = true := by
  rcases stepFrame_cases runtime hne with ⟨-, honly⟩ | ⟨_, _, _, hready, _⟩
  · exact absurd (honly happlied) hstatus
  · exact hready

/-- What an applied apply programs after frames that program nothing. -/
theorem programmedConfigs_fed {runtime : RpuRuntime (Recorded (AfeMmioBackend I))}
    (interlocks : ℕ → List InterlockState) {frames : List RpuWireCommand} {apply : RpuWireCommand}
    (hops : ∀ frame ∈ frames, frame.op ≠ .applyConfigureFrontend ∧ frame.op ≠ .readAlignment)
    (happly : apply.op = .applyConfigureFrontend) :
    let facing := setInterlocks (feed interlocks runtime frames) (interlocks frames.length)
    applied facing apply = true →
      programmedConfigs
        ((stepFrame facing apply).hardware.calls.drop runtime.hardware.calls.length) =
        [facing.hardware.hardware.stagedConfig] := by
  intro facing happlied
  obtain ⟨calls, hcalls, hnothing⟩ := feed_programs_nothing interlocks runtime hops
  have hfacing : facing.hardware.calls = runtime.hardware.calls ++ calls := by
    dsimp only [facing]
    rw [setInterlocks_eq, ← hcalls]
    rfl
  rw [programs_staged happly happlied, hfacing, List.append_assoc, List.drop_left,
    programmedConfigs_append, hnothing]
  rfl

/-- The frames of a submit that reports its configuration as applied: the last one was applied. -/
structure Submitted (link after : Link (Recorded (AfeMmioBackend I)))
    (afes : List AfeFrontendConfig)
    (channels : List ChannelFrontendConfig) (biasControl : UInt16) (firstSequence : UInt64)
    (beginning apply : RpuWireCommand) : Prop where
  length_afes : afes.length ≤ 65535
  length_channels : channels.length ≤ 65535
  begin_op : beginning.op = .beginConfigureFrontend
  counts : beginning.configureCounts = .ok (announced afes channels biasControl)
  apply_op : apply.op = .applyConfigureFrontend
  last_applied : applied (setInterlocks
    (feed link.interlocks link.runtime (beginning :: recordFrames firstSequence afes channels))
    (link.interlocks (beginning :: recordFrames firstSequence afes channels).length)) apply = true
  runtime : after.runtime = stepFrame (setInterlocks
    (feed link.interlocks link.runtime (beginning :: recordFrames firstSequence afes channels))
    (link.interlocks (beginning :: recordFrames firstSequence afes channels).length)) apply

theorem submitted_of_reported
    {transport after : RpmsgAfeTransport (Link (Recorded (AfeMmioBackend I)))}
    {reply : AfeCommandReply} (hprompt : Prompt transport.file)
    (hsubmit : submitAfeCommand (.configureFrontend afes channels biasControl) transport =
      .ok reply after) (hreported : reply.applied = true) :
    ∃ firstSequence beginning apply, Submitted transport.file after.file afes channels biasControl
      firstSequence beginning apply := by
  simp only [submitAfeCommand, bind_eq_ok_iff] at hsubmit
  obtain ⟨⟨frameCount, frames⟩, prepared, hprepare, finalReply, sent, hsend, wire, _, hwire,
    hdone⟩ :=
    hsubmit
  obtain ⟨hfile, hafes, hchannels, firstSequence, rfl⟩ := frames_of_prepareFrames hprepare
  cases finalReply with
  | none => cases hwire
  | some finalReply =>
    cases hwire
    cases hdone
    rw [numberFrames_configureBuilders, ← List.cons_append] at hsend
    obtain ⟨hreply, hruntime⟩ := sendFrames_of_prompt (hfile ▸ hprompt) hsend
    rw [hfile] at hreply hruntime
    have happlied := applied_of_commandReply hreply.symm hreported
    exact ⟨firstSequence, _, _, hafes, hchannels, rfl, configureCounts_beginFrame _, rfl, happlied,
      hruntime⟩

/-- From any state of the RPU, with any interlock changes between the frames. -/
theorem reportsFaithfully_of_prompt
    {transport : RpmsgAfeTransport (Link (Recorded (AfeMmioBackend I)))}
    (hprompt : Prompt transport.file) (h : Unhindered transport.file afes channels) :
    ReportsFaithfully transport afes channels biasControl := by
  intro reply after hsubmit hreported
  obtain ⟨firstSequence, beginning, apply, hsent⟩ := submitted_of_reported hprompt hsubmit hreported
  have hops : ∀ frame ∈ beginning :: recordFrames firstSequence afes channels,
      frame.op ≠ .applyConfigureFrontend ∧ frame.op ≠ .readAlignment := by
    intro frame hmem
    rcases List.mem_cons.mp hmem with rfl | hmem
    · simp [hsent.begin_op]
    · rcases op_recordFrames hmem with hop | hop <;> simp [hop]
  have happlied := hsent.last_applied
  have hready := ready_of_applied (by simp [hsent.apply_op]) (by simp [hsent.apply_op]) happlied
  rw [interlock_facing transport.file fun frame hmem ↦ (hops frame hmem).2] at hready
  have hopen : transport.file.runtime.erase.configState.active = false ∨
      (setInterlocks transport.file.runtime.erase
        (transport.file.interlocks 0)).interlock.readyForAfe = true := by
    rw [interlock_setInterlocks]
    rcases h with hclosed | hbegin | hheld
    · exact Or.inl hclosed
    · rw [interlockAt, List.range_one, List.flatMap_singleton] at hbegin
      exact Or.inr hbegin
    · have hlength : (beginning :: recordFrames firstSequence afes channels).length =
          afes.length + channels.length + 1 := by simp [recordFrames]
      rw [hlength, hheld] at hready
      exact absurd hready Bool.false_ne_true
  have hconfiguration := isConfiguration_of_applied firstSequence hsent.begin_op hsent.counts
    hsent.apply_op hsent.length_afes hsent.length_channels hopen
  dsimp only at hconfiguration
  rw [← erase_feed, ← erase_setInterlocks, applied_erase] at hconfiguration
  refine ⟨_, ?_, hconfiguration happlied⟩
  rw [programmedDuring, hsent.runtime]
  exact programmedConfigs_fed _ hops hsent.apply_op happlied

/-- A host and an RPU that have just started, on a link without delays, with any interlock changes
before each frame. -/
def freshTransport (io : I) (config : MmioAfeConfig) (timeout : ℕ)
    (interlocks : ℕ → List InterlockState) (arrivals : ℕ → ℕ) :
    RpmsgAfeTransport (Link (Recorded (AfeMmioBackend I))) :=
  .open ⟨.new ⟨.withConfig io config, []⟩, .empty, interlocks, arrivals⟩ timeout

/-- After any calls, and with any interlock changes between the frames, a configuration that is
reported as applied is the one that was programmed, as long as no earlier sequence was left open, or
the interlock lets the begin through, or it holds the apply up. -/
theorem reported_configuration_programmed (io : I) (config : MmioAfeConfig) (timeout : ℕ)
    (interlocks : ℕ → List InterlockState) {arrivals : ℕ → ℕ} (harrives : ∀ n, 1 ≤ arrivals n)
    (calls : List HostCall) (afes : List AfeFrontendConfig) (channels : List ChannelFrontendConfig)
    (biasControl : UInt16) :
    let transport :=
      calls.foldl afterCall (freshTransport io config timeout interlocks arrivals)
    Unhindered transport.file afes channels →
      ReportsFaithfully transport afes channels biasControl := by
  intro transport h
  have hfresh : Prompt (freshTransport io config timeout interlocks arrivals).file :=
    ⟨rfl, harrives⟩
  exact reportsFaithfully_of_prompt (prompt_foldl_afterCall hfresh calls) h

end Submit

/-! ## A configuration left open -/

/-- Ready until the first configuration is applied. -/
def ClosesBeforeApply (interlocks : ℕ → List InterlockState) : Prop :=
  interlocks 0 = [.ready] ∧ interlocks 1 = [] ∧ interlocks 2 = [.default]

/-- Ready until the first configuration is applied, and again before the second one is. -/
def refusals (place : ℕ) : List InterlockState :=
  if place = 0 ∨ place = 4 then [.ready] else if place = 2 then [.default] else []

/-- Ready until the first configuration is applied, and again before the second one begins. -/
def readmissions (place : ℕ) : List InterlockState :=
  if place = 0 ∨ place = 3 then [.ready] else if place = 2 then [.default] else []

/-- A host that sent a configuration whose apply was refused. -/
def openTransport : RpmsgAfeTransport (Link (Recorded (AfeMmioBackend ZeroIo))) :=
  afterCall (freshTransport ZeroIo.mk .default 1000 refusals fun _ ↦ 1)
    (.submit (.configureFrontend [sampleAfe 100 200] [] 1))

/-- The frames of that configuration, and of one with a bias control of two and no records. -/
def openedFrames : List RpuWireCommand :=
  [beginFrame [sampleAfe 100 200] [] 1 1, afeFrame (sampleAfe 100 200) 2,
    applyFrame [sampleAfe 100 200] [] 3]

def emptyFrames : List RpuWireCommand := [beginFrame [] [] 2 4, applyFrame [] [] 5]

theorem prepareFrames_empty {F : Type} {transport : RpmsgAfeTransport F}
    (h : transport.nextSequence = 4) : prepareFrames (.configureFrontend [] [] 2) transport =
      .ok (2, emptyFrames) { transport with nextSequence := 6 } := by
  cases transport
  subst h
  rfl

/-- The RPU that the second configuration meets. -/
def openRuntime : RpuRuntime (Recorded (AfeMmioBackend ZeroIo)) :=
  feed refusals (.new ⟨.withConfig ZeroIo.mk .default, []⟩) openedFrames

/-- Only the changes before the frames matter. -/
theorem feed_openedFrames {interlocks : ℕ → List InterlockState}
    (h : ClosesBeforeApply interlocks) :
    feed interlocks (.new ⟨.withConfig ZeroIo.mk .default, []⟩) openedFrames = openRuntime := by
  have hrefusals : refusals 0 = [.ready] ∧ refusals 1 = [] ∧ refusals 2 = [.default] :=
    ⟨rfl, rfl, rfl⟩
  simp only [openRuntime, openedFrames, feed, h.1, h.2.1, h.2.2, hrefusals, zero_add,
    Nat.reduceAdd]

/-- Frames that are answered one by one are sent from any transport with the same link. -/
theorem sendFrames_numbered {H : Type} [AfeHardware H ε] {transport : RpmsgAfeTransport (Link H)}
    (next : UInt64) (frameCount : ℕ) (frames : List RpuWireCommand)
    (hprompt : Prompt transport.file)
    (hanswered : ∀ reply ∈ replies transport.file.interlocks transport.file.runtime frames,
      reply.isSome = true) :
    ∃ after, sendFrames frameCount 0 none frames { transport with nextSequence := next } =
        .ok ((replies transport.file.interlocks transport.file.runtime frames).getLast?.getD none)
          after ∧
      afterFrames frames { transport with nextSequence := next } = after ∧
      after.file.runtime = feed transport.file.interlocks transport.file.runtime frames ∧
      after.file.interlocks = fun n ↦ transport.file.interlocks (n + frames.length) :=
  sendFrames_of_replies hprompt hanswered

/-- It has the first configuration staged, and the sequence open. -/
def openState : RpuRuntime (AfeMmioBackend ZeroIo) where
  hardware := { AfeMmioBackend.withConfig ZeroIo.mk .default with
    stagedConfig := { StagedConfig.new ⟨1, 0, 1⟩ with
      afes := #v[some (wireAfe (sampleAfe 100 200)), none, none, none, none] } }
  heartbeat := 3
  interlock := .default
  configState := ⟨true, 1, 0, 1, 0⟩

theorem erase_openRuntime : openRuntime.erase = openState := by
  rw [openRuntime, erase_feed]
  simp only [openedFrames, feed, stepFrame_eq]
  rfl

theorem opened_spec {interlocks : ℕ → List InterlockState} (h : ClosesBeforeApply interlocks)
    {transport : RpmsgAfeTransport (Link (Recorded (AfeMmioBackend ZeroIo)))}
    (hafter : transport = afterCall (freshTransport ZeroIo.mk .default 1000 interlocks fun _ ↦ 1)
      (.submit (.configureFrontend [sampleAfe 100 200] [] 1))) :
    Prompt transport.file ∧ transport.nextSequence = 4 ∧ transport.file.runtime = openRuntime ∧
      transport.file.interlocks = fun n ↦ interlocks (n + 3) := by
  let fresh := freshTransport ZeroIo.mk .default 1000 interlocks fun _ ↦ 1
  have hfresh : Prompt fresh.file := ⟨rfl, fun _ ↦ Nat.le_refl 1⟩
  have hprepare : prepareFrames (.configureFrontend [sampleAfe 100 200] [] 1) fresh =
    .ok (3, openedFrames) { fresh with nextSequence := 4 } := rfl
  have hopened : transport = afterFrames openedFrames { fresh with nextSequence := 4 } := by
    rw [hafter, afterCall_submit, hprepare]
  have hanswered : ∀ reply ∈ replies fresh.file.interlocks fresh.file.runtime openedFrames,
      reply.isSome = true := by
    have hruntime : fresh.file.runtime =
        .new ⟨AfeMmioBackend.withConfig ZeroIo.mk .default, []⟩ := rfl
    rw [hruntime, show fresh.file.interlocks = interlocks from rfl]
    simp only [openedFrames, replies, replyTo_eq, stepFrame_eq, h.1, h.2.1, h.2.2, zero_add,
      Nat.reduceAdd]
    decide +kernel
  obtain ⟨after, -, hframes, hruntime, hinterlocks⟩ :=
    sendFrames_numbered 4 3 openedFrames hfresh hanswered
  refine ⟨hafter ▸ prompt_afterCall hfresh _, ?_, ?_, ?_⟩
  · rw [hopened, nextSequence_afterFrames]
  · rw [hopened, hframes, hruntime]
    exact feed_openedFrames h
  · rw [hopened, hframes, hinterlocks]
    rfl

/-- When both frames are answered, the reply to the second one is reported. -/
theorem submit_empty {transport : RpmsgAfeTransport (Link (Recorded (AfeMmioBackend ZeroIo)))}
    (hprompt : Prompt transport.file) (hnext : transport.nextSequence = 4)
    {first last : RpuWireReply}
    (hanswers : replies transport.file.interlocks transport.file.runtime emptyFrames =
      [some first, some last]) :
    ∃ after, submitAfeCommand (.configureFrontend [] [] 2) transport =
        .ok (commandReply last) after ∧
      after.file.runtime = feed transport.file.interlocks transport.file.runtime emptyFrames := by
  have hanswered : ∀ reply ∈ replies transport.file.interlocks transport.file.runtime
      emptyFrames, reply.isSome = true := by
    rw [hanswers]
    simp
  obtain ⟨after, hsend, -, hafter, -⟩ := sendFrames_numbered 6 2 emptyFrames hprompt hanswered
  rw [hanswers] at hsend
  refine ⟨after, ?_, hafter⟩
  rw [submitAfeCommand, run_bind, prepareFrames_empty hnext]
  dsimp only
  rw [run_bind, hsend]
  rfl

/-- Both frames of the second configuration are applied. -/
theorem replies_of_readmissions {runtime : RpuRuntime (Recorded (AfeMmioBackend ZeroIo))}
    {interlocks : ℕ → List InterlockState} (hruntime : runtime = openRuntime)
    (hinterlocks : interlocks = fun n ↦ readmissions (n + 3)) :
    replies interlocks runtime emptyFrames =
      [some ⟨4, .applied, none, 4, 0, 0⟩, some ⟨5, .applied, none, 5, 0, 0⟩] := by
  rw [hruntime, hinterlocks, ← replies_erase, erase_openRuntime]
  simp only [emptyFrames, replies, replyTo_eq, stepFrame_eq]
  decide +kernel

/-- The interlock lets the next configuration begin, so it is programmed as it is reported, whatever
the refused one has left open. -/
theorem reported_configuration_programmed_reopened :
    let transport := [HostCall.submit (.configureFrontend [sampleAfe 100 200] [] 1)].foldl afterCall
      (freshTransport ZeroIo.mk .default 1000 readmissions fun _ ↦ 1)
    transport.file.runtime.configState.active = true ∧
    (∃ reply after, submitAfeCommand (.configureFrontend [] [] 2) transport = .ok reply after ∧
      reply.applied = true) ∧
    ReportsFaithfully transport [] [] 2 := by
  intro transport
  have hcloses : ClosesBeforeApply readmissions := ⟨rfl, rfl, rfl⟩
  have hafter : transport = afterCall _ _ := (List.foldl_cons ..).trans List.foldl_nil
  have hspec := opened_spec hcloses hafter
  have hfaithful : Unhindered transport.file [] [] → ReportsFaithfully transport [] [] 2 :=
    reported_configuration_programmed ZeroIo.mk .default 1000 readmissions (fun _ ↦ Nat.le_refl 1)
      [.submit (.configureFrontend [sampleAfe 100 200] [] 1)] [] [] 2
  clear hafter
  clear_value transport
  obtain ⟨hprompt, hnext, hruntime, hinterlocks⟩ := hspec
  have hanswers := replies_of_readmissions hruntime hinterlocks
  obtain ⟨after, hsubmit, -⟩ := submit_empty hprompt hnext hanswers
  refine ⟨?_, ⟨_, after, hsubmit, rfl⟩, ?_⟩
  · rw [hruntime, ← RpuRuntime.configState_erase, erase_openRuntime]
    rfl
  · refine hfaithful (Or.inr (Or.inl ?_))
    rw [interlockAt, hinterlocks]
    rfl

/-- A begin that the runtime refuses leaves the bias control of the configuration that was open. -/
theorem biasControl_refused {runtime : RpuRuntime (Recorded (AfeMmioBackend ZeroIo))}
    (interlocks : ℕ → List InterlockState) (hopen : runtime.erase = openState)
    (hinterlocks : interlocks = fun n ↦ refusals (n + 3)) :
    (setInterlocks (feed interlocks runtime [beginFrame [] [] 2 4])
      (interlocks 1)).hardware.hardware.stagedConfig.counts.biasControl = 1 := by
  change (setInterlocks (feed interlocks runtime [beginFrame [] [] 2 4])
    (interlocks 1)).erase.hardware.stagedConfig.counts.biasControl = 1
  rw [erase_setInterlocks, erase_feed, hopen, hinterlocks]
  simp only [feed, stepFrame_eq]
  rfl

/-- From such a state the begin of the second configuration is refused, its apply is not, and what
is applied is the first one. -/
theorem not_reportsFaithfully_of_open
    {transport : RpmsgAfeTransport (Link (Recorded (AfeMmioBackend ZeroIo)))}
    (hprompt : Prompt transport.file) (hnext : transport.nextSequence = 4)
    (hruntime : transport.file.runtime = openRuntime)
    (hinterlocks : transport.file.interlocks = fun n ↦ refusals (n + 3)) :
    ¬ ReportsFaithfully transport [] [] 2 := by
  have hanswers : replies transport.file.interlocks transport.file.runtime emptyFrames =
      [some ⟨4, .interlocked, none, 4, 0, 63⟩, some ⟨5, .applied, none, 5, 0, 0⟩] := by
    rw [hruntime, hinterlocks, ← replies_erase, erase_openRuntime]
    simp only [emptyFrames, replies, replyTo_eq, stepFrame_eq]
    decide +kernel
  obtain ⟨after, hsubmit, hafter⟩ := submit_empty hprompt hnext hanswers
  intro hfaithful
  obtain ⟨staged, hprogrammed, hconfiguration⟩ := hfaithful _ after hsubmit rfl
  have hlast : replyTo (setInterlocks (feed transport.file.interlocks
      transport.file.runtime [beginFrame [] [] 2 4]) (transport.file.interlocks 1))
      (applyFrame [] [] 5) = some ⟨5, .applied, none, 5, 0, 0⟩ :=
    (List.cons.inj (List.cons.inj hanswers).2).1
  have hops : ∀ frame ∈ [beginFrame [] [] 2 4],
      frame.op ≠ .applyConfigureFrontend ∧ frame.op ≠ .readAlignment := by decide
  have hprogram := programmedConfigs_fed transport.file.interlocks hops rfl
    (applied_of_commandReply hlast rfl)
  have hbias : staged.counts.biasControl = 1 := by
    rw [programmedDuring, hafter] at hprogrammed
    have hstaged := (List.cons.inj (hprogram.symm.trans hprogrammed)).1
    rw [← hstaged]
    exact biasControl_refused _ (by rw [hruntime, erase_openRuntime]) hinterlocks
  rw [hconfiguration.biasControl] at hbias
  exact absurd hbias (by decide)

/-- So a configuration that was left open is reported as applied under the name of a later one. -/
theorem open_configuration_reported : ¬ ReportsFaithfully openTransport [] [] 2 := by
  have hcloses : ClosesBeforeApply refusals := ⟨rfl, rfl, rfl⟩
  have hafter : openTransport = afterCall _ _ := rfl
  obtain ⟨hprompt, hnext, hruntime, hinterlocks⟩ := opened_spec hcloses hafter
  exact not_reportsFaithfully_of_open hprompt hnext hruntime hinterlocks

end DaphneSc.Server.ReportedConfiguration
