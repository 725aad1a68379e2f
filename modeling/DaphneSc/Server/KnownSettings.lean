import DaphneSc.Rpu.Settings
import DaphneSc.Server.ReportedConfiguration

/-!
# What a host knows of the settings

A host that is alone with an RPU can keep account of the settings: a command that is reported as
applied has set what it sets, one that is not may have done so or not, and no other setting has
changed. Only a configuration can do more than it says, when an earlier one may have been left open.
What the host knows in this way is what it reads back, however the interlock changes and whatever
the hardware does.
-/

namespace DaphneSc.Server.KnownSettings

open Core.Afe Core.RpuWire Core.RpuWire.RpuWireCommand Core.Rpu Rpu.Runtime Rpu.Mmio
open Rpu.Mmio.AfeMmioBackend Rpu.ConfigureSequence Rpu.ConfigureRun Rpu.ConfigureReadback
open Rpu.Readback Rpu.Settings Server.Rpmsg Server.Rpmsg.RpmsgAfeTransport
open Server.ReportedConfiguration Program Slots

variable {I ε : Type} [RegisterIo I ε]
variable {afes : List AfeFrontendConfig} {channels : List ChannelFrontendConfig}
variable {biasControl : UInt16}

/-! ## The frames of a configuration -/

section Frames

variable {runtime : RpuRuntime (AfeMmioBackend I)}

omit [RegisterIo I ε] in
/-- An apply that finds its counts in order has distinct records. -/
theorem nodup_of_holds {staged : StagedConfig} (hafes : afes.length ≤ 65535)
    (hchannels : channels.length ≤ 65535)
    (hholds : Holds (announced afes channels biasControl) (afes.map wireAfe)
      (channels.map wireChannel) staged)
    (hcounts : (staged.validateCounts : Except (MmioAfeError ε) Unit) = .ok ()) :
    (afes.map (·.afe)).Nodup ∧ (channels.map (·.channel)).Nodup := by
  have hconfiguration := isConfiguration_of_holds hafes hchannels hholds hcounts
  constructor
  · have hlength := hconfiguration.afes.length_eq
    rw [hholds.staged_afes, length_filled_fill_eq_iff hholds.afe_valid, List.map_map] at hlength
    apply List.Nodup.of_map (fun afe : AfeId ↦ afe.pl.toNat)
    rw [List.map_map]
    exact hlength
  · have hlength := hconfiguration.channels.length_eq
    have hslots : ∀ record ∈ channels.map wireChannel, channelSlot record < channelCount :=
      fun record hmem ↦ (hholds.channel_valid record hmem).2.2
    rw [hholds.staged_channels, length_filled_fill_eq_iff hslots, List.map_map] at hlength
    apply List.Nodup.of_map (fun channel : ChannelId ↦ channel.channel.toNat)
    rw [List.map_map]
    exact hlength

/-- An apply that is applied closes the sequence. -/
theorem closed_of_applied {apply : RpuWireCommand} (hop : apply.op = .applyConfigureFrontend)
    (happlied : applied runtime apply = true) :
    (stepFrame runtime apply).configState.active = false := by
  have hne : apply.op ≠ .readAlignment := by simp [hop]
  rcases stepFrame_cases runtime hne with ⟨-, honly⟩ |
    ⟨call, next, hdispatch, -, -, ⟨_, _, -, hstep, -⟩ | ⟨_, _, _, _, happ⟩⟩
  · exact absurd (honly happlied) (by simp [hop])
  · rw [hstep]
    cases configures_of_dispatch hdispatch with
    | apply => rfl
    | other _ hnot => exact absurd hop hnot.2.2.2
    | «begin» hop' | afe hop' | channel hop' => simp [hop'] at hop
  · rw [happ] at happlied
    cases happlied

/-- The apply of a configuration, after the frames of its records. What the configuration does not
set is left alone, also when the apply fails. An apply that is applied has set all the rest. -/
theorem settings_apply {firstSequence : UInt64} {apply : RpuWireCommand}
    (hop : apply.op = .applyConfigureFrontend) (hafes : afes.length ≤ 65535)
    (hchannels : channels.length ≤ 65535)
    (hfollows : Follows (announced afes channels biasControl)
      (recordFrames firstSequence afes channels) runtime) :
    (∀ setting, configures afes channels biasControl setting = none →
      settings (stepFrame runtime apply).hardware setting = settings runtime.hardware setting) ∧
    (applied runtime apply = true →
      ∀ setting value, configures afes channels biasControl setting = some value →
        settings (stepFrame runtime apply).hardware setting = value) := by
  have hne : apply.op ≠ .readAlignment := by simp [hop]
  rcases stepFrame_cases runtime hne with ⟨hstep, honly⟩ |
    ⟨call, next, hdispatch, -, -, hresult⟩
  · rw [hstep]
    exact ⟨fun _ _ ↦ rfl, fun happlied ↦ absurd (honly happlied) (by simp [hop])⟩
  · have hcall := configures_of_dispatch hdispatch
    cases hcall with
    | other _ hnot => exact absurd hop hnot.2.2.2
    | «begin» hop' | afe hop' | channel hop' => simp [hop'] at hop
    | apply _ hactive =>
      have hholds := hfollows.holds hdispatch (announced_afeCount hafes)
        (announced_channelCount hchannels)
      rw [sentAfes_recordFrames, sentChannels_recordFrames] at hholds
      have hstaged (setting : Setting) (h : configures afes channels biasControl setting = none) :=
        keeps_applyConfigureFrontend (ε := ε) h runtime.hardware
          (fun config hmem ↦ mem_filled_fill (hholds.staged_afes ▸ hmem))
          (fun config hmem ↦ mem_filled_fill (hholds.staged_channels ▸ hmem))
      rcases hresult with ⟨_, hardware, hperform, hstep, happ⟩ | ⟨_, hardware, hperform, hstep,
        happ⟩
      · refine ⟨fun setting h ↦ ?_, fun _ setting value h ↦ ?_⟩
        · rw [hstep]
          exact post_of_map_ok (P := fun t ↦ settings t setting = settings runtime.hardware setting)
            (hstaged setting h) hperform
        · obtain ⟨hnodupAfes, hnodupChannels⟩ :=
            nodup_of_holds hafes hchannels hholds (validateCounts_of_perform hperform)
          rw [settings, readings_apply hop happ hholds,
            afterConfiguration_of_holds _ hnodupAfes hnodupChannels hholds,
            valueOf_configured _ hnodupAfes hnodupChannels, h]
          rfl
      · refine ⟨fun setting h ↦ ?_, fun happlied ↦ ?_⟩
        · rw [hstep]
          exact post_of_map_error (E := fun _ t ↦ settings t setting =
            settings runtime.hardware setting)
            (hstaged setting h) hperform
        · rw [happ] at happlied
          cases happlied

/-- Frames that open or extend a sequence, with interlock changes in between. -/
theorem readings_feed (interlocks : ℕ → List InterlockState) {frames : List RpuWireCommand}
    (hops : ∀ frame ∈ frames, frame.op = .beginConfigureFrontend ∨ frame.op = .configureAfe ∨
      frame.op = .configureChannel) :
    readings (feed interlocks runtime frames).hardware = readings runtime.hardware := by
  induction frames generalizing interlocks runtime with
  | nil => rfl
  | cons frame frames ih =>
    rw [feed, ih _ fun frame' hmem ↦ hops frame' (List.mem_cons_of_mem _ hmem),
      readings_stepFrame _ (hops frame List.mem_cons_self), setInterlocks_eq]
    rfl

/-- There is a ledger that runtime and backend agree with. -/
def Kept (runtime : RpuRuntime (AfeMmioBackend I)) : Prop :=
  ∃ ledger, Agrees runtime.configState runtime.hardware.stagedConfig ledger

theorem Kept.stepFrame (h : Kept runtime) {frame : RpuWireCommand}
    (hne : frame.op ≠ .readAlignment) :
    Kept (stepFrame runtime frame) := by
  obtain ⟨ledger, hagrees⟩ := h
  obtain ⟨ledger', hagrees', -⟩ := agrees_stepFrame hagrees hne
  exact ⟨ledger', hagrees'⟩

theorem Kept.setInterlocks (h : Kept runtime) (interlocks : List InterlockState) :
    Kept (setInterlocks runtime interlocks) := by
  rw [setInterlocks_eq]
  exact h

theorem Kept.feed (h : Kept runtime) (interlocks : ℕ → List InterlockState)
    {frames : List RpuWireCommand} (hne : ∀ frame ∈ frames, frame.op ≠ .readAlignment) :
    Kept (feed interlocks runtime frames) := by
  induction frames generalizing interlocks runtime with
  | nil => exact h
  | cons frame frames ih =>
    have hstep := (h.setInterlocks (interlocks 0)).stepFrame (hne frame List.mem_cons_self)
    exact ih hstep _ fun frame' hmem ↦ hne frame' (List.mem_cons_of_mem _ hmem)

/-- When no sequence was open, the records sent are those of the one that is open then, if any. -/
theorem follows_of_closed (hkept : Kept runtime) (hclosed : runtime.configState.active = false)
    (interlocks : ℕ → List InterlockState) (firstSequence : UInt64) {beginning : RpuWireCommand}
    (hop : beginning.op = .beginConfigureFrontend)
    (hcounts : beginning.configureCounts = .ok (announced afes channels biasControl)) :
    Follows (announced afes channels biasControl) (recordFrames firstSequence afes channels)
      (feed interlocks runtime (beginning :: recordFrames firstSequence afes channels)) := by
  have hclosed' : (setInterlocks runtime (interlocks 0)).configState.active = false := by
    rw [setInterlocks_eq]
    exact hclosed
  have hstart : Follows (announced afes channels biasControl) []
      (stepFrame (setInterlocks runtime (interlocks 0)) beginning) := by
    cases hready : (setInterlocks runtime (interlocks 0)).interlock.readyForAfe with
    | true => exact follows_begin hop hcounts (applied_begin hop hcounts hready)
    | false =>
      have hrefused := closed_of_refused hop hready hclosed'
      have hne : beginning.op ≠ .readAlignment := by simp [hop]
      obtain ⟨ledger, hagrees⟩ := (hkept.setInterlocks (interlocks 0)).stepFrame hne
      refine ⟨ledger, hagrees, fun hactive ↦ ?_⟩
      rw [← hagrees.runtime_active, hrefused] at hactive
      cases hactive
  have hrecords : ∀ frame ∈ recordFrames firstSequence afes channels,
      frame.op = .configureAfe ∨ frame.op = .configureChannel := fun _ ↦ op_recordFrames
  exact follows_feed (fun n ↦ interlocks (n + 1)) hstart hrecords

omit [RegisterIo I ε] in
theorem feed_append_singleton {H : Type} [AfeHardware H ε] (interlocks : ℕ → List InterlockState)
    (runtime : RpuRuntime H) (frames : List RpuWireCommand) (last : RpuWireCommand) :
    feed interlocks runtime (frames ++ [last]) =
      stepFrame (setInterlocks (feed interlocks runtime frames) (interlocks frames.length))
        last := by
  induction frames generalizing interlocks runtime with
  | nil => rfl
  | cons frame frames ih => exact ih _ _

theorem op_front {firstSequence sequence : UInt64} {frame : RpuWireCommand}
    (hmem : frame ∈ beginFrame afes channels biasControl sequence ::
      recordFrames firstSequence afes channels) :
    frame.op = .beginConfigureFrontend ∨ frame.op = .configureAfe ∨ frame.op =
      .configureChannel := by
  rcases List.mem_cons.mp hmem with rfl | hmem
  · exact Or.inl rfl
  · exact Or.inr (op_recordFrames hmem)

/-- The apply of a configuration that met no open sequence. -/
theorem settings_fed (hkept : Kept runtime) (hclosed : runtime.configState.active = false)
    (hafes : afes.length ≤ 65535) (hchannels : channels.length ≤ 65535)
    (interlocks : ℕ → List InterlockState) (firstSequence sequence : UInt64)
    {apply : RpuWireCommand}
    (hop : apply.op = .applyConfigureFrontend) :
    let front := beginFrame afes channels biasControl sequence ::
      recordFrames firstSequence afes channels
    let facing := setInterlocks (feed interlocks runtime front) (interlocks front.length)
    (∀ setting, configures afes channels biasControl setting = none →
      settings (stepFrame facing apply).hardware setting = settings runtime.hardware setting) ∧
    (applied facing apply = true →
      ∀ setting value, configures afes channels biasControl setting = some value →
        settings (stepFrame facing apply).hardware setting = value) := by
  intro front facing
  have hfollows : Follows (announced afes channels biasControl)
      (recordFrames firstSequence afes channels) facing := by
    dsimp only [facing]
    rw [setInterlocks_eq]
    exact follows_of_closed hkept hclosed interlocks firstSequence rfl
      (configureCounts_beginFrame _)
  have hreadings : readings facing.hardware = readings runtime.hardware := by
    dsimp only [facing]
    rw [setInterlocks_eq]
    exact readings_feed interlocks fun _ ↦ op_front
  obtain ⟨hleft, hset⟩ := settings_apply hop hafes hchannels hfollows
  exact ⟨fun setting h ↦ (hleft setting h).trans (congrArg (valueOf · setting) hreadings), hset⟩

/-- A configuration that meets no open sequence leaves alone what it does not set, however far its
frames get. -/
theorem settings_configuration (hkept : Kept runtime) (hclosed : runtime.configState.active = false)
    (hafes : afes.length ≤ 65535) (hchannels : channels.length ≤ 65535)
    (interlocks : ℕ → List InterlockState) {firstSequence : UInt64} {sent : List RpuWireCommand}
    (hsent : sent <+: numberFrames firstSequence (configureBuilders afes channels biasControl))
    {setting : Setting} (hnone : configures afes channels biasControl setting = none) :
    settings (feed interlocks runtime sent).hardware setting =
      settings runtime.hardware setting := by
  rw [numberFrames_configureBuilders, ← List.cons_append, List.prefix_concat_iff] at hsent
  rcases hsent with rfl | hsent
  · rw [feed_append_singleton]
    exact (settings_fed hkept hclosed hafes hchannels interlocks firstSequence _ rfl).1 setting
      hnone
  · rw [settings, readings_feed interlocks fun _ hmem ↦ op_front (hsent.mem hmem)]
    rfl

end Frames

/-! ## Calls -/

section Calls

variable {H : Type} [AfeHardware H ε] {transport after : RpmsgAfeTransport (Link H)}
variable {command : AfeCommand}

omit [RegisterIo I ε]

/-- Of frames that are sent, the first ones are fed to the runtime. -/
theorem fed_afterFrames (h : Prompt transport.file) (frames : List RpuWireCommand) :
    ∃ sent, sent <+: frames ∧ (afterFrames frames transport).file.runtime =
      feed transport.file.interlocks transport.file.runtime sent := by
  induction frames generalizing transport with
  | nil => exact ⟨[], List.prefix_rfl, rfl⟩
  | cons frame frames ih =>
    have hadvances := advances_transact h frame
    unfold afterFrames
    cases htransact : transact frame transport with
    | ok reply next =>
      rw [final_of_ok htransact] at hadvances
      obtain ⟨sent, hsent, hfed⟩ := ih hadvances.prompt
      rw [hadvances.runtime, hadvances.interlocks] at hfed
      exact ⟨frame :: sent, List.cons_prefix_cons.mpr ⟨rfl, hsent⟩, hfed⟩
    | error abort next =>
      rw [final_of_error htransact] at hadvances
      exact ⟨[frame], List.cons_prefix_cons.mpr ⟨rfl, List.nil_prefix⟩, hadvances.runtime⟩

/-- The frames that are prepared are those of the command. -/
theorem sequence_of_prepareFrames {F : Type} {transport after : RpmsgAfeTransport F} {count : ℕ}
    {frames : List RpuWireCommand}
    (h : prepareFrames command transport = .ok (count, frames) after) :
    after.file = transport.file ∧ ∃ first, fromAfeCommandSequence first command = .ok frames := by
  refine ⟨Bound.keeps_rel.mp ((within_prepareFrames _).ok h), ?_⟩
  unfold prepareFrames at h
  simp only [bind_eq_ok_iff] at h
  obtain ⟨_, _, -, _, _, -, first, _, -, built, _, hbuilt, hframes⟩ := h
  refine ⟨first, ?_⟩
  cases hresult : fromAfeCommandSequence first command with
  | error err =>
    rw [hresult] at hbuilt
    cases hbuilt
  | ok frames' =>
    rw [hresult] at hbuilt
    cases hbuilt
    cases hframes
    rfl

/-- What a submit returns is what the RPU replied to the last frame, after the ones before it. -/
theorem submit_ok (h : Prompt transport.file) {reply : AfeCommandReply}
    (hsubmit : submitAfeCommand command transport = .ok reply after) :
    ∃ count frames last prepared wire,
      prepareFrames command transport = .ok (count, frames ++ [last]) prepared ∧
      reply = commandReply wire ∧
      let facing := setInterlocks (feed transport.file.interlocks transport.file.runtime frames)
        (transport.file.interlocks frames.length)
      replyTo facing last = some wire ∧ after.file.runtime = stepFrame facing last := by
  simp only [submitAfeCommand, bind_eq_ok_iff] at hsubmit
  obtain ⟨⟨count, frames⟩, prepared, hprepare, finalReply, sent, hsend, wire, _, hwire, hdone⟩ :=
    hsubmit
  obtain ⟨hfile, -⟩ := sequence_of_prepareFrames hprepare
  cases finalReply with
  | none => cases hwire
  | some finalReply =>
    cases hwire
    cases hdone
    rcases List.eq_nil_or_concat' frames with rfl | ⟨frames, last, rfl⟩
    · cases hsend
    · obtain ⟨hreply, hruntime⟩ := sendFrames_of_prompt (hfile ▸ h) hsend
      rw [hfile] at hreply hruntime
      exact ⟨count, frames, last, prepared, wire, hprepare, rfl, hreply.symm, hruntime⟩

end Calls

/-! ## Knowledge -/

structure Knowledge where
  known : Setting → Option ℕ
  /-- No configuration was left open. -/
  closed : Bool

namespace Knowledge

/-- Of an RPU that has just started. -/
def start : Knowledge := ⟨fun _ ↦ some 0, true⟩

/-- What is known of a setting after a command that does no more than it says. -/
def update (knowledge : Knowledge) (command : AfeCommand) (applied : Bool) (setting : Setting) :
    Option ℕ :=
  match assigns command setting with
  | none => knowledge.known setting
  | some value => if applied then some value else none

/-- After a command that was reported as applied, or was not. -/
def learn (knowledge : Knowledge) (command : AfeCommand) (applied : Bool) : Knowledge :=
  match command with
  | .configureFrontend .. =>
    -- The one that was left open may have been applied in its place.
    ⟨if knowledge.closed then knowledge.update command applied else fun _ ↦ none, applied⟩
  | _ => ⟨knowledge.update command applied, knowledge.closed⟩

end Knowledge

section Knowing

variable {transport : RpmsgAfeTransport (Link (AfeMmioBackend I))} {command : AfeCommand}
variable {knowledge : Knowledge} {runtime : RpuRuntime (AfeMmioBackend I)}

/-- Whether a command is reported as applied. -/
def reported (transport : RpmsgAfeTransport (Link (AfeMmioBackend I))) (command : AfeCommand) :
    Bool :=
  match submitAfeCommand command transport with
  | .ok reply _ => reply.applied
  | .error _ _ => false

/-- What is known is so. -/
structure Tracks (knowledge : Knowledge) (runtime : RpuRuntime (AfeMmioBackend I)) : Prop where
  kept : Kept runtime
  closed : knowledge.closed = true → runtime.configState.active = false
  known : ∀ setting value, knowledge.known setting = some value →
    settings runtime.hardware setting = value

omit [RegisterIo I ε] in
theorem update_eq_some_iff {applied : Bool} {setting : Setting} {value : ℕ} :
    knowledge.update command applied setting = some value ↔
      assigns command setting = none ∧ knowledge.known setting = some value ∨
        applied = true ∧ assigns command setting = some value := by
  unfold Knowledge.update
  cases assigns command setting <;> cases applied <;> simp

/-- A reported command was applied by its last frame. -/
theorem applied_of_reported (h : Prompt transport.file)
    (hreported : reported transport command = true) :
    ∃ count frames last prepared,
      prepareFrames command transport = .ok (count, frames ++ [last]) prepared ∧
      let facing := setInterlocks (feed transport.file.interlocks transport.file.runtime frames)
        (transport.file.interlocks frames.length)
      applied facing last = true ∧
        (afterCall transport (.submit command)).file.runtime = stepFrame facing last := by
  unfold reported at hreported
  cases hsubmit : submitAfeCommand command transport with
  | error abort after =>
    rw [hsubmit] at hreported
    cases hreported
  | ok reply after =>
    rw [hsubmit] at hreported
    obtain ⟨count, frames, last, prepared, wire, hprepare, rfl, hreply, hruntime⟩ :=
      submit_ok h hsubmit
    refine ⟨count, frames, last, prepared, hprepare, applied_of_commandReply hreply hreported, ?_⟩
    rw [afterCall, final_of_ok hsubmit]
    exact hruntime

/-- A command that is not prepared sends nothing; else a first part of its frames is fed. -/
theorem fed_afterCall (h : Prompt transport.file) (command : AfeCommand) :
    (afterCall transport (.submit command)).file.runtime = transport.file.runtime ∨
      ∃ count frames prepared sent, prepareFrames command transport = .ok (count, frames) prepared ∧
        sent <+: frames ∧ (afterCall transport (.submit command)).file.runtime =
          feed transport.file.interlocks transport.file.runtime sent := by
  rw [afterCall_submit]
  cases hprepare : prepareFrames command transport with
  | error abort after =>
    have hfile := Bound.keeps_rel.mp ((within_prepareFrames _).error hprepare)
    exact Or.inl (congrArg Link.runtime hfile)
  | ok prepared after =>
    obtain ⟨count, frames⟩ := prepared
    obtain ⟨hfile, -⟩ := sequence_of_prepareFrames hprepare
    obtain ⟨sent, hsent, hfed⟩ := fed_afterFrames (hfile ▸ h) frames
    rw [hfile] at hfed
    exact Or.inr ⟨count, frames, after, sent, rfl, hsent, hfed⟩

omit [RegisterIo I ε] in
/-- Any other command than a configuration is one frame. -/
theorem single_frame (hne : ∀ afes channels biasControl,
      command ≠ .configureFrontend afes channels biasControl)
    {first : UInt64} {frames : List RpuWireCommand}
    (h : fromAfeCommandSequence first command = .ok frames) :
    ∃ frame, frames = [frame] ∧ fromAfeCommand first command = .ok frame := by
  have hone : (do let frame ← fromAfeCommand first command; return [frame] :
      Except RpuWireError (List RpuWireCommand)) = .ok frames := by
    cases command with
    | configureFrontend afes channels biasControl =>
        exact absurd rfl (hne afes channels biasControl)
    | _ => exact h
  cases hframe : fromAfeCommand first command with
  | error err =>
    rw [hframe] at hone
    cases hone
  | ok frame =>
    rw [hframe] at hone
    cases hone
    exact ⟨frame, rfl, rfl⟩

omit [RegisterIo I ε] in
/-- The frame of a command is not that of another one. -/
theorem op_ne_readAlignment {first : UInt64} {frame : RpuWireCommand}
    (hne : ∀ afe, command ≠ .readAlignment afe)
    (hframe : fromAfeCommand first command = .ok frame) :
    frame.op ≠ .readAlignment := by
  intro hop
  have hcommand := commandOf_fromAfeCommand hframe
  simp only [commandOf, hop, Option.map_eq_some_iff] at hcommand
  obtain ⟨afe, -, heq⟩ := hcommand
  exact hne afe heq.symm

theorem Kept.submit (h : Kept transport.file.runtime) (hprompt : Prompt transport.file)
    (hne : ∀ afe, command ≠ .readAlignment afe) :
    Kept (afterCall transport (.submit command)).file.runtime := by
  rcases fed_afterCall hprompt command with hsame | ⟨count, frames, prepared, sent, hprepare, hsent,
    hfed⟩
  · rwa [hsame]
  · rw [hfed]
    apply h.feed
    intro frame hmem
    obtain ⟨-, first, hframes⟩ := sequence_of_prepareFrames hprepare
    by_cases hconfigure : ∃ afes channels biasControl,
        command = .configureFrontend afes channels biasControl
    · obtain ⟨afes, channels, biasControl, rfl⟩ := hconfigure
      obtain ⟨-, -, -, firstSequence, rfl⟩ := frames_of_prepareFrames hprepare
      exact op_configureFrames (hsent.mem hmem)
    · obtain ⟨frame', rfl, hframe⟩ := single_frame (fun afes channels biasControl heq ↦
        hconfigure ⟨afes, channels, biasControl, heq⟩) hframes
      rw [List.mem_singleton.mp (hsent.mem hmem)]
      exact op_ne_readAlignment hne hframe

/-- A configuration leaves alone what it does not set, if no other one was left open. -/
theorem settings_submitConfiguration (h : Prompt transport.file)
    (hkept : Kept transport.file.runtime)
    (hclosed : transport.file.runtime.configState.active = false) {setting : Setting}
    (hnone : configures afes channels biasControl setting = none) :
    settings (afterCall transport
        (.submit (.configureFrontend afes channels biasControl))).file.runtime.hardware setting =
      settings transport.file.runtime.hardware setting := by
  rcases fed_afterCall h (.configureFrontend afes channels biasControl) with hsame |
    ⟨count, frames, prepared, sent, hprepare, hsent, hfed⟩
  · rw [hsame]
  · obtain ⟨-, hafes, hchannels, firstSequence, rfl⟩ := frames_of_prepareFrames hprepare
    rw [hfed]
    exact settings_configuration hkept hclosed hafes hchannels _ hsent hnone

/-- A configuration that is reported as applied has closed the sequence. If no other one was left
open, it has set what it sets. -/
theorem settings_reportedConfiguration (h : Prompt transport.file)
    (hkept : Kept transport.file.runtime)
    (hreported : reported transport (.configureFrontend afes channels biasControl) = true) :
    let after :=
      (afterCall transport (.submit (.configureFrontend afes channels biasControl))).file.runtime
    after.configState.active = false ∧ (transport.file.runtime.configState.active = false →
      ∀ setting value, configures afes channels biasControl setting = some value →
        settings after.hardware setting = value) := by
  intro after
  obtain ⟨count, frames, last, prepared, hprepare, happlied, hafter⟩ :=
    applied_of_reported h hreported
  obtain ⟨-, hafes, hchannels, firstSequence, hframes⟩ := frames_of_prepareFrames hprepare
  rw [numberFrames_configureBuilders, ← List.cons_append] at hframes
  obtain ⟨rfl, rfl⟩ := List.append_singleton_inj.mp hframes
  dsimp only [after]
  rw [hafter]
  refine ⟨closed_of_applied rfl happlied, fun hclosed ↦ ?_⟩
  exact (settings_fed hkept hclosed hafes hchannels _ firstSequence _ rfl).2 happlied

/-- Another command that is reported as applied has set what it sets; it leaves the rest alone. -/
theorem settings_submit (h : Prompt transport.file)
    (hconfigure : ∀ afes channels biasControl, command ≠
      .configureFrontend afes channels biasControl)
    (hne : ∀ afe, command ≠ .readAlignment afe) :
    let after := (afterCall transport (.submit command)).file.runtime
    after.configState = transport.file.runtime.configState ∧
    (∀ setting, assigns command setting = none →
      settings after.hardware setting = settings transport.file.runtime.hardware setting) ∧
    (reported transport command = true → ∀ setting value, assigns command setting = some value →
      settings after.hardware setting = value) := by
  intro after
  cases hreported : reported transport command with
  | true =>
    obtain ⟨count, frames, last, prepared, hprepare, happlied, hafter⟩ :=
      applied_of_reported h hreported
    obtain ⟨-, first, hframes⟩ := sequence_of_prepareFrames hprepare
    obtain ⟨frame, hsingle, hframe⟩ := single_frame hconfigure hframes
    have hsplit : frames ++ [last] = [] ++ [frame] := hsingle
    obtain ⟨rfl, rfl⟩ := List.append_singleton_inj.mp hsplit
    obtain ⟨hleft, hset, hconfig⟩ := settings_stepFrame (I := I) (ε := ε) hframe
      (op_ne_readAlignment hne hframe)
      (setInterlocks (feed transport.file.interlocks transport.file.runtime [])
        (transport.file.interlocks ([] : List RpuWireCommand).length))
    dsimp only [after]
    rw [hafter]
    refine ⟨hconfig.trans ?_, fun setting hnone ↦ (hleft setting hnone).trans ?_, fun _ ↦
      hset happlied⟩
    · rw [setInterlocks_eq]
      rfl
    · rw [setInterlocks_eq]
      rfl
  | false =>
    have hkept : after.configState = transport.file.runtime.configState ∧
        ∀ setting, assigns command setting = none →
          settings after.hardware setting = settings transport.file.runtime.hardware setting := by
      rcases fed_afterCall h command with hsame | ⟨count, frames, prepared, sent, hprepare, hsent,
        hfed⟩
      · dsimp only [after]
        rw [hsame]
        exact ⟨rfl, fun _ _ ↦ rfl⟩
      · obtain ⟨-, first, hframes⟩ := sequence_of_prepareFrames hprepare
        obtain ⟨frame, rfl, hframe⟩ := single_frame hconfigure hframes
        dsimp only [after]
        rw [hfed]
        have hsplit : sent <+: [] ++ [frame] := hsent
        rcases List.prefix_concat_iff.mp hsplit with rfl | hnil
        · obtain ⟨hleft, -, hconfig⟩ := settings_stepFrame (I := I) (ε := ε) hframe
            (op_ne_readAlignment hne hframe)
            (setInterlocks transport.file.runtime (transport.file.interlocks 0))
          refine ⟨hconfig.trans ?_, fun setting hnone ↦ (hleft setting hnone).trans ?_⟩
          · rw [setInterlocks_eq]
            rfl
          · rw [setInterlocks_eq]
            rfl
        · rw [List.prefix_nil.mp hnil]
          exact ⟨rfl, fun _ _ ↦ rfl⟩
    exact ⟨hkept.1, hkept.2, fun hreported' ↦ absurd hreported' Bool.false_ne_true⟩

/-- Every call keeps the account right. -/
theorem tracks_submit (htracks : Tracks knowledge transport.file.runtime)
    (h : Prompt transport.file)
    (hne : ∀ afe, command ≠ .readAlignment afe) :
    Tracks (knowledge.learn command (reported transport command))
      (afterCall transport (.submit command)).file.runtime := by
  have hkept := htracks.kept.submit h hne
  by_cases hconfigure : ∃ afes channels biasControl,
      command = .configureFrontend afes channels biasControl
  · obtain ⟨afes, channels, biasControl, rfl⟩ := hconfigure
    refine ⟨hkept, fun hreported ↦ ?_, fun setting value hknown ↦ ?_⟩
    · exact (settings_reportedConfiguration h htracks.kept hreported).1
    · cases hopen : knowledge.closed with
      | false => simp [Knowledge.learn, hopen] at hknown
      | true =>
        have hclosed := htracks.closed hopen
        simp only [Knowledge.learn, hopen, if_true, update_eq_some_iff] at hknown
        rcases hknown with ⟨hnone, hknown⟩ | ⟨hreported, hset⟩
        · rw [settings_submitConfiguration h htracks.kept hclosed hnone]
          exact htracks.known setting value hknown
        · exact (settings_reportedConfiguration h htracks.kept hreported).2 hclosed setting value
            hset
  · have hnot : ∀ afes channels biasControl, command ≠
        .configureFrontend afes channels biasControl :=
      fun afes channels biasControl heq ↦ hconfigure ⟨afes, channels, biasControl, heq⟩
    obtain ⟨hconfig, hleft, hset⟩ := settings_submit h hnot hne
    have hlearn : knowledge.learn command (reported transport command) =
        ⟨knowledge.update command (reported transport command), knowledge.closed⟩ := by
      cases command with
      | configureFrontend afes channels biasControl =>
          exact absurd rfl (hnot afes channels biasControl)
      | _ => rfl
    rw [hlearn]
    refine ⟨hkept, fun hclosed ↦ hconfig ▸ htracks.closed hclosed, fun setting value hknown ↦ ?_⟩
    rcases update_eq_some_iff.mp hknown with ⟨hnone, hknown⟩ | ⟨hreported, hset'⟩
    · rw [hleft setting hnone]
      exact htracks.known setting value hknown
    · exact hset hreported setting value hset'

end Knowing


/-! ## Runs -/

section Runs

variable {transport : RpmsgAfeTransport (Link (AfeMmioBackend I))} {command : AfeCommand}
variable {knowledge : Knowledge} {setting : Setting}

/-- A status frame changes nothing but the heartbeat. -/
theorem tracks_status (htracks : Tracks knowledge transport.file.runtime)
    (h : Prompt transport.file) :
    Tracks knowledge (afterCall transport .status).file.runtime := by
  rw [afterCall_status]
  cases htake : takeSequence transport with
  | error abort after =>
    have hfile := Bound.keeps_rel.mp (within_takeSequence.error htake)
    dsimp only
    rwa [hfile]
  | ok sequence after =>
    have hfile := Bound.keeps_rel.mp (within_takeSequence.ok htake)
    rw [← hfile] at h htracks
    dsimp only
    rw [(advances_transact h (.status sequence)).runtime]
    have hne : (RpuWireCommand.status sequence).op ≠
        .readAlignment := by simp [RpuWireCommand.status]
    rcases stepFrame_cases after.file.facing hne with ⟨hstep, -⟩ | ⟨call, next, hdispatch, -⟩
    · rw [hstep, Link.facing, setInterlocks_eq]
      exact ⟨htracks.kept, htracks.closed, htracks.known⟩
    · cases hdispatch

/-- What is read back of a frame that was applied. -/
theorem wire_of_readback {runtime : RpuRuntime (AfeMmioBackend I)} {sequence : UInt64}
    {value : UInt32}
    (h : readback runtime sequence command = some value) :
    ∃ frame wire, fromAfeCommand sequence command = .ok frame ∧ replyTo runtime frame = some wire ∧
      wire.status = .applied ∧ wire.readback = some value := by
  unfold readback at h
  cases hframe : fromAfeCommand sequence command with
  | error err =>
    rw [hframe] at h
    cases h
  | ok frame =>
    rw [hframe] at h
    dsimp only at h
    cases hreply : replyTo runtime frame with
    | none =>
      rw [hreply] at h
      cases h
    | some wire =>
      rw [hreply] at h
      dsimp only at h
      split at h
      · rename_i hstatus
        exact ⟨frame, wire, rfl, hreply, hstatus, h⟩
      · cases h

theorem applied_commandReply {wire : RpuWireReply} :
    (commandReply wire).applied = true ↔ wire.status = .applied := by
  cases hstatus : wire.status <;> simp [commandReply, hstatus]

omit [RegisterIo I ε] in
/-- A read is neither a configuration nor of the alignment. -/
theorem ne_of_reads (h : reads command = some setting) :
    (∀ afes channels biasControl, command ≠ .configureFrontend afes channels biasControl) ∧
      ∀ afe, command ≠ .readAlignment afe := by
  constructor
  · rintro afes channels biasControl rfl
    cases h
  · rintro afe rfl
    cases h

/-- What a read that is applied reads back. -/
theorem readback_submit (h : Prompt transport.file) (hreads : reads command = some setting)
    {reply : AfeCommandReply} {after : RpmsgAfeTransport (Link (AfeMmioBackend I))}
    (hsubmit : submitAfeCommand command transport = .ok reply after)
    (happlied : reply.applied = true) :
    reply.readback = some (UInt32.ofNat (settings transport.file.runtime.hardware setting)) := by
  obtain ⟨hconfigure, hne⟩ := ne_of_reads hreads
  obtain ⟨count, frames, last, prepared, wire, hprepare, rfl, hreply, -⟩ := submit_ok h hsubmit
  obtain ⟨-, first, hframes⟩ := sequence_of_prepareFrames hprepare
  obtain ⟨frame, hsingle, hframe⟩ := single_frame hconfigure hframes
  have hsplit : frames ++ [last] = [] ++ [frame] := hsingle
  obtain ⟨rfl, rfl⟩ := List.append_singleton_inj.mp hsplit
  have hready := ready_of_applied (op_ne_readAlignment hne hframe) (op_fromAfeCommand hframe).1
    (applied_of_commandReply hreply happlied)
  obtain ⟨frame, wire', hframe', hreply', -, hvalue⟩ :=
    wire_of_readback (readback_of_reads (I := I) (ε := ε) hreads hready first)
  rw [hframe] at hframe'
  cases hframe'
  rw [hreply] at hreply'
  cases hreply'
  change wire.readback = _
  rw [hvalue, setInterlocks_eq]
  rfl

omit [RegisterIo I ε] in
/-- One number can always be had. -/
theorem reserveSequences_one {F : Type} (transport : RpmsgAfeTransport F) :
    ∃ first next, reserveSequences 1 transport =
      .ok first { transport with nextSequence := next } :=
  ⟨_, _, rfl⟩

omit [RegisterIo I ε] in
theorem prepareFrames_of_reads {F : Type} (transport : RpmsgAfeTransport F)
    (hreads : reads command = some setting) (hframe : ∀ first, ∃ frame,
      fromAfeCommand first command = .ok frame) :
    ∃ first frame next, fromAfeCommand first command = .ok frame ∧
      prepareFrames command transport =
        .ok (1, [frame]) { transport with nextSequence := next } := by
  obtain ⟨first, next, hreserve⟩ := reserveSequences_one transport
  obtain ⟨frame, hframe⟩ := hframe first
  refine ⟨first, frame, next, hframe, ?_⟩
  have hvalid : command.validate = .ok () := by
    cases command <;> first | rfl | cases hreads
  have hcount : frameCountForAfeCommand command = .ok 1 := by
    cases command <;> first | rfl | cases hreads
  have hframes : fromAfeCommandSequence first command = .ok [frame] := by
    cases command <;> first | cases hframe; rfl | cases hreads
  simp only [prepareFrames, hvalid, hcount, Except.mapError, ofResult_ok, pure_bind]
  rw [run_bind, hreserve]
  dsimp only
  rw [hframes]
  rfl

/-- A read is applied whenever the interlock is ready for it. -/
theorem submit_reads (h : Prompt transport.file) (hreads : reads command = some setting)
    (hready : (interlockAt transport.file 0).readyForAfe = true) :
    ∃ reply after, submitAfeCommand command transport = .ok reply after ∧ reply.applied = true := by
  have hfacing : transport.file.facing.interlock.readyForAfe = true := by
    rw [Link.facing, interlock_setInterlocks]
    rwa [interlockAt, List.range_one, List.flatMap_singleton] at hready
  have hwire (first : UInt64) :=
    wire_of_readback (readback_of_reads (I := I) (ε := ε) hreads hfacing first)
  obtain ⟨first, frame, next, hframe, hprepare⟩ :=
    prepareFrames_of_reads transport hreads fun first ↦ by
    obtain ⟨frame, -, hframe, -⟩ := hwire first
    exact ⟨frame, hframe⟩
  obtain ⟨frame', wire, hframe', hreply, hstatus, -⟩ := hwire first
  rw [hframe] at hframe'
  cases hframe'
  obtain ⟨after, hsend, -⟩ := sendFrames_numbered next 1 [frame] h fun reply hmem ↦ by
    rw [List.mem_singleton.mp hmem]
    exact Option.isSome_iff_exists.mpr ⟨wire, hreply⟩
  have hlast :
      (replies transport.file.interlocks transport.file.runtime [frame]).getLast?.getD none =
      some wire := hreply
  rw [hlast] at hsend
  refine ⟨commandReply wire, after, ?_, applied_commandReply.mpr hstatus⟩
  rw [submitAfeCommand, run_bind, hprepare]
  dsimp only
  rw [run_bind, hsend]
  rfl

/-- A host and an RPU that have just started, with any interlock changes before each frame. -/
def startTransport (io : I) (config : MmioAfeConfig) (timeout : ℕ)
    (interlocks : ℕ → List InterlockState) (arrivals : ℕ → ℕ) :
    RpmsgAfeTransport (Link (AfeMmioBackend I)) :=
  .open ⟨.new (.withConfig io config), .empty, interlocks, arrivals⟩ timeout

theorem tracks_start (io : I) (config : MmioAfeConfig) (timeout : ℕ)
    (interlocks : ℕ → List InterlockState) (arrivals : ℕ → ℕ) :
    Tracks .start (startTransport io config timeout interlocks arrivals).file.runtime := by
  refine ⟨⟨_, agrees_closed⟩, fun _ ↦ rfl, fun setting value hknown ↦ ?_⟩
  cases hknown
  exact settings_withConfig io config setting

/-! ## Main result -/

end Runs

/-! ## A sample -/

def setBiasFrame : RpuWireCommand :=
  { (status 1).setAfe (sampleAfe 0 0).afe with op := .setBias, value := 200 }

/-- The transport before it is sent. -/
def sampleStart : RpmsgAfeTransport (Link (AfeMmioBackend ZeroIo)) :=
  startTransport ZeroIo.mk .default 1000 (fun _ ↦ [.ready]) fun _ ↦ 1

theorem replies_setBiasFrame :
    replies sampleStart.file.interlocks sampleStart.file.runtime [setBiasFrame] =
      [some ⟨1, .applied, some 200, 1, 0, 0⟩] := by
  simp only [replies, replyTo_eq]
  decide +kernel

theorem submit_setBias : ∃ after,
    submitAfeCommand (.setBias (sampleAfe 0 0).afe 200) sampleStart =
      .ok (commandReply ⟨1, .applied, some 200, 1, 0, 0⟩) after ∧
    after.file.interlocks = fun _ ↦ [.ready] := by
  have hfresh : Prompt sampleStart.file := ⟨rfl, fun _ ↦ Nat.le_refl 1⟩
  have hprepare : prepareFrames (.setBias (sampleAfe 0 0).afe 200) sampleStart =
    .ok (1, [setBiasFrame]) { sampleStart with nextSequence := 2 } := rfl
  have hanswered :
      ∀ reply ∈ replies sampleStart.file.interlocks sampleStart.file.runtime [setBiasFrame],
        reply.isSome = true := by
    rw [replies_setBiasFrame]
    decide
  obtain ⟨after, hsend, -, -, hinterlocks⟩ :=
    sendFrames_numbered 2 1 [setBiasFrame] hfresh hanswered
  rw [replies_setBiasFrame] at hsend
  refine ⟨after, ?_, hinterlocks⟩
  rw [submitAfeCommand, run_bind, hprepare]
  dsimp only
  rw [run_bind, hsend]
  rfl

end DaphneSc.Server.KnownSettings
