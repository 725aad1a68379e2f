import DaphneSc.Core.ConfigureFrames
import DaphneSc.Rpu.CommandFrames
import DaphneSc.Rpu.ConfigureSequence

/-!
# The frames of one configuration on the RPU

A host sends the frames of a configuration one after the other. Whatever the answers, the open
sequence holds a part of the records sent since its begin, in order. So when the apply is accepted,
which needs as many records as the begin announced, it holds them all.
-/

namespace DaphneSc.Rpu.ConfigureRun

open Core.Afe Core.RpuWire Core.RpuWire.RpuWireCommand Rpu.Runtime Rpu.Mmio
open Rpu.Mmio.AfeMmioBackend Rpu.ConfigureSequence Program Slots

/-! ## Records among the frames sent -/

/-- The AFE records among frames, in order. -/
def sentAfes (frames : List RpuWireCommand) : List RpuWireAfeConfig :=
  frames.filterMap fun frame ↦ frame.afeConfig.toOption

/-- The channel records among frames, in order. -/
def sentChannels (frames : List RpuWireCommand) : List RpuWireChannelConfig :=
  frames.filterMap fun frame ↦ frame.channelConfig.toOption

theorem sentAfes_append (frames frames' : List RpuWireCommand) :
    sentAfes (frames ++ frames') = sentAfes frames ++ sentAfes frames' :=
  List.filterMap_append

theorem sentChannels_append (frames frames' : List RpuWireCommand) :
    sentChannels (frames ++ frames') = sentChannels frames ++ sentChannels frames' :=
  List.filterMap_append

theorem afeConfig_of_ne {frame : RpuWireCommand} (h : frame.op ≠ .configureAfe) :
    frame.afeConfig.toOption = none := by
  simp [afeConfig, requireOp, h, bind, Except.bind, Except.toOption]

theorem channelConfig_of_ne {frame : RpuWireCommand} (h : frame.op ≠ .configureChannel) :
    frame.channelConfig.toOption = none := by
  simp [channelConfig, requireOp, h, bind, Except.bind, Except.toOption]

theorem sentAfes_singleton (frame : RpuWireCommand) :
    sentAfes [frame] = frame.afeConfig.toOption.toList := by
  cases h : frame.afeConfig.toOption <;> simp [sentAfes, h]

theorem sentChannels_singleton (frame : RpuWireCommand) :
    sentChannels [frame] = frame.channelConfig.toOption.toList := by
  cases h : frame.channelConfig.toOption <;> simp [sentChannels, h]

/-- Unless its command opens or closes a sequence, an open ledger gains the command's record. -/
theorem advance_of_not_begin {ledger : Ledger} {frame : RpuWireCommand}
    (h : frame.op ≠ .beginConfigureFrontend) (hactive : (ledger.advance frame).active = true) :
    ledger.advance frame = { ledger with
      afes := ledger.afes ++ sentAfes [frame]
      channels := ledger.channels ++ sentChannels [frame] } := by
  rw [sentAfes_singleton, sentChannels_singleton]
  by_cases hafe : frame.op = .configureAfe
  · have hchannel : frame.op ≠ .configureChannel := by simp [hafe]
    rw [channelConfig_of_ne hchannel]
    cases hrecord : frame.afeConfig <;> simp [Ledger.advance, hafe, hrecord, Except.toOption]
  · rw [afeConfig_of_ne hafe]
    by_cases hchannel : frame.op = .configureChannel
    · cases hrecord : frame.channelConfig <;>
        simp [Ledger.advance, hchannel, hrecord, Except.toOption]
    · rw [channelConfig_of_ne hchannel]
      by_cases happly : frame.op = .applyConfigureFrontend
      · simp [Ledger.advance, happly, Ledger.closed] at hactive
      · rw [Ledger.advance_of_outside ⟨h, hafe, hchannel, happly⟩]
        simp

/-! ## What the open sequence holds -/

section Follows

variable {I ε : Type} [RegisterIo I ε]

/-- Runtime and backend agree, and the open sequence, if there is one, was begun with these counts
and holds a part of the records of these frames. -/
def Follows (counts : RpuWireConfigCounts) (sent : List RpuWireCommand)
    (runtime : RpuRuntime (AfeMmioBackend I)) : Prop :=
  ∃ ledger, Agrees runtime.configState runtime.hardware.stagedConfig ledger ∧
    (ledger.active = true → ledger.counts = counts ∧
      ledger.afes.Sublist (sentAfes sent) ∧ ledger.channels.Sublist (sentChannels sent))

variable {counts : RpuWireConfigCounts} {sent : List RpuWireCommand}
variable {runtime : RpuRuntime (AfeMmioBackend I)}

/-- The ledger after a frame is the one before, or has the command accounted for. -/
theorem agrees_stepFrame {ledger : Ledger}
    (h : Agrees runtime.configState runtime.hardware.stagedConfig ledger)
    {frame : RpuWireCommand} (hop : frame.op ≠ .readAlignment) :
    ∃ ledger', Agrees (stepFrame runtime frame).configState
        (stepFrame runtime frame).hardware.stagedConfig ledger' ∧
      (ledger' = ledger ∨ ledger' = ledger.advance frame) := by
  rw [stepFrame_eq_step runtime hop]
  refine ⟨_, agrees_step h (.frame (.ofCommand frame hop)), ?_⟩
  cases happlied : appliedCommand runtime (.ofCommand frame hop) with
  | none => exact Or.inl (ledgerStep_of_none happlied)
  | some command =>
    rw [ledgerStep_of_some happlied]
    rw [appliedCommand_ofCommand] at happlied
    split at happlied
    · cases happlied
      exact Or.inr rfl
    · cases happlied

/-- Every further frame keeps the sequence a part of what was sent. -/
theorem Follows.stepFrame (h : Follows counts sent runtime) {frame : RpuWireCommand}
    (hbegin : frame.op ≠ .beginConfigureFrontend) (hop : frame.op ≠ .readAlignment) :
    Follows counts (sent ++ [frame]) (stepFrame runtime frame) := by
  obtain ⟨ledger, hagrees, hparts⟩ := h
  have hafes : (sentAfes sent).Sublist (sentAfes (sent ++ [frame])) := by
    rw [sentAfes_append]
    exact List.sublist_append_left _ _
  have hchannels : (sentChannels sent).Sublist (sentChannels (sent ++ [frame])) := by
    rw [sentChannels_append]
    exact List.sublist_append_left _ _
  obtain ⟨ledger', hagrees', hledger⟩ := agrees_stepFrame hagrees hop
  refine ⟨ledger', hagrees', fun hactive ↦ ?_⟩
  rcases hledger with rfl | rfl
  · obtain ⟨hcounts, hafes', hchannels'⟩ := hparts hactive
    exact ⟨hcounts, hafes'.trans hafes, hchannels'.trans hchannels⟩
  · have hadvance := advance_of_not_begin hbegin hactive
    rw [hadvance] at hactive ⊢
    obtain ⟨hcounts, hafes', hchannels'⟩ := hparts hactive
    rw [sentAfes_append, sentChannels_append]
    exact ⟨hcounts, hafes'.append (List.Sublist.refl _), hchannels'.append (List.Sublist.refl _)⟩

theorem dispatch_begin {frame : RpuWireCommand} (hop : frame.op = .beginConfigureFrontend)
    (hcounts : frame.configureCounts = .ok counts) (config : ConfigState) :
    dispatch frame config = some (.beginConfigureFrontend counts, .begin counts) := by
  simp only [dispatch, hop, hcounts, Except.toOption, Option.map_some]

/-- A begin that is applied starts an empty sequence, whatever was there before. -/
theorem follows_begin {frame : RpuWireCommand} (hop : frame.op = .beginConfigureFrontend)
    (hcounts : frame.configureCounts = .ok counts) (happlied : applied runtime frame = true) :
    Follows counts [] (stepFrame runtime frame) := by
  have hne : frame.op ≠ .readAlignment := by simp [hop]
  rcases stepFrame_cases runtime hne with ⟨-, hstatus⟩ |
    ⟨call, next, hdispatch, -, -, ⟨readback, hardware, hperform, hstep, -⟩ | ⟨_, _, _, _, happ⟩⟩
  · exact absurd (hstatus happlied) (by simp [hop])
  · rw [dispatch_begin hop hcounts] at hdispatch
    cases hdispatch
    cases hperform
    rw [hstep]
    exact ⟨_, agrees_begin counts, fun _ ↦ ⟨rfl, List.Sublist.refl _, List.Sublist.refl _⟩⟩
  · exact absurd happlied (by simp [happ])

/-- A begin is applied whenever the interlock is ready. -/
theorem applied_begin {frame : RpuWireCommand} (hop : frame.op = .beginConfigureFrontend)
    (hcounts : frame.configureCounts = .ok counts)
    (hready : runtime.interlock.readyForAfe = true) : applied runtime frame = true :=
  applied_of_call hready (by simp [hop]) (dispatch_begin hop hcounts _) rfl

/-- The staged records are these. -/
structure Holds (counts : RpuWireConfigCounts) (afes : List RpuWireAfeConfig)
    (channels : List RpuWireChannelConfig) (staged : StagedConfig) : Prop where
  staged_counts : staged.counts = counts
  staged_afes : staged.afes = fill afeSlot afeCount afes
  staged_channels : staged.channels = fill channelSlot channelCount channels
  afe_valid : ∀ record ∈ afes, afeSlot record < afeCount
  channel_valid : ∀ record ∈ channels, ValidChannel record

/-- An apply that finds as many records as were sent finds them all. -/
theorem Follows.holds (h : Follows counts sent runtime) {frame : RpuWireCommand}
    {next : ConfigState}
    (hdispatch : dispatch frame runtime.configState = some (.applyConfigureFrontend, next))
    (hafes : counts.afeCount.toNat = (sentAfes sent).length)
    (hchannels : counts.channelCount.toNat = (sentChannels sent).length) :
    Holds counts (sentAfes sent) (sentChannels sent) runtime.hardware.stagedConfig := by
  obtain ⟨ledger, hagrees, hparts⟩ := h
  cases configures_of_dispatch hdispatch with
  | apply hop hactive hreceivedAfes hreceivedChannels =>
    have hledger : ledger.active = true := hagrees.runtime_active ▸ hactive
    have hopen := hagrees.opened hledger
    obtain ⟨rfl, hafes', hchannels'⟩ := hparts hledger
    have hafes_eq : ledger.afes = sentAfes sent := by
      apply hafes'.eq_of_length
      rw [← hopen.receivedAfes, hreceivedAfes, hopen.expectedAfes, hafes]
    have hchannels_eq : ledger.channels = sentChannels sent := by
      apply hchannels'.eq_of_length
      rw [← hopen.receivedChannels, hreceivedChannels, hopen.expectedChannels, hchannels]
    rw [← hafes_eq, ← hchannels_eq]
    exact ⟨hopen.counts, hopen.afes, hopen.channels, hopen.afe_valid, hopen.channel_valid⟩
  | other houtside hop => exact absurd trivial houtside

variable {afes : List RpuWireAfeConfig} {channels : List RpuWireChannelConfig}
variable {staged : StagedConfig}

theorem Holds.afePl_lt (h : Holds counts afes channels staged) {record : RpuWireAfeConfig}
    (hmem : record ∈ filled staged.afes) : record.afePl.toNat < afeCount := by
  rw [h.staged_afes] at hmem
  exact h.afe_valid record (mem_filled_fill hmem)

theorem Holds.validChannel (h : Holds counts afes channels staged) {record : RpuWireChannelConfig}
    (hmem : record ∈ filled staged.channels) : ValidChannel record := by
  rw [h.staged_channels] at hmem
  exact h.channel_valid record (mem_filled_fill hmem)

/-- With one record a slot, the staged AFE records are exactly these. -/
theorem Holds.afes_perm (h : Holds counts afes channels staged)
    (hnodup : (afes.map afeSlot).Nodup) : (filled staged.afes).Perm afes := by
  rw [h.staged_afes]
  exact filled_fill_perm h.afe_valid hnodup

theorem Holds.channels_perm (h : Holds counts afes channels staged)
    (hnodup : (channels.map channelSlot).Nodup) : (filled staged.channels).Perm channels := by
  rw [h.staged_channels]
  exact filled_fill_perm (fun record hmem ↦ (h.channel_valid record hmem).2.2) hnodup

/-- An apply that is applied is a call that returned. -/
theorem call_of_apply {frame : RpuWireCommand} (hop : frame.op = .applyConfigureFrontend)
    (happlied : applied runtime frame = true) :
    ∃ next readback hardware,
      dispatch frame runtime.configState = some (.applyConfigureFrontend, next) ∧
      HardwareCall.applyConfigureFrontend.perform runtime.hardware = .ok readback hardware ∧
      (stepFrame runtime frame).hardware = hardware := by
  have hne : frame.op ≠ .readAlignment := by simp [hop]
  rcases stepFrame_cases runtime hne with ⟨-, hstatus⟩ |
    ⟨call, next, hdispatch, -, -, ⟨readback, hardware, hperform, hstep, -⟩ | ⟨_, _, _, _, happ⟩⟩
  · exact absurd (hstatus happlied) (by simp [hop])
  · cases configures_of_dispatch hdispatch with
    | apply =>
      refine ⟨_, readback, hardware, hdispatch, hperform, ?_⟩
      rw [hstep]
    | other _ hne => exact absurd hop hne.2.2.2
    | «begin» hop' | afe hop' | channel hop' => simp [hop'] at hop
  · exact absurd happlied (by simp [happ])

end Follows

/-! ## The frames of one configuration -/

section Frames

variable (firstSequence : UInt64) (afes : List AfeFrontendConfig)
variable (channels : List ChannelFrontendConfig) (biasControl : UInt16)

/-- The counts a configuration announces. -/
def announced : RpuWireConfigCounts :=
  ⟨UInt16.ofNat afes.length, UInt16.ofNat channels.length, biasControl⟩

/-- The frames between the begin and the apply. -/
def recordFrames : List RpuWireCommand :=
  (afes.map afeFrame ++ channels.map channelFrame).mapIdx fun i frame ↦
    frame (sequenceForFrame firstSequence (i + 1))

theorem numberFrames_configureBuilders :
    numberFrames firstSequence (configureBuilders afes channels biasControl) =
      beginFrame afes channels biasControl (sequenceForFrame firstSequence 0) ::
        (recordFrames firstSequence afes channels ++
          [applyFrame afes channels
            (sequenceForFrame firstSequence (afes.length + channels.length + 1))]) := by
  rw [numberFrames, configureBuilders, List.mapIdx_cons, ← List.append_assoc, List.mapIdx_append]
  simp [recordFrames]

/-- What is read from a frame does not depend on its number. -/
theorem filterMap_mapIdx {β : Type} {f : RpuWireCommand → Option β}
    {g : (UInt64 → RpuWireCommand) → Option β} (builders : List (UInt64 → RpuWireCommand))
    (h : ∀ frame ∈ builders, ∀ sequence, f (frame sequence) = g frame) (numbers : ℕ → UInt64) :
    (builders.mapIdx fun i frame ↦ frame (numbers i)).filterMap f = builders.filterMap g := by
  induction builders generalizing numbers with
  | nil => rfl
  | cons frame builders ih =>
    have hrest := ih (fun frame' hmem ↦ h frame' (List.mem_cons_of_mem _ hmem))
      (fun i ↦ numbers (i + 1))
    rw [List.mapIdx_cons, List.filterMap_cons, List.filterMap_cons, hrest,
      h frame List.mem_cons_self]

variable {firstSequence afes channels}

theorem op_recordFrames {frame : RpuWireCommand}
    (h : frame ∈ recordFrames firstSequence afes channels) :
    frame.op = .configureAfe ∨ frame.op = .configureChannel := by
  obtain ⟨i, hi, rfl⟩ := List.mem_mapIdx.mp h
  rcases List.mem_append.mp (List.getElem_mem hi) with hmem | hmem
  · obtain ⟨afe, -, hafe⟩ := List.mem_map.mp hmem
    rw [← hafe]
    exact Or.inl rfl
  · obtain ⟨channel, -, hchannel⟩ := List.mem_map.mp hmem
    rw [← hchannel]
    exact Or.inr rfl

theorem sentAfes_recordFrames :
    sentAfes (recordFrames firstSequence afes channels) = afes.map wireAfe := by
  have hafe : ∀ afe sequence, (afeFrame afe sequence).afeConfig.toOption = some (wireAfe afe) := by
    intro afe sequence
    rw [afeConfig_afeFrame]
    rfl
  have hchannel : ∀ channel sequence, (channelFrame channel sequence).afeConfig.toOption =
      none := by
    intro channel sequence
    apply afeConfig_of_ne
    simp [channelFrame]
  have hfirst : ∀ frame ∈ afes.map afeFrame ++ channels.map channelFrame, ∀ sequence,
      (frame sequence).afeConfig.toOption = (frame 0).afeConfig.toOption := by
    intro frame hmem sequence
    rcases List.mem_append.mp hmem with hmem | hmem
    · obtain ⟨afe, -, rfl⟩ := List.mem_map.mp hmem
      rw [hafe, hafe]
    · obtain ⟨channel, -, rfl⟩ := List.mem_map.mp hmem
      rw [hchannel, hchannel]
  rw [sentAfes, recordFrames, filterMap_mapIdx _ hfirst]
  simp [List.filterMap_map, hafe, hchannel]

theorem sentChannels_recordFrames :
    sentChannels (recordFrames firstSequence afes channels) = channels.map wireChannel := by
  have hafe : ∀ afe sequence, (afeFrame afe sequence).channelConfig.toOption = none := by
    intro afe sequence
    apply channelConfig_of_ne
    simp [afeFrame]
  have hchannel : ∀ channel sequence,
      (channelFrame channel sequence).channelConfig.toOption = some (wireChannel channel) := by
    intro channel sequence
    rw [channelConfig_channelFrame]
    rfl
  have hfirst : ∀ frame ∈ afes.map afeFrame ++ channels.map channelFrame, ∀ sequence,
      (frame sequence).channelConfig.toOption = (frame 0).channelConfig.toOption := by
    intro frame hmem sequence
    rcases List.mem_append.mp hmem with hmem | hmem
    · obtain ⟨afe, -, rfl⟩ := List.mem_map.mp hmem
      rw [hafe, hafe]
    · obtain ⟨channel, -, rfl⟩ := List.mem_map.mp hmem
      rw [hchannel, hchannel]
  rw [sentChannels, recordFrames, filterMap_mapIdx _ hfirst]
  simp [List.filterMap_map, hafe, hchannel]

theorem announced_afeCount {biasControl : UInt16} (h : afes.length ≤ 65535) :
    (announced afes channels biasControl).afeCount.toNat =
      (sentAfes (recordFrames firstSequence afes channels)).length := by
  rw [sentAfes_recordFrames, List.length_map]
  exact Nat.mod_eq_of_lt (Nat.lt_succ_of_le h)

theorem announced_channelCount {biasControl : UInt16} (h : channels.length ≤ 65535) :
    (announced afes channels biasControl).channelCount.toNat =
      (sentChannels (recordFrames firstSequence afes channels)).length := by
  rw [sentChannels_recordFrames, List.length_map]
  exact Nat.mod_eq_of_lt (Nat.lt_succ_of_le h)

end Frames

end DaphneSc.Rpu.ConfigureRun
