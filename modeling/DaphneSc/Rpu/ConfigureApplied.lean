import DaphneSc.Rpu.DeliveryOrder
import DaphneSc.Rpu.RegisterFile

/-!
# A valid configuration is applied

On a register window that serves every transaction, all frames of a configuration of distinct AFEs
and channels with values in range are applied, and the apply programs exactly its records.
-/

namespace DaphneSc.Rpu.ConfigureApplied

open Core.Afe Core.AfeHw Core.RpuWire Core.RpuWire.RpuWireCommand Rpu.Runtime Rpu.Mmio
open Rpu.Mmio.AfeMmioBackend Rpu.RegisterFile Rpu.ApplyErrors Rpu.ConfigureRun
open Rpu.ConfigureReadback Rpu.DeliveryOrder Program Slots

variable {I ε : Type}

/-! ## Record frames -/

theorem afePl_lt_of_acceptedAfe {frame : RpuWireCommand} {record : RpuWireAfeConfig}
    (h : acceptedAfe frame = some record) : record.afePl.toNat < afeCount := by
  simpa using (Option.filter_eq_some_iff.mp h).2

theorem validChannel_of_acceptedChannel {frame : RpuWireCommand} {record : RpuWireChannelConfig}
    (h : acceptedChannel frame = some record) : ValidChannel record := by
  simpa [ValidChannel] using (Option.filter_eq_some_iff.mp h).2

section Records

variable [RegisterIo I ε] {runtime : RpuRuntime (AfeMmioBackend I)} {frame : RpuWireCommand}
variable {frames : List RpuWireCommand}

/-- With room for it, an AFE record is applied. -/
theorem applied_of_acceptedAfe {record : RpuWireAfeConfig} (hroom : Room runtime (frame :: frames))
    (h : acceptedAfe frame = some record) : applied runtime frame = true := by
  have hconfig := afeConfig_of_acceptedAfe h
  have hop : frame.op = .configureAfe := (afePl_of_afeConfig hconfig).1
  have hslot : runtime.configState.receivedAfes < runtime.configState.expectedAfes := by
    have hafes := hroom.afes
    rw [List.countP_cons, hop, beq_self_eq_true, if_pos rfl] at hafes
    rw [UInt16.lt_iff_toNat_lt]
    omega
  have hdispatch : dispatch frame runtime.configState =
      some (.configureAfe record, { runtime.configState with
        receivedAfes := runtime.configState.receivedAfes + 1 }) := by
    simp [dispatch, hop, hconfig, Except.toOption, hroom.active, hslot]
  have hperform : (AfeHardware.configureAfe record : BackendProg I ε Unit) runtime.hardware = _ :=
    configureAfe_of_valid hroom.staged (afePl_lt_of_acceptedAfe h)
  apply applied_of_call hroom.ready (by simp [hop]) hdispatch
  rw [HardwareCall.perform, run_map, hperform]

/-- With room for it, a channel record is applied. -/
theorem applied_of_acceptedChannel {record : RpuWireChannelConfig}
    (hroom : Room runtime (frame :: frames)) (h : acceptedChannel frame = some record) :
    applied runtime frame = true := by
  have hconfig := channelConfig_of_acceptedChannel h
  have hop : frame.op = .configureChannel := (channel_of_channelConfig hconfig).1
  have hslot : runtime.configState.receivedChannels < runtime.configState.expectedChannels := by
    have hchannels := hroom.channels
    rw [List.countP_cons, hop, beq_self_eq_true, if_pos rfl] at hchannels
    rw [UInt16.lt_iff_toNat_lt]
    omega
  have hdispatch : dispatch frame runtime.configState =
      some (.configureChannel record, { runtime.configState with
        receivedChannels := runtime.configState.receivedChannels + 1 }) := by
    simp [dispatch, hop, hconfig, Except.toOption, hroom.active, hslot]
  have hperform : (AfeHardware.configureChannel record : BackendProg I ε Unit) runtime.hardware =
      _ :=
    configureChannel_of_valid hroom.staged (validChannel_of_acceptedChannel h)
  apply applied_of_call hroom.ready (by simp [hop]) hdispatch
  rw [HardwareCall.perform, run_map, hperform]

/-- A frame that carries a record for a slot. -/
def CarriesRecord (frame : RpuWireCommand) : Prop :=
  (∃ record, acceptedAfe frame = some record) ∨ ∃ record, acceptedChannel frame = some record

theorem CarriesRecord.isRecord (h : CarriesRecord frame) : IsRecord frame := by
  rcases h with ⟨record, h⟩ | ⟨record, h⟩
  · exact Or.inl (afePl_of_afeConfig (afeConfig_of_acceptedAfe h)).1
  · exact Or.inr (channel_of_channelConfig (channelConfig_of_acceptedChannel h)).1

/-- With room for all of them, record frames are all applied. -/
theorem allApplied_records (hroom : Room runtime frames)
    (h : ∀ frame ∈ frames, CarriesRecord frame) : allApplied runtime frames = true := by
  induction frames generalizing runtime with
  | nil => rfl
  | cons frame frames ih =>
    have hframe := h frame List.mem_cons_self
    obtain ⟨hstep, hrest⟩ := hroom.cons hframe.isRecord
    apply allApplied_cons.mpr
    constructor
    · rcases hframe with ⟨record, hrecord⟩ | ⟨record, hrecord⟩
      · exact applied_of_acceptedAfe hroom hrecord
      · exact applied_of_acceptedChannel hroom hrecord
    · rw [hstep]
      exact ih hrest fun frame' hframe' ↦ h frame' (List.mem_cons_of_mem frame hframe')

end Records

/-! ## What staging changes -/

/-- Staging touches the counters and the slots, nothing else. -/
structure StagedFrom (runtime runtime' : RpuRuntime (AfeMmioBackend I)) (afes channels : ℕ) :
    Prop where
  interlock : runtime'.interlock = runtime.interlock
  io : runtime'.hardware.io = runtime.hardware.io
  config : runtime'.hardware.config = runtime.hardware.config
  staged : runtime'.hardware.stagedConfig.active = runtime.hardware.stagedConfig.active
  active : runtime'.configState.active = runtime.configState.active
  expectedAfes : runtime'.configState.expectedAfes = runtime.configState.expectedAfes
  expectedChannels : runtime'.configState.expectedChannels = runtime.configState.expectedChannels
  receivedAfes :
    runtime'.configState.receivedAfes = runtime.configState.receivedAfes + UInt16.ofNat afes
  receivedChannels : runtime'.configState.receivedChannels =
    runtime.configState.receivedChannels + UInt16.ofNat channels

theorem count_add {α : Type} (received : UInt16) (record : Option α) (n : ℕ) :
    count received record + UInt16.ofNat n =
      received + UInt16.ofNat (record.toList.length + n) := by
  cases record with
  | none => simp [count]
  | some a =>
    change received + 1 + UInt16.ofNat n = received + UInt16.ofNat (1 + n)
    rw [UInt16.ofNat_add, UInt16.add_assoc]
    rfl

theorem stagedFrom_foldl (runtime : RpuRuntime (AfeMmioBackend I)) (frames : List RpuWireCommand) :
    StagedFrom runtime (frames.foldl stage runtime) (frames.filterMap acceptedAfe).length
      (frames.filterMap acceptedChannel).length := by
  induction frames generalizing runtime with
  | nil =>
    constructor <;> first | rfl | exact (UInt16.add_zero _).symm
  | cons frame frames ih =>
    have hrest := ih (stage runtime frame)
    have hlength {α : Type} (f : RpuWireCommand → Option α) :
        ((frame :: frames).filterMap f).length =
          (f frame).toList.length + (frames.filterMap f).length := by
      rw [List.filterMap_cons]
      cases f frame with
      | none => simp
      | some a => simp [Nat.add_comm]
    rw [List.foldl_cons]
    constructor
    · exact hrest.interlock
    · exact hrest.io
    · exact hrest.config
    · exact hrest.staged
    · exact hrest.active
    · exact hrest.expectedAfes
    · exact hrest.expectedChannels
    · rw [hrest.receivedAfes, hlength]
      exact count_add _ _ _
    · rw [hrest.receivedChannels, hlength]
      exact count_add _ _ _

/-! ## The frames of a configuration -/

/-- A configuration of distinct AFEs and channels, with every value in range. -/
structure ValidConfiguration (afes : List AfeFrontendConfig) (channels : List ChannelFrontendConfig)
    (biasControl : UInt16) : Prop where
  afes_distinct : (afes.map (·.afe)).Nodup
  channels_distinct : (channels.map (·.channel)).Nodup
  biasControl : biasControl.toNat < 4096
  afe_values : ∀ afe ∈ afes, ValidAfeValues (wireAfe afe)
  channel_values : ∀ channel ∈ channels, ValidChannelValues (wireChannel channel)

section Configuration

variable {firstSequence : UInt64} {afes : List AfeFrontendConfig}
variable {channels : List ChannelFrontendConfig} {biasControl : UInt16}

theorem acceptedAfe_afeFrame (afe : AfeFrontendConfig) (sequence : UInt64) :
    acceptedAfe (afeFrame afe sequence) = some (wireAfe afe) := by
  rw [acceptedAfe_of_ok (afeConfig_afeFrame afe sequence)]
  exact if_pos afe.afe.pl_lt

theorem validChannel_wireChannel (channel : ChannelFrontendConfig) :
    ValidChannel (wireChannel channel) :=
  ⟨channel.channel.afe.pl_lt, channel.channel.afeChannel_lt, channel.channel.channel_lt⟩

theorem acceptedChannel_channelFrame (channel : ChannelFrontendConfig) (sequence : UInt64) :
    acceptedChannel (channelFrame channel sequence) = some (wireChannel channel) :=
  acceptedChannel_of_valid (channelConfig_channelFrame channel sequence)
    (validChannel_wireChannel channel)

theorem carriesRecord_recordFrames {frame : RpuWireCommand}
    (h : frame ∈ recordFrames firstSequence afes channels) : CarriesRecord frame := by
  obtain ⟨i, hi, rfl⟩ := List.mem_mapIdx.mp h
  rcases List.mem_append.mp (List.getElem_mem hi) with hmem | hmem
  · obtain ⟨afe, -, hafe⟩ := List.mem_map.mp hmem
    rw [← hafe]
    exact Or.inl ⟨_, acceptedAfe_afeFrame afe _⟩
  · obtain ⟨channel, -, hchannel⟩ := List.mem_map.mp hmem
    rw [← hchannel]
    exact Or.inr ⟨_, acceptedChannel_channelFrame channel _⟩

theorem acceptedAfes_recordFrames :
    (recordFrames firstSequence afes channels).filterMap acceptedAfe = afes.map wireAfe := by
  have hfilter : (recordFrames firstSequence afes channels).filterMap acceptedAfe =
      (sentAfes (recordFrames firstSequence afes channels)).filter
        fun record ↦ record.afePl.toNat < afeCount := by
    rw [sentAfes, List.filter_filterMap]
    rfl
  rw [hfilter, sentAfes_recordFrames]
  apply List.filter_eq_self.mpr
  intro record hrecord
  obtain ⟨afe, -, rfl⟩ := List.mem_map.mp hrecord
  exact decide_eq_true afe.afe.pl_lt

theorem acceptedChannels_recordFrames :
    (recordFrames firstSequence afes channels).filterMap acceptedChannel =
      channels.map wireChannel := by
  have hfilter : (recordFrames firstSequence afes channels).filterMap acceptedChannel =
      (sentChannels (recordFrames firstSequence afes channels)).filter
        fun record ↦ record.afePl.toNat < afeCount ∧ record.afeChannel.toNat < channelsPerAfe ∧
          record.channel.toNat < channelCount := by
    rw [sentChannels, List.filter_filterMap]
    rfl
  rw [hfilter, sentChannels_recordFrames]
  apply List.filter_eq_self.mpr
  intro record hrecord
  obtain ⟨channel, -, rfl⟩ := List.mem_map.mp hrecord
  exact decide_eq_true (validChannel_wireChannel channel)

/-- Among frames that carry records, those of one kind are counted by their records. -/
theorem countP_afes {frames : List RpuWireCommand} (h : ∀ frame ∈ frames, CarriesRecord frame) :
    frames.countP (·.op == .configureAfe) = (frames.filterMap acceptedAfe).length := by
  rw [List.length_filterMap_eq_countP]
  apply List.countP_congr
  intro frame hframe
  rcases h frame hframe with ⟨record, hrecord⟩ | ⟨record, hrecord⟩
  · have hop := (afePl_of_afeConfig (afeConfig_of_acceptedAfe hrecord)).1
    simp [hop, hrecord]
  · have hop := (channel_of_channelConfig (channelConfig_of_acceptedChannel hrecord)).1
    have hnone : acceptedAfe frame = none := acceptedAfe_of_ne (by simp [hop])
    simp [hop, hnone]

theorem countP_channels {frames : List RpuWireCommand} (h : ∀ frame ∈ frames, CarriesRecord frame) :
    frames.countP (·.op == .configureChannel) = (frames.filterMap acceptedChannel).length := by
  rw [List.length_filterMap_eq_countP]
  apply List.countP_congr
  intro frame hframe
  rcases h frame hframe with ⟨record, hrecord⟩ | ⟨record, hrecord⟩
  · have hop := (afePl_of_afeConfig (afeConfig_of_acceptedAfe hrecord)).1
    have hnone : acceptedChannel frame = none := acceptedChannel_of_ne (by simp [hop])
    simp [hop, hnone]
  · have hop := (channel_of_channelConfig (channelConfig_of_acceptedChannel hrecord)).1
    simp [hop, hrecord]

theorem nodup_afeSlots (h : (afes.map (·.afe)).Nodup) :
    ((afes.map wireAfe).map afeSlot).Nodup := by
  rw [List.map_map]
  exact nodup_afeKeys h

theorem nodup_channelSlots (h : (channels.map (·.channel)).Nodup) :
    ((channels.map wireChannel).map channelSlot).Nodup := by
  have hinjective : Function.Injective fun channel : ChannelId ↦ channel.channel.toNat :=
    fun _ _ heq ↦ ChannelId.eq_of_channel_eq (UInt8.toNat_inj.mp heq)
  have hmap := h.map hinjective
  rw [List.map_map] at hmap ⊢
  exact hmap

namespace ValidConfiguration

variable (h : ValidConfiguration afes channels biasControl)

include h

/-- There are no more records than AFEs and channels, so their numbers fit the announced counts. -/
theorem length_afes_le : afes.length ≤ 65535 := by
  have hbound : ∀ record ∈ afes.map wireAfe, afeSlot record < afeCount := by
    intro record hrecord
    obtain ⟨afe, -, rfl⟩ := List.mem_map.mp hrecord
    exact afe.afe.pl_lt
  calc afes.length
      = (afes.map wireAfe).length := (List.length_map _).symm
    _ ≤ afeCount := length_le_of_nodup hbound (nodup_afeSlots h.afes_distinct)
    _ ≤ 65535 := by decide

theorem length_channels_le : channels.length ≤ 65535 := by
  have hbound : ∀ record ∈ channels.map wireChannel, channelSlot record < channelCount := by
    intro record hrecord
    obtain ⟨channel, -, rfl⟩ := List.mem_map.mp hrecord
    exact channel.channel.channel_lt
  calc channels.length
      = (channels.map wireChannel).length := (List.length_map _).symm
    _ ≤ channelCount := length_le_of_nodup hbound (nodup_channelSlots h.channels_distinct)
    _ ≤ 65535 := by decide

end ValidConfiguration

end Configuration

/-! ## Applying -/

section Applying

variable [RegisterIo I ε]

/-- An apply of an open and complete configuration programs it and closes the sequence. -/
theorem applyConfigureFrontend_of_programs {backend backend' : AfeMmioBackend I}
    (hactive : backend.stagedConfig.active = true)
    (hcounts : (backend.stagedConfig.validateCounts : Except (MmioAfeError ε) Unit) = .ok ())
    (hprogram : (programStaged backend.stagedConfig : BackendProg I ε Unit) backend =
      .ok () backend') :
    (applyConfigureFrontend : BackendProg I ε Unit) backend =
      .ok ⟨⟩ { backend' with stagedConfig := .default } := by
  rw [applyConfigureFrontend, run_get_bind, failIf, if_neg (by simp [hactive]), pure_bind, hcounts,
    ofResult_ok, pure_bind, run_bind, hprogram]
  rfl

variable {view : RegisterView I} {runtime : RpuRuntime (AfeMmioBackend I)}
variable {firstSequence : UInt64} {afes : List AfeFrontendConfig}
variable {channels : List ChannelFrontendConfig} {biasControl : UInt16}

/-- What the slots hold when the records of a valid configuration are staged. -/
theorem holds_valid {staged : StagedConfig} (h : ValidConfiguration afes channels biasControl)
    (hactive : staged.active = true)
    (hholds : Holds (announced afes channels biasControl) (afes.map wireAfe)
      (channels.map wireChannel) staged) :
    WellStaged staged ∧ ValidValues staged ∧
      (staged.validateCounts : Except (MmioAfeError ε) Unit) = .ok () := by
  have hafes := hholds.afes_perm (nodup_afeSlots h.afes_distinct)
  have hchannels := hholds.channels_perm (nodup_channelSlots h.channels_distinct)
  refine ⟨⟨hactive, fun _ ↦ hholds.validChannel, fun _ ↦ hholds.afePl_lt⟩, ⟨?_, ?_, ?_⟩, ?_⟩
  · intro record hrecord
    obtain ⟨channel, hmem, rfl⟩ := List.mem_map.mp (hchannels.mem_iff.mp hrecord)
    exact h.channel_values channel hmem
  · rw [hholds.staged_counts]
    exact h.biasControl
  · intro record hrecord
    obtain ⟨afe, hmem, rfl⟩ := List.mem_map.mp (hafes.mem_iff.mp hrecord)
    exact h.afe_values afe hmem
  · apply StagedConfig.validateCounts_eq_ok_iff.mpr
    rw [StagedConfig.receivedAfes, StagedConfig.receivedChannels, hafes.length_eq,
      hchannels.length_eq, List.length_map, List.length_map, hholds.staged_counts]
    exact ⟨rfl, rfl⟩

/-- All records of a configuration are staged, and nothing else has changed. -/
structure AllStaged (runtime runtime' : RpuRuntime (AfeMmioBackend I))
    (afes : List AfeFrontendConfig) (channels : List ChannelFrontendConfig) (biasControl : UInt16) :
    Prop where
  ready : runtime'.interlock.readyForAfe = true
  complete : runtime'.configState.requireComplete = .ok ()
  active : runtime'.hardware.stagedConfig.active = true
  holds : Holds (announced afes channels biasControl) (afes.map wireAfe) (channels.map wireChannel)
    runtime'.hardware.stagedConfig
  io : runtime'.hardware.io = runtime.hardware.io
  config : runtime'.hardware.config = runtime.hardware.config

/-- A complete sequence is passed on to be applied. -/
theorem dispatch_apply {frame : RpuWireCommand} (hop : frame.op = .applyConfigureFrontend)
    {config : ConfigState} (hcomplete : config.requireComplete = .ok ()) :
    dispatch frame config = some (.applyConfigureFrontend, .default) := by
  have hconditions := ConfigState.requireComplete_eq_ok_iff.mp hcomplete
  simp [dispatch, hop, hconditions]

/-- The begin and the records of a valid configuration are applied, and leave it staged. -/
theorem records_staged (hready : runtime.interlock.readyForAfe = true)
    (hvalid : ValidConfiguration afes channels biasControl) {beginning : RpuWireCommand}
    (hbegin : beginning.op = .beginConfigureFrontend)
    (hcounts : beginning.configureCounts = .ok (announced afes channels biasControl)) :
    let frames := beginning :: recordFrames firstSequence afes channels
    allApplied runtime frames = true ∧
      AllStaged runtime (sendAll runtime frames) afes channels biasControl := by
  intro frames
  have hcarries : ∀ frame ∈ recordFrames firstSequence afes channels, CarriesRecord frame :=
    fun _ ↦ carriesRecord_recordFrames
  have hrecords : ∀ frame ∈ recordFrames firstSequence afes channels, IsRecord frame :=
    fun frame hframe ↦ (hcarries frame hframe).isRecord
  have hafeCount : (announced afes channels biasControl).afeCount.toNat =
      (sentAfes (recordFrames firstSequence afes channels)).length :=
    announced_afeCount hvalid.length_afes_le
  have hchannelCount : (announced afes channels biasControl).channelCount.toNat =
      (sentChannels (recordFrames firstSequence afes channels)).length :=
    announced_channelCount hvalid.length_channels_le
  have hbegun := stepFrame_begin hbegin hcounts hready
  have hroom : Room (stepFrame runtime beginning) (recordFrames firstSequence afes channels) := by
    rw [hbegun]
    apply room_of_begin runtime hready
    · rw [hafeCount, sentAfes_recordFrames, countP_afes hcarries, acceptedAfes_recordFrames]
    · rw [hchannelCount, sentChannels_recordFrames, countP_channels hcarries,
        acceptedChannels_recordFrames]
  have happlied : applied runtime beginning = true := applied_begin hbegin hcounts hready
  have hfollows : Follows (announced afes channels biasControl)
      (recordFrames firstSequence afes channels) (sendAll runtime frames) :=
    follows_sendAll (follows_begin hbegin hcounts happlied) fun _ ↦ op_recordFrames
  have hstaged := stagedFrom_foldl (stepFrame runtime beginning)
    (recordFrames firstSequence afes channels)
  rw [← sendAll_eq_foldl_stage hroom hrecords, acceptedAfes_recordFrames,
    acceptedChannels_recordFrames, List.length_map, List.length_map] at hstaged
  have hcomplete : (sendAll runtime frames).configState.requireComplete = .ok () := by
    apply ConfigState.requireComplete_eq_ok_iff.mpr
    rw [sendAll_cons, hstaged.active, hstaged.receivedAfes, hstaged.receivedChannels,
      hstaged.expectedAfes, hstaged.expectedChannels, hbegun]
    exact ⟨rfl, UInt16.zero_add _, UInt16.zero_add _⟩
  constructor
  · exact allApplied_cons.mpr ⟨happlied, allApplied_records hroom hcarries⟩
  · constructor
    · rw [sendAll_cons, hstaged.interlock, hbegun]
      exact hready
    · exact hcomplete
    · rw [sendAll_cons, hstaged.staged, hbegun]
      rfl
    · have happly : (applyFrame afes channels 0).op = .applyConfigureFrontend := rfl
      have hholds :=
        hfollows.holds (dispatch_apply happly hcomplete) hafeCount hchannelCount
      rwa [sentAfes_recordFrames, sentChannels_recordFrames] at hholds
    · rw [sendAll_cons, hstaged.io, hbegun]
    · rw [sendAll_cons, hstaged.config, hbegun]

/-- An apply of the staged configuration is applied, and programs it. -/
theorem apply_staged (h : IsRegisterFile view) (hlimit : 1 ≤ runtime.hardware.config.spinLimit)
    (hvalid : ValidConfiguration afes channels biasControl) {staged : RpuRuntime (AfeMmioBackend I)}
    (hstaged : AllStaged runtime staged afes channels biasControl) {frame : RpuWireCommand}
    (hop : frame.op = .applyConfigureFrontend) :
    applied staged frame = true ∧ ∃ backend,
      (programStaged staged.hardware.stagedConfig : BackendProg I ε Unit) staged.hardware =
        .ok () backend ∧
      (stepFrame staged frame).hardware.io = backend.io := by
  obtain ⟨hwell, hvalues, hcounts⟩ := holds_valid (ε := ε) hvalid hstaged.active hstaged.holds
  have hspin : 0 < staged.hardware.config.spinLimit.toNat := by
    rw [hstaged.config]
    exact UInt32.le_iff_toNat_le.mp hlimit
  obtain ⟨backend, hprogram⟩ := h.programs hwell hvalues hspin
  have hrun : (AfeHardware.applyConfigureFrontend : BackendProg I ε Unit) staged.hardware = _ :=
    applyConfigureFrontend_of_programs hstaged.active hcounts hprogram
  have hperform : HardwareCall.applyConfigureFrontend.perform staged.hardware =
      .ok none { backend with stagedConfig := .default } := by
    rw [HardwareCall.perform, run_map, hrun]
  have hdispatch := dispatch_apply hop hstaged.complete
  have hstatus : frame.op ≠ .status := by simp [hop]
  constructor
  · exact applied_of_call hstaged.ready hstatus hdispatch hperform
  · refine ⟨backend, hprogram, ?_⟩
    rw [stepFrame_of_ready hstatus hstaged.ready, hdispatch]
    simp only [hperform]

/-- Every frame of a valid configuration is applied, and the last one programs its records. -/
theorem configuration_applied (h : IsRegisterFile view)
    (hready : runtime.interlock.readyForAfe = true)
    (hlimit : 1 ≤ runtime.hardware.config.spinLimit) (firstSequence : UInt64)
    (hvalid : ValidConfiguration afes channels biasControl) :
    ∃ frames, fromAfeCommandSequence firstSequence (.configureFrontend afes channels biasControl) =
        .ok frames ∧ allApplied runtime frames = true ∧
      ∃ staged backend backend',
        Holds (announced afes channels biasControl) (afes.map wireAfe) (channels.map wireChannel)
          staged ∧ ValidValues staged ∧ backend.io = runtime.hardware.io ∧
        (programStaged staged : BackendProg I ε Unit) backend = .ok () backend' ∧
        (sendAll runtime frames).hardware.io = backend'.io := by
  have hsequence : fromAfeCommandSequence firstSequence
      (.configureFrontend afes channels biasControl) =
        .ok (numberFrames firstSequence (configureBuilders afes channels biasControl)) :=
    configureFrontendSequence_eq hvalid.length_afes_le hvalid.length_channels_le
  rw [numberFrames_configureBuilders] at hsequence
  generalize hfirst : beginFrame afes channels biasControl (sequenceForFrame firstSequence 0) =
    beginning at hsequence
  generalize hlast : applyFrame afes channels
    (sequenceForFrame firstSequence (afes.length + channels.length + 1)) = apply at hsequence
  have hbegin : beginning.op = .beginConfigureFrontend := by
    rw [← hfirst]
    rfl
  have hcounts : beginning.configureCounts = .ok (announced afes channels biasControl) := by
    rw [← hfirst]
    exact configureCounts_beginFrame _
  have hop : apply.op = .applyConfigureFrontend := by
    rw [← hlast]
    rfl
  obtain ⟨hrecords, hstaged⟩ :
      allApplied runtime (beginning :: recordFrames firstSequence afes channels) = true ∧
        AllStaged runtime (sendAll runtime (beginning :: recordFrames firstSequence afes channels))
          afes channels biasControl := records_staged hready hvalid hbegin hcounts
  obtain ⟨happly, backend, hprogram, hio⟩ := apply_staged h hlimit hvalid hstaged hop
  rw [← List.cons_append] at hsequence
  refine ⟨_, hsequence, allApplied_append_singleton.mpr ⟨hrecords, happly⟩, _, _, backend,
    hstaged.holds, (holds_valid (ε := ε) hvalid hstaged.active hstaged.holds).2.1, hstaged.io,
    hprogram, ?_⟩
  rw [sendAll_append_singleton, hio]

end Applying

end DaphneSc.Rpu.ConfigureApplied
