import DaphneSc.Rpu.ConfigureRun
import DaphneSc.Rpu.Readback
import DaphneSc.Rpu.TrimOffsetRuns

/-!
# Reading back an applied configuration

When every frame of a configuration is applied, later reads give its attenuations, trims, offsets
and bias control, and its biases other than zero. An AFE configured with bias zero keeps the bias it
had, as all other AFEs and channels keep their readings.
-/

namespace DaphneSc.Rpu.ConfigureReadback

open Core.Afe Core.RpuWire Core.RpuWire.RpuWireCommand Rpu.Runtime Rpu.Mmio
open Rpu.Mmio.AfeMmioBackend Rpu.ConfigureSequence Rpu.ConfigureRun Rpu.Readback Rpu.TrimOffset
open Program Slots

/-! ## Sending frames -/

section Frames

variable {H ε : Type} [AfeHardware H ε]

/-- The runtime after some frames. -/
def sendAll (runtime : RpuRuntime H) (frames : List RpuWireCommand) : RpuRuntime H :=
  frames.foldl stepFrame runtime

/-- Every frame is answered as applied. -/
def allApplied (runtime : RpuRuntime H) : List RpuWireCommand → Bool
  | [] => true
  | frame :: frames => applied runtime frame && allApplied (stepFrame runtime frame) frames

theorem allApplied_cons {runtime : RpuRuntime H} {frame : RpuWireCommand}
    {frames : List RpuWireCommand} :
    allApplied runtime (frame :: frames) = true ↔
      applied runtime frame = true ∧ allApplied (stepFrame runtime frame) frames = true := by
  rw [allApplied, Bool.and_eq_true]

theorem sendAll_nil (runtime : RpuRuntime H) : sendAll runtime [] = runtime := rfl

theorem sendAll_cons (runtime : RpuRuntime H) (frame : RpuWireCommand)
    (frames : List RpuWireCommand) :
    sendAll runtime (frame :: frames) = sendAll (stepFrame runtime frame) frames :=
  List.foldl_cons ..

theorem sendAll_append_singleton (runtime : RpuRuntime H) (frames : List RpuWireCommand)
    (frame : RpuWireCommand) :
    sendAll runtime (frames ++ [frame]) = stepFrame (sendAll runtime frames) frame :=
  List.foldl_concat ..

theorem allApplied_append_singleton {runtime : RpuRuntime H} {frames : List RpuWireCommand}
    {frame : RpuWireCommand} :
    allApplied runtime (frames ++ [frame]) = true ↔
      allApplied runtime frames = true ∧ applied (sendAll runtime frames) frame = true := by
  induction frames generalizing runtime with
  | nil => simp [allApplied, sendAll_nil]
  | cons first frames ih =>
    rw [List.cons_append, allApplied_cons, allApplied_cons, sendAll_cons, ih, and_assoc]

/-- The replies to commands that arrive one after the other, without their encoding. -/
def commandReplies (runtime : RpuRuntime H) : List RpuWireCommand → List RpuWireReply
  | [] => []
  | frame :: frames =>
    match RpuRuntime.handleCommand frame runtime.tick with
    | .ok reply runtime' => reply :: commandReplies runtime' frames
    | .error _ _ => []

/-- Whether all frames are applied does not depend on their encoding. -/
theorem allApplied_of_commandReplies {runtime : RpuRuntime H} {frames : List RpuWireCommand}
    (h : (commandReplies runtime frames).map (·.status) = List.replicate frames.length .applied) :
    allApplied runtime frames = true := by
  induction frames generalizing runtime with
  | nil => rfl
  | cons frame frames ih =>
    rw [commandReplies, List.length_cons, List.replicate_succ] at h
    rw [allApplied_cons, applied, replyTo_eq, stepFrame_eq, final]
    cases hcommand : RpuRuntime.handleCommand frame runtime.tick with
    | error e runtime' => simp [hcommand] at h
    | ok reply runtime' =>
      simp only [hcommand, List.map_cons, List.cons.injEq] at h
      exact ⟨by simp [h.1], ih h.2⟩

/-- Nor does the runtime after them. -/
theorem sendAll_eq_foldl (runtime : RpuRuntime H) (frames : List RpuWireCommand) :
    sendAll runtime frames = frames.foldl (fun runtime frame ↦
      final (RpuRuntime.handleCommand frame) runtime.tick) runtime := by
  unfold sendAll
  congr 1
  funext runtime frame
  exact stepFrame_eq runtime frame

/-- What every step preserves is preserved by sending frames. -/
theorem sendAll_induction {P : RpuRuntime H → Prop} {frames : List RpuWireCommand}
    (hstep : ∀ frame ∈ frames, ∀ runtime, P runtime → P (stepFrame runtime frame))
    {runtime : RpuRuntime H} (h : P runtime) : P (sendAll runtime frames) := by
  induction frames generalizing runtime with
  | nil => exact h
  | cons frame frames ih =>
    rw [sendAll_cons]
    apply ih (fun frame' hmem ↦ hstep frame' (List.mem_cons_of_mem _ hmem))
    exact hstep frame List.mem_cons_self runtime h

theorem stepFrame_interlock (runtime : RpuRuntime H) {frame : RpuWireCommand}
    (h : frame.op ≠ .readAlignment) : (stepFrame runtime frame).interlock = runtime.interlock := by
  rcases stepFrame_cases runtime h with
    ⟨hstep, -⟩ | ⟨_, _, _, _, _, ⟨_, _, _, hstep, -⟩ | ⟨_, _, _, hstep, -⟩⟩
  all_goals
    rw [hstep]
    rfl

/-- What an RPU command of one frame reads back, if it is applied. -/
def readback (runtime : RpuRuntime H) (sequence : UInt64) (command : AfeCommand) : Option UInt32 :=
  match fromAfeCommand sequence command with
  | .error _ => none
  | .ok frame =>
    match replyTo runtime frame with
    | none => none
    | some reply => if reply.status = .applied then reply.readback else none

theorem readback_of_call {runtime : RpuRuntime H} {sequence : UInt64} {command : AfeCommand}
    {frame : RpuWireCommand} (hframe : fromAfeCommand sequence command = .ok frame)
    (hready : runtime.interlock.readyForAfe = true) (hstatus : frame.op ≠ .status)
    {call : HardwareCall} {next : ConfigState}
    (hdispatch : dispatch frame runtime.configState = some (call, next)) {value : Option UInt32}
    {hardware : H} (hperform : call.perform runtime.hardware = .ok value hardware) :
    readback runtime sequence command = value := by
  simp only [readback, hframe, replyTo_of_call hready hstatus hdispatch hperform,
    RpuRuntime.answer, if_true]

end Frames

/-! ## Reads -/

/-- The commands that read a cache. -/
def IsRead (frame : RpuWireCommand) : Prop :=
  frame.op ∈ [.readAttenuation, .readBias, .readTrim, .readOffset, .readVbiasControl]

/-- The calls that read a cache. -/
def ReadsCache : HardwareCall → Prop
  | .readScalar .. | .readChannelScalar _ | .readVbiasControl => True
  | _ => False

theorem readsCache_of_dispatch {frame : RpuWireCommand} (h : IsRead frame)
    {config next : ConfigState} {call : HardwareCall}
    (hdispatch : dispatch frame config = some (call, next)) : ReadsCache call := by
  simp only [IsRead, List.mem_cons, List.not_mem_nil, or_false] at h
  rcases h with hop | hop | hop | hop | hop
  all_goals
    simp only [dispatch, hop, Option.map_eq_some_iff, Option.some.injEq, Prod.mk.injEq] at hdispatch
  · obtain ⟨_, -, rfl, -⟩ := hdispatch
    trivial
  · obtain ⟨_, -, rfl, -⟩ := hdispatch
    trivial
  all_goals
    obtain ⟨rfl, -⟩ := hdispatch
    trivial

/-- Where an AFE is read. -/
def afeKey (afe : AfeId) : ℕ := afe.pl.toNat

/-- Where a channel is read. -/
def channelKey (channel : ChannelId) : ℕ × ℕ := (channel.afe.pl.toNat, channel.afeChannel.toNat)

theorem afeKey_injective : Function.Injective afeKey := fun _ _ h ↦
  AfeId.eq_of_pl_eq (UInt8.toNat_inj.mp h)

theorem channelKey_injective : Function.Injective channelKey := by
  intro channel channel' h
  obtain ⟨hafe, hchannel⟩ := Prod.mk.inj h
  exact ChannelId.eq_of_position_eq (AfeId.eq_of_pl_eq (UInt8.toNat_inj.mp hafe))
    (UInt8.toNat_inj.mp hchannel)

section Reads

variable {I ε : Type} [RegisterIo I ε] {runtime : RpuRuntime (AfeMmioBackend I)}

theorem within_readsCache {call : HardwareCall} (h : ReadsCache call) :
    Within (.keeps id : Bound (AfeMmioBackend I)) call.perform := by
  cases call with
  | readScalar op afePl =>
    refine within_map (within_bind (within_ofResult _) fun _ ↦ within_bind within_get fun _ ↦ ?_)
    split
    · exact within_bind (within_index _ _) fun _ ↦ within_pure _
    · exact within_bind (within_index _ _) fun _ ↦ within_pure _
    · exact within_fail _
  | readChannelScalar command =>
    exact within_map (within_bind (within_failIf _ _) fun _ ↦
      within_readTrimOrOffsetChannel _ _ _)
  | readVbiasControl =>
    apply within_map
    intro s
    rfl
  | _ => exact absurd h fun h ↦ h

/-- Reading changes neither the backend nor the interlock. -/
theorem stepFrame_read (runtime : RpuRuntime (AfeMmioBackend I)) {frame : RpuWireCommand}
    (h : IsRead frame) :
    (stepFrame runtime frame).hardware = runtime.hardware ∧
      (stepFrame runtime frame).interlock = runtime.interlock := by
  have hne : frame.op ≠ .readAlignment := by
    intro hop
    simp [IsRead, hop] at h
  refine ⟨?_, stepFrame_interlock runtime hne⟩
  rcases stepFrame_cases runtime hne with
    ⟨hstep, -⟩ | ⟨call, next, hdispatch, -, -, ⟨_, hardware, hperform, hstep, -⟩ |
      ⟨_, hardware, hperform, hstep, -⟩⟩
  · rw [hstep]
    rfl
  · rw [hstep]
    exact (within_readsCache (readsCache_of_dispatch h hdispatch)).ok hperform
  · rw [hstep]
    exact (within_readsCache (readsCache_of_dispatch h hdispatch)).error hperform

omit [RegisterIo I ε] in
/-- A scalar read is answered from its cache. -/
theorem readScalar_of_cache {op : RpuWireOp} {cache : Vector UInt16 afeCount} {afePl : UInt8}
    (hafe : afePl.toNat < afeCount) {backend : AfeMmioBackend I}
    (hread : (readScalar op afePl : BackendProg I ε UInt32) backend =
      (do let value ← index cache afePl.toNat; return value.toUInt32 : BackendProg I ε UInt32)
        backend) :
    (readScalar op afePl : BackendProg I ε UInt32) backend =
      .ok (UInt32.ofNat (scalarAt cache afePl.toNat)) backend := by
  rw [hread, index_of_lt _ hafe, pure_bind, scalarAt_of_lt _ hafe]
  simp only [run_pure, UInt32.ofNat_uInt16ToNat]

section

variable (hready : runtime.interlock.readyForAfe = true) (sequence : UInt64)

include hready

theorem readback_attenuation (afe : AfeId) :
    readback runtime sequence (.readAttenuation afe) =
      some (UInt32.ofNat ((readings runtime.hardware).attenuation (afeKey afe))) := by
  have hdispatch : dispatch { (status sequence).setAfe afe with op := .readAttenuation }
      runtime.configState = some (.readScalar .readAttenuation afe.pl, runtime.configState) := rfl
  have hvalid : (validateAfe afe.pl : Except (MmioAfeError ε) Unit) = .ok () := if_pos afe.pl_lt
  apply readback_of_call rfl hready (by simp) hdispatch
  apply map_eq_ok_iff.mpr
  refine ⟨_, readScalar_of_cache afe.pl_lt ?_, rfl⟩
  rw [readScalar, hvalid]
  rfl

theorem readback_bias (afe : AfeId) :
    readback runtime sequence (.readBias afe) =
      some (UInt32.ofNat ((readings runtime.hardware).bias (afeKey afe))) := by
  have hdispatch : dispatch { (status sequence).setAfe afe with op := .readBias }
      runtime.configState = some (.readScalar .readBias afe.pl, runtime.configState) := rfl
  have hvalid : (validateAfe afe.pl : Except (MmioAfeError ε) Unit) = .ok () := if_pos afe.pl_lt
  apply readback_of_call rfl hready (by simp) hdispatch
  apply map_eq_ok_iff.mpr
  refine ⟨_, readScalar_of_cache afe.pl_lt ?_, rfl⟩
  rw [readScalar, hvalid]
  rfl

theorem readback_trim (channel : ChannelId) :
    readback runtime sequence (.readTrim (.one channel)) =
      some (UInt32.ofNat ((readings runtime.hardware).trim (channelKey channel))) := by
  have hdispatch : dispatch { (status sequence).setChannel channel with op := .readTrim }
      runtime.configState = some (.readChannelScalar
        { (status sequence).setChannel channel with op := .readTrim }, runtime.configState) := rfl
  apply readback_of_call rfl hready (by simp) hdispatch
  apply map_eq_ok_iff.mpr
  have hop : ({ (status sequence).setChannel channel with op := .readTrim } : RpuWireCommand).op =
      Bank.trim.readOp := rfl
  exact ⟨_, readChannelScalar_eq hop rfl channel.afe.pl_lt channel.afeChannel_lt _, rfl⟩

theorem readback_offset (channel : ChannelId) :
    readback runtime sequence (.readOffset (.one channel)) =
      some (UInt32.ofNat ((readings runtime.hardware).offset (channelKey channel))) := by
  have hdispatch : dispatch { (status sequence).setChannel channel with op := .readOffset }
      runtime.configState = some (.readChannelScalar
        { (status sequence).setChannel channel with op := .readOffset }, runtime.configState) := rfl
  apply readback_of_call rfl hready (by simp) hdispatch
  apply map_eq_ok_iff.mpr
  have hop : ({ (status sequence).setChannel channel with op := .readOffset } :
      RpuWireCommand).op = Bank.offset.readOp := rfl
  exact ⟨_, readChannelScalar_eq hop rfl channel.afe.pl_lt channel.afeChannel_lt _, rfl⟩

theorem readback_vbiasControl :
    readback runtime sequence .readVbiasControl =
      some (UInt32.ofNat (readings runtime.hardware).vbiasControl) := by
  have hdispatch : dispatch { status sequence with op := .readVbiasControl } runtime.configState =
      some (.readVbiasControl, runtime.configState) := rfl
  apply readback_of_call rfl hready (by simp) hdispatch
  apply map_eq_ok_iff.mpr
  refine ⟨_, rfl, ?_⟩
  rw [readings, UInt32.ofNat_uInt16ToNat]

end

end Reads

/-! ## Readings after a configuration -/

section Configured

variable {I ε : Type} [RegisterIo I ε] {runtime : RpuRuntime (AfeMmioBackend I)}
variable {afes : List AfeFrontendConfig} {channels : List ChannelFrontendConfig}
variable {biasControl : UInt16} {firstSequence : UInt64}

/-- The calls that open or extend a sequence leave the readings alone. -/
theorem within_stages {call : HardwareCall} (h : call.configures)
    (happly : call ≠ .applyConfigureFrontend) :
    Within (keepsReadings : Bound (AfeMmioBackend I)) call.perform := by
  cases call with
  | beginConfigureFrontend counts =>
    apply within_map
    intro s
    rfl
  | configureAfe config =>
    apply within_map
    intro s
    refine wp_mono (wp_configureAfe config s) (fun _ t ht ↦ ?_) fun _ t ht ↦ ?_
    · rw [ht.2.2]
      rfl
    · rw [ht]
      rfl
  | configureChannel config =>
    apply within_map
    intro s
    refine wp_mono (wp_configureChannel config s) (fun _ t ht ↦ ?_) fun _ t ht ↦ ?_
    · rw [ht.2.2]
      rfl
    · rw [ht]
      rfl
  | applyConfigureFrontend => exact absurd rfl happly
  | _ => exact absurd h fun h ↦ h

/-- Frames that open or extend a sequence leave the readings alone. -/
theorem readings_stepFrame (runtime : RpuRuntime (AfeMmioBackend I)) {frame : RpuWireCommand}
    (h : frame.op = .beginConfigureFrontend ∨ frame.op = .configureAfe ∨
      frame.op = .configureChannel) :
    readings (stepFrame runtime frame).hardware = readings runtime.hardware := by
  have hne : frame.op ≠ .readAlignment := by
    rcases h with hop | hop | hop <;> simp [hop]
  have hwithin : ∀ {call next}, dispatch frame runtime.configState = some (call, next) →
      Within (keepsReadings : Bound (AfeMmioBackend I)) call.perform := by
    intro call next hdispatch
    cases configures_of_dispatch hdispatch with
    | «begin» => exact within_stages trivial nofun
    | afe => exact within_stages trivial nofun
    | channel => exact within_stages trivial nofun
    | apply hop => rcases h with hop' | hop' | hop' <;> simp [hop'] at hop
    | other _ hop => simp [hop] at h
  rcases stepFrame_cases runtime hne with
    ⟨hstep, -⟩ | ⟨call, next, hdispatch, -, -, ⟨_, hardware, hperform, hstep, -⟩ |
      ⟨_, hardware, hperform, hstep, -⟩⟩
  · rw [hstep]
    rfl
  · rw [hstep]
    exact (hwithin hdispatch).ok hperform
  · rw [hstep]
    exact (hwithin hdispatch).error hperform

/-- The open sequence follows the frames sent. -/
theorem follows_sendAll {counts : RpuWireConfigCounts} {sent frames : List RpuWireCommand}
    (h : Follows counts sent runtime)
    (hframes : ∀ frame ∈ frames, frame.op = .configureAfe ∨ frame.op = .configureChannel) :
    Follows counts (sent ++ frames) (sendAll runtime frames) := by
  induction frames generalizing runtime sent with
  | nil =>
    rw [List.append_nil]
    exact h
  | cons frame frames ih =>
    have hop := hframes frame List.mem_cons_self
    have hbegin : frame.op ≠ .beginConfigureFrontend := by rcases hop with hop | hop <;> simp [hop]
    have hne : frame.op ≠ .readAlignment := by rcases hop with hop | hop <;> simp [hop]
    have hrest := ih (h.stepFrame hbegin hne) fun frame' hmem ↦
      hframes frame' (List.mem_cons_of_mem _ hmem)
    rw [sendAll_cons]
    rwa [List.append_assoc, List.singleton_append] at hrest

/-- An apply that is applied updates the readings by what is staged. -/
theorem readings_apply {counts : RpuWireConfigCounts} {afes : List RpuWireAfeConfig}
    {channels : List RpuWireChannelConfig} {frame : RpuWireCommand}
    (hop : frame.op = .applyConfigureFrontend) (happlied : applied runtime frame = true)
    (hholds : Holds counts afes channels runtime.hardware.stagedConfig) :
    readings (stepFrame runtime frame).hardware =
      afterConfiguration (readings runtime.hardware) runtime.hardware.stagedConfig := by
  obtain ⟨_, _, hardware, -, hperform, hstep⟩ := call_of_apply hop happlied
  have hreadings : wp applyConfigureFrontend
      (fun _ t ↦ readings t =
        afterConfiguration (readings runtime.hardware) runtime.hardware.stagedConfig)
      (fun _ _ ↦ True) runtime.hardware :=
    wp_applyConfigureFrontend_readings runtime.hardware (fun _ ↦ hholds.validChannel)
      fun _ ↦ hholds.afePl_lt
  have hpost := post_of_map_ok hreadings hperform
  rwa [hstep]

/-- The readings after a configuration whose frames were all applied. -/
theorem readings_configured (hafes : afes.length ≤ 65535) (hchannels : channels.length ≤ 65535)
    (happlied : allApplied runtime
      (numberFrames firstSequence (configureBuilders afes channels biasControl)) = true) :
    ∃ staged, Holds (announced afes channels biasControl) (afes.map wireAfe)
        (channels.map wireChannel) staged ∧
      readings (sendAll runtime
        (numberFrames firstSequence (configureBuilders afes channels biasControl))).hardware =
          afterConfiguration (readings runtime.hardware) staged := by
  rw [numberFrames_configureBuilders] at happlied ⊢
  generalize sequenceForFrame firstSequence 0 = first at happlied ⊢
  generalize sequenceForFrame firstSequence (afes.length + channels.length + 1) = last
    at happlied ⊢
  obtain ⟨hbegin, hrest⟩ := allApplied_cons.mp happlied
  have happly := (allApplied_append_singleton.mp hrest).2
  rw [sendAll_cons, sendAll_append_singleton]
  have hstart : Follows (announced afes channels biasControl) []
      (stepFrame runtime (beginFrame afes channels biasControl first)) :=
    follows_begin rfl (configureCounts_beginFrame _) hbegin
  have hrecords : ∀ frame ∈ recordFrames firstSequence afes channels,
      frame.op = .configureAfe ∨ frame.op = .configureChannel := fun _ ↦ op_recordFrames
  have hfollows := follows_sendAll hstart hrecords
  rw [List.nil_append] at hfollows
  obtain ⟨_, _, _, hdispatch, -, -⟩ := call_of_apply rfl happly
  have hholds := hfollows.holds hdispatch (announced_afeCount hafes)
    (announced_channelCount hchannels)
  have hbegun : readings (stepFrame runtime (beginFrame afes channels biasControl first)).hardware =
      readings runtime.hardware := by
    apply readings_stepFrame
    exact Or.inl rfl
  have hkept := sendAll_induction
    (P := fun runtime' ↦ readings runtime'.hardware = readings runtime.hardware)
    (fun frame hmem runtime' h ↦
      (readings_stepFrame runtime' (Or.inr (hrecords frame hmem))).trans h)
    hbegun
  refine ⟨_, by rwa [sentAfes_recordFrames, sentChannels_recordFrames] at hholds, ?_⟩
  rw [readings_apply rfl happly hholds, hkept]

/-! ## Values read back -/

omit [RegisterIo I ε] in
theorem afterConfiguration_eq (before : Readings) (staged : StagedConfig) :
    afterConfiguration before staged = {
      attenuation := updates afeSlot (fun config ↦ config.attenuation.toNat) (filled staged.afes)
        before.attenuation
      bias := updates afeSlot (fun config ↦ config.bias.toNat)
        ((filled staged.afes).filter fun config ↦ config.bias ≠ 0) before.bias
      trim := updates (fun config ↦ (config.afePl.toNat, config.afeChannel.toNat))
        (fun config ↦ config.trim.toNat) (filled staged.channels) before.trim
      offset := updates (fun config ↦ (config.afePl.toNat, config.afeChannel.toNat))
        (fun config ↦ config.offset.toNat) (filled staged.channels) before.offset
      vbiasControl := staged.counts.biasControl.toNat } := by
  rw [afterConfiguration, foldl_afterAfe, foldl_afterChannel]
  rfl

theorem nodup_afeKeys (h : (afes.map (·.afe)).Nodup) :
    (afes.map fun afe ↦ afeKey afe.afe).Nodup := by
  simpa [List.map_map, Function.comp_def] using h.map afeKey_injective

theorem nodup_channelKeys (h : (channels.map (·.channel)).Nodup) :
    (channels.map fun channel ↦ channelKey channel.channel).Nodup := by
  simpa [List.map_map, Function.comp_def] using h.map channelKey_injective

/-- The readings after a configuration of distinct AFEs and channels. -/
def configured (before : Readings) (afes : List AfeFrontendConfig)
    (channels : List ChannelFrontendConfig) (biasControl : UInt16) : Readings where
  attenuation := updates (fun afe ↦ afeKey afe.afe) (fun afe ↦ afe.attenuation.toNat) afes
    before.attenuation
  bias := updates (fun afe ↦ afeKey afe.afe) (fun afe ↦ afe.bias.toNat)
    (afes.filter fun afe ↦ afe.bias ≠ 0) before.bias
  trim := updates (fun channel ↦ channelKey channel.channel) (fun channel ↦ channel.trim.toNat)
    channels before.trim
  offset := updates (fun channel ↦ channelKey channel.channel)
    (fun channel ↦ channel.offset.toNat) channels before.offset
  vbiasControl := biasControl.toNat

section Readings

variable {before : Readings}

theorem configured_of_mem_afes (hnodup : (afes.map (·.afe)).Nodup) {afe : AfeFrontendConfig}
    (hmem : afe ∈ afes) :
    (configured before afes channels biasControl).attenuation (afeKey afe.afe) =
        afe.attenuation.toNat ∧
      (configured before afes channels biasControl).bias (afeKey afe.afe) =
        if afe.bias ≠ 0 then afe.bias.toNat else before.bias (afeKey afe.afe) := by
  have hkeys := nodup_afeKeys hnodup
  refine ⟨updates_of_mem hkeys hmem _, ?_⟩
  by_cases hzero : afe.bias ≠ 0
  · have hfiltered : afe ∈ afes.filter fun afe ↦ afe.bias ≠ 0 := by simp [hmem, hzero]
    rw [if_pos hzero]
    exact updates_of_mem ((List.filter_sublist.map _).nodup hkeys) hfiltered _
  · rw [if_neg hzero]
    apply updates_of_notMem
    intro hkey
    -- Another record with this key would be the same record, whose bias is not zero.
    obtain ⟨other, hother, hsame⟩ := List.mem_map.mp hkey
    obtain ⟨hother, hbias⟩ := List.mem_filter.mp hother
    rw [List.inj_on_of_nodup_map hkeys hother hmem hsame] at hbias
    exact hzero (by simpa using hbias)

theorem configured_of_mem_channels (hnodup : (channels.map (·.channel)).Nodup)
    {channel : ChannelFrontendConfig} (hmem : channel ∈ channels) :
    (configured before afes channels biasControl).trim (channelKey channel.channel) =
        channel.trim.toNat ∧
      (configured before afes channels biasControl).offset (channelKey channel.channel) =
        channel.offset.toNat :=
  ⟨updates_of_mem (nodup_channelKeys hnodup) hmem _,
    updates_of_mem (nodup_channelKeys hnodup) hmem _⟩

theorem configured_of_notMem_afes {afe : AfeId} (hnotMem : afe ∉ afes.map (·.afe)) :
    (configured before afes channels biasControl).attenuation (afeKey afe) =
        before.attenuation (afeKey afe) ∧
      (configured before afes channels biasControl).bias (afeKey afe) =
        before.bias (afeKey afe) := by
  have hkeys : ∀ records : List AfeFrontendConfig, records.Sublist afes →
      afeKey afe ∉ records.map fun afe ↦ afeKey afe.afe := by
    intro records hsublist hkey
    obtain ⟨other, hother, hsame⟩ := List.mem_map.mp hkey
    rw [← afeKey_injective hsame] at hnotMem
    exact hnotMem (List.mem_map_of_mem (hsublist.mem hother))
  exact ⟨updates_of_notMem (hkeys _ (List.Sublist.refl _)) _,
    updates_of_notMem (hkeys _ List.filter_sublist) _⟩

theorem configured_of_notMem_channels {channel : ChannelId}
    (hnotMem : channel ∉ channels.map (·.channel)) :
    (configured before afes channels biasControl).trim (channelKey channel) =
        before.trim (channelKey channel) ∧
      (configured before afes channels biasControl).offset (channelKey channel) =
        before.offset (channelKey channel) := by
  have hkey : channelKey channel ∉ channels.map fun channel ↦ channelKey channel.channel := by
    intro hkey
    obtain ⟨other, hother, hsame⟩ := List.mem_map.mp hkey
    rw [← channelKey_injective hsame] at hnotMem
    exact hnotMem (List.mem_map_of_mem hother)
  exact ⟨updates_of_notMem hkey _, updates_of_notMem hkey _⟩

end Readings

theorem afterConfiguration_of_holds {staged : StagedConfig} (before : Readings)
    (hafes : (afes.map (·.afe)).Nodup) (hchannels : (channels.map (·.channel)).Nodup)
    (hholds : Holds (announced afes channels biasControl) (afes.map wireAfe)
      (channels.map wireChannel) staged) :
    afterConfiguration before staged = configured before afes channels biasControl := by
  have hafeKeys : ((afes.map wireAfe).map afeSlot).Nodup := by
    rw [List.map_map]
    exact nodup_afeKeys hafes
  have hchannelKeys : ((channels.map wireChannel).map
      fun config ↦ (config.afePl.toNat, config.afeChannel.toNat)).Nodup := by
    rw [List.map_map]
    exact nodup_channelKeys hchannels
  have hchannelSlots : ((channels.map wireChannel).map channelSlot).Nodup := by
    have hinj : Function.Injective fun channel : ChannelId ↦ channel.channel.toNat :=
      fun _ _ h ↦ ChannelId.eq_of_channel_eq (UInt8.toNat_inj.mp h)
    simpa [List.map_map, Function.comp_def, channelSlot, wireChannel] using hchannels.map hinj
  have hafePerm := hholds.afes_perm hafeKeys
  have hchannelPerm := hholds.channels_perm hchannelSlots
  have hbiasPerm : ((filled staged.afes).filter fun config ↦ config.bias ≠ 0).Perm
      ((afes.filter fun afe ↦ afe.bias ≠ 0).map wireAfe) := by
    have hfilter := hafePerm.filter fun config ↦ config.bias ≠ 0
    rwa [List.filter_map] at hfilter
  have hbiasKeys : (((afes.filter fun afe ↦ afe.bias ≠ 0).map wireAfe).map afeSlot).Nodup :=
    ((List.filter_sublist.map wireAfe).map afeSlot).nodup hafeKeys
  rw [afterConfiguration_eq, configured, updates_of_perm hafePerm hafeKeys, updates_map,
    updates_of_perm hbiasPerm hbiasKeys, updates_map, updates_of_perm hchannelPerm hchannelKeys,
    updates_map, updates_of_perm hchannelPerm hchannelKeys, updates_map, hholds.staged_counts]
  rfl

theorem op_configureFrames {frame : RpuWireCommand}
    (h : frame ∈ numberFrames firstSequence (configureBuilders afes channels biasControl)) :
    frame.op ≠ .readAlignment := by
  rw [numberFrames_configureBuilders, List.mem_cons, List.mem_append, List.mem_singleton] at h
  rcases h with rfl | h | rfl
  · simp [beginFrame]
  · rcases op_recordFrames h with hop | hop <;> simp [hop]
  · simp [applyFrame]

/-- The state in which the configuration is read back. -/
theorem configured_of_allApplied (hready : runtime.interlock.readyForAfe = true)
    (hafes : (afes.map (·.afe)).Nodup) (hchannels : (channels.map (·.channel)).Nodup)
    {frames : List RpuWireCommand}
    (hframes : fromAfeCommandSequence firstSequence (.configureFrontend afes channels biasControl) =
      .ok frames)
    (happlied : allApplied runtime frames = true) {reads : List RpuWireCommand}
    (hreads : ∀ frame ∈ reads, IsRead frame) :
    let after := sendAll (sendAll runtime frames) reads
    after.interlock.readyForAfe = true ∧
      readings after.hardware =
        configured (readings runtime.hardware) afes channels biasControl := by
  intro after
  obtain ⟨hafes_le, hchannels_le, hsent⟩ := configureFrontendSequence_eq_ok_iff.mp hframes
  obtain ⟨staged, hholds, hreadings⟩ : ∃ staged,
      Holds (announced afes channels biasControl) (afes.map wireAfe) (channels.map wireChannel)
        staged ∧
      readings (sendAll runtime frames).hardware =
        afterConfiguration (readings runtime.hardware) staged := by
    rw [hsent] at happlied ⊢
    exact readings_configured hafes_le hchannels_le happlied
  have hinterlock : (sendAll runtime frames).interlock = runtime.interlock := by
    apply sendAll_induction (P := fun runtime' ↦ runtime'.interlock = runtime.interlock)
    · intro frame hmem runtime' h
      rw [hsent] at hmem
      exact (stepFrame_interlock runtime' (op_configureFrames hmem)).trans h
    · rfl
  have hkept : after.hardware = (sendAll runtime frames).hardware ∧
      after.interlock = (sendAll runtime frames).interlock := by
    apply sendAll_induction (P := fun runtime' ↦
      runtime'.hardware = (sendAll runtime frames).hardware ∧
        runtime'.interlock = (sendAll runtime frames).interlock)
    · intro frame hmem runtime' h
      obtain ⟨hhardware, hinterlock⟩ := stepFrame_read runtime' (hreads frame hmem)
      exact ⟨hhardware.trans h.1, hinterlock.trans h.2⟩
    · exact ⟨rfl, rfl⟩
  refine ⟨?_, ?_⟩
  · rw [hkept.2, hinterlock]
    exact hready
  · rw [hkept.1, hreadings]
    exact afterConfiguration_of_holds _ hafes hchannels hholds

/-! ## Main result -/

/-- Reads after the frames of a configuration of distinct AFEs and channels that were all applied,
whatever is read in between. Every configured value is read back, but for a bias of zero: the source
writes a bias only when it is not zero, so that AFE keeps the bias it had. Everything else reads as
before. -/
theorem configuration_reads_back (hready : runtime.interlock.readyForAfe = true)
    (hafes : (afes.map (·.afe)).Nodup) (hchannels : (channels.map (·.channel)).Nodup)
    {frames : List RpuWireCommand}
    (hframes : fromAfeCommandSequence firstSequence (.configureFrontend afes channels biasControl) =
      .ok frames)
    (happlied : allApplied runtime frames = true) {reads : List RpuWireCommand}
    (hreads : ∀ frame ∈ reads, IsRead frame) (sequence : UInt64) :
    let after := readback (sendAll (sendAll runtime frames) reads) sequence
    let before := readback runtime sequence
    (∀ afe ∈ afes, after (.readAttenuation afe.afe) = some afe.attenuation.toUInt32 ∧
      after (.readBias afe.afe) =
        if afe.bias ≠ 0 then some afe.bias.toUInt32 else before (.readBias afe.afe)) ∧
    (∀ channel ∈ channels, after (.readTrim (.one channel.channel)) = some channel.trim.toUInt32 ∧
      after (.readOffset (.one channel.channel)) = some channel.offset.toUInt32) ∧
    after .readVbiasControl = some biasControl.toUInt32 ∧
    (∀ afe ∉ afes.map (·.afe), after (.readAttenuation afe) = before (.readAttenuation afe) ∧
      after (.readBias afe) = before (.readBias afe)) ∧
    (∀ channel ∉ channels.map (·.channel),
      after (.readTrim (.one channel)) = before (.readTrim (.one channel)) ∧
      after (.readOffset (.one channel)) = before (.readOffset (.one channel))) := by
  intro after before
  obtain ⟨hready', hreadings⟩ := configured_of_allApplied hready hafes hchannels hframes happlied
    hreads
  simp only [after, before]
  refine ⟨fun afe hmem ↦ ⟨?_, ?_⟩, fun channel hmem ↦ ⟨?_, ?_⟩, ?_, fun afe hnotMem ↦ ⟨?_, ?_⟩,
    fun channel hnotMem ↦ ⟨?_, ?_⟩⟩
  · rw [readback_attenuation hready', hreadings, (configured_of_mem_afes hafes hmem).1,
      UInt32.ofNat_uInt16ToNat]
  · rw [readback_bias hready', readback_bias hready, hreadings,
      (configured_of_mem_afes hafes hmem).2]
    split
    · rw [UInt32.ofNat_uInt16ToNat]
    · rfl
  · rw [readback_trim hready', hreadings, (configured_of_mem_channels hchannels hmem).1,
      UInt32.ofNat_uInt16ToNat]
  · rw [readback_offset hready', hreadings, (configured_of_mem_channels hchannels hmem).2,
      UInt32.ofNat_uInt16ToNat]
  · rw [readback_vbiasControl hready', hreadings, configured, UInt32.ofNat_uInt16ToNat]
  · rw [readback_attenuation hready', readback_attenuation hready, hreadings,
      (configured_of_notMem_afes hnotMem).1]
  · rw [readback_bias hready', readback_bias hready, hreadings,
      (configured_of_notMem_afes hnotMem).2]
  · rw [readback_trim hready', readback_trim hready, hreadings,
      (configured_of_notMem_channels hnotMem).1]
  · rw [readback_offset hready', readback_offset hready, hreadings,
      (configured_of_notMem_channels hnotMem).2]

end Configured

/-! ## Samples -/

/-- A ready runtime on a backend whose registers read zero. -/
def readyRuntime : RpuRuntime (AfeMmioBackend ZeroIo) :=
  (RpuRuntime.new (AfeMmioBackend.new ZeroIo.mk)).setInterlock .ready

def sampleAfe (attenuation bias : UInt16) : AfeFrontendConfig where
  afe := ⟨0, 0, rfl⟩
  attenuation := attenuation
  bias := bias
  adc := ⟨false, false, false⟩
  pga := ⟨0, false, false⟩
  lna := ⟨0, 0, false⟩

def sampleChannel : ChannelFrontendConfig := ⟨⟨1, ⟨0, 0, rfl⟩, 1, rfl, rfl⟩, 300, 400, 0⟩

def secondAfe : AfeFrontendConfig := { sampleAfe 110 0 with afe := ⟨1, 4, rfl⟩ }

def secondChannel : ChannelFrontendConfig := ⟨⟨9, secondAfe.afe, 1, rfl, rfl⟩, 310, 410, 0⟩

/-- An AFE and a channel that are not configured. -/
def otherAfe : AfeId := ⟨2, 3, rfl⟩

def otherChannel : ChannelId := ⟨2, ⟨0, 0, rfl⟩, 2, rfl, rfl⟩

/-- Frames that give all of them values to begin with. -/
def earlierFrames : List RpuWireCommand :=
  numberFrames 1
    [fun sequence ↦
        { (status sequence).setAfe (sampleAfe 0 0).afe with op := .setBias, value := 20 },
      fun sequence ↦ { (status sequence).setAfe secondAfe.afe with op := .setBias, value := 777 },
      fun sequence ↦ { (status sequence).setAfe otherAfe with op := .setAttenuation, value := 30 },
      fun sequence ↦
        { (status sequence).setChannel sampleChannel.channel with op := .setTrim, value := 5 },
      fun sequence ↦ { (status sequence).setChannel otherChannel with op := .setTrim, value := 40 }]

/-- The runtime after these frames. -/
def usedRuntime : RpuRuntime (AfeMmioBackend ZeroIo) := sendAll readyRuntime earlierFrames

/-- The frames for two AFEs and two channels, the second AFE with a bias of zero. -/
def pairFrames : List RpuWireCommand :=
  numberFrames 6
    (configureBuilders [sampleAfe 100 200, secondAfe] [sampleChannel, secondChannel] 600)

theorem usedRuntime_spec :
    (usedRuntime.interlock.readyForAfe = true ∧
      (readings usedRuntime.hardware).bias (afeKey secondAfe.afe) = 777 ∧
      (readings usedRuntime.hardware).attenuation (afeKey otherAfe) = 30 ∧
      (readings usedRuntime.hardware).trim (channelKey otherChannel) = 40) ∧
    (commandReplies usedRuntime pairFrames).map (·.status) =
      List.replicate pairFrames.length .applied := by
  rw [usedRuntime, sendAll_eq_foldl]
  decide +kernel

/-- What a configuration of two AFEs and two channels leaves to read: the configured values, the
earlier bias where zero was configured, and the earlier values of everything else. -/
theorem configuration_reads_back_pair :
    let after := readback (sendAll usedRuntime pairFrames) 12
    (after (.readAttenuation (sampleAfe 0 0).afe) = some 100 ∧
      after (.readBias (sampleAfe 0 0).afe) = some 200 ∧
      after (.readAttenuation secondAfe.afe) = some 110 ∧
      after (.readBias secondAfe.afe) = some 777) ∧
    (after (.readTrim (.one sampleChannel.channel)) = some 300 ∧
      after (.readOffset (.one sampleChannel.channel)) = some 400 ∧
      after (.readTrim (.one secondChannel.channel)) = some 310 ∧
      after (.readOffset (.one secondChannel.channel)) = some 410) ∧
    after .readVbiasControl = some 600 ∧
    after (.readAttenuation otherAfe) = some 30 ∧
    after (.readTrim (.one otherChannel)) = some 40 := by
  intro after
  obtain ⟨⟨hready, hbias, hattenuation, htrim⟩, hreplies⟩ := usedRuntime_spec
  have hframes : fromAfeCommandSequence 6 (.configureFrontend [sampleAfe 100 200, secondAfe]
      [sampleChannel, secondChannel] 600) = .ok pairFrames :=
    configureFrontendSequence_eq (by decide) (by decide)
  have hreads : ∀ frame ∈ ([] : List RpuWireCommand), IsRead frame := by simp
  obtain ⟨hafes, hchannels, hvbias, hotherAfes, hotherChannels⟩ := configuration_reads_back hready
    (by decide) (by decide) hframes (allApplied_of_commandReplies hreplies) hreads 12
  rw [sendAll_nil] at hafes hchannels hvbias hotherAfes hotherChannels
  rw [show readback (sendAll usedRuntime pairFrames) 12 = after from rfl]
    at hafes hchannels hvbias hotherAfes hotherChannels
  clear_value after
  have hfirst := hafes (sampleAfe 100 200) (by simp)
  have hsecond := hafes secondAfe (by simp)
  have hfirstChannel := hchannels sampleChannel (by simp)
  have hsecondChannel := hchannels secondChannel (by simp)
  refine ⟨⟨hfirst.1, hfirst.2, hsecond.1, ?_⟩, ⟨hfirstChannel.1, hfirstChannel.2,
    hsecondChannel.1, hsecondChannel.2⟩, hvbias, ?_, ?_⟩
  · rw [hsecond.2, if_neg (by decide), readback_bias hready, hbias]
    rfl
  · rw [(hotherAfes otherAfe (by decide)).1, readback_attenuation hready, hattenuation]
    rfl
  · rw [(hotherChannels otherChannel (by decide)).1, readback_trim hready, htrim]
    rfl

def setBiasFrame : RpuWireCommand :=
  { (status 1).setAfe (sampleAfe 0 0).afe with op := .setBias, value := 500 }

/-- The frames that configure the same AFE with bias zero. -/
def zeroBiasFrames : List RpuWireCommand :=
  numberFrames 2 (configureBuilders [sampleAfe 0 0] [] 0)

/-- A bias is set and the AFE is then configured with bias zero: every frame is applied, and the
bias read back is not the configured one. -/
theorem zero_bias_not_read_back :
    let runtime := stepFrame readyRuntime setBiasFrame
    fromAfeCommand 1 (.setBias (sampleAfe 0 0).afe 500) = .ok setBiasFrame ∧
      fromAfeCommandSequence 2 (.configureFrontend [sampleAfe 0 0] [] 0) = .ok zeroBiasFrames ∧
      runtime.interlock.readyForAfe = true ∧ allApplied runtime zeroBiasFrames = true ∧
      readback (sendAll runtime zeroBiasFrames) 5 (.readBias (sampleAfe 0 0).afe) = some 500 := by
  intro runtime
  have hready : runtime.interlock.readyForAfe = true := by
    simp only [runtime, stepFrame_eq]
    decide +kernel
  have happlied : allApplied readyRuntime (setBiasFrame :: zeroBiasFrames) = true := by
    apply allApplied_of_commandReplies
    decide +kernel
  have hbias : (readings runtime.hardware).bias (afeKey (sampleAfe 0 0).afe) = 500 := by
    simp only [runtime, stepFrame_eq]
    decide +kernel
  have hframes : fromAfeCommandSequence 2 (.configureFrontend [sampleAfe 0 0] [] 0) =
      .ok zeroBiasFrames := configureFrontendSequence_eq (by decide) (by decide)
  have hafes : ([sampleAfe 0 0].map (·.afe)).Nodup := by simp
  have hreads : ∀ frame ∈ ([] : List RpuWireCommand), IsRead frame := by simp
  obtain ⟨hready', hreadings⟩ := configured_of_allApplied hready hafes (by simp) hframes
    (allApplied_cons.mp happlied).2 hreads
  rw [sendAll_nil] at hready' hreadings
  refine ⟨rfl, hframes, hready, (allApplied_cons.mp happlied).2, ?_⟩
  rw [readback_bias hready', hreadings, (configured_of_mem_afes hafes (by simp)).2,
    if_neg (by decide), hbias]
  rfl

end DaphneSc.Rpu.ConfigureReadback
