import DaphneSc.Rpu.ConfigureReadback
import Mathlib.Data.List.Pairwise

/-!
# The order of the records does not matter

Between a begin and an apply, each record only fills its slot and moves its counter on. As long as
the announced counts leave room for all records, such updates commute when the slots differ, so
every order of delivery leads to one state.
-/

namespace DaphneSc.Rpu.DeliveryOrder

open Core.Afe Core.RpuWire Core.RpuWire.RpuWireCommand Rpu.Runtime Rpu.Mmio
open Rpu.Mmio.AfeMmioBackend Rpu.ConfigureRun Rpu.ConfigureReadback Program Slots

variable {I ε : Type}

/-! ## Records -/

/-- The AFE record a frame stages, if it carries a valid one. -/
def acceptedAfe (frame : RpuWireCommand) : Option RpuWireAfeConfig :=
  frame.afeConfig.toOption.filter fun record ↦ record.afePl.toNat < afeCount

/-- The channel record a frame stages, if it carries a valid one. -/
def acceptedChannel (frame : RpuWireCommand) : Option RpuWireChannelConfig :=
  frame.channelConfig.toOption.filter fun record ↦
    record.afePl.toNat < afeCount ∧ record.afeChannel.toNat < channelsPerAfe ∧
      record.channel.toNat < channelCount

/-- A frame without its number. -/
def unnumbered (frame : RpuWireCommand) : RpuWireCommand := { frame with sequence := 0 }

/-- Two record frames for different slots. -/
def Apart (frame frame' : RpuWireCommand) : Prop :=
  (frame.op = .configureAfe → frame'.op = .configureAfe → frame.afePl ≠ frame'.afePl) ∧
  (frame.op = .configureChannel → frame'.op = .configureChannel → frame.channel ≠ frame'.channel)

instance : Std.Symm Apart where
  symm _ _ h := ⟨fun hop hop' ↦ (h.1 hop' hop).symm, fun hop hop' ↦ (h.2 hop' hop).symm⟩

/-- A decoded record is for the AFE its frame names. -/
theorem afePl_of_afeConfig {frame : RpuWireCommand} {record : RpuWireAfeConfig}
    (h : frame.afeConfig = .ok record) :
    frame.op = .configureAfe ∧ record.afePl = frame.afePl := by
  have hop : frame.op = .configureAfe := by
    by_contra hop
    have hnone := afeConfig_of_ne hop
    rw [h] at hnone
    cases hnone
  refine ⟨hop, ?_⟩
  simp only [RpuWireCommand.afeConfig, requireOp, hop, if_true, bind, Except.bind] at h
  split at h
  · cases h
  · split at h
    · cases h
    · rw [← Except.ok.inj h]

theorem channel_of_channelConfig {frame : RpuWireCommand} {record : RpuWireChannelConfig}
    (h : frame.channelConfig = .ok record) :
    frame.op = .configureChannel ∧ record.channel = frame.channel := by
  have hop : frame.op = .configureChannel := by
    by_contra hop
    have hnone := channelConfig_of_ne hop
    rw [h] at hnone
    cases hnone
  refine ⟨hop, ?_⟩
  simp only [RpuWireCommand.channelConfig, requireOp, hop, if_true, bind, Except.bind] at h
  split at h
  · cases h
  · rw [← Except.ok.inj h]

theorem acceptedAfe_of_ne {frame : RpuWireCommand} (h : frame.op ≠ .configureAfe) :
    acceptedAfe frame = none := by
  rw [acceptedAfe, afeConfig_of_ne h, Option.filter_none]

theorem acceptedChannel_of_ne {frame : RpuWireCommand} (h : frame.op ≠ .configureChannel) :
    acceptedChannel frame = none := by
  rw [acceptedChannel, channelConfig_of_ne h, Option.filter_none]

theorem acceptedAfe_of_ok {frame : RpuWireCommand} {record : RpuWireAfeConfig}
    (h : frame.afeConfig = .ok record) :
    acceptedAfe frame = if record.afePl.toNat < afeCount then some record else none := by
  simp [acceptedAfe, h, Except.toOption, Option.filter]

theorem acceptedChannel_of_valid {frame : RpuWireCommand} {record : RpuWireChannelConfig}
    (h : frame.channelConfig = .ok record) (hvalid : ValidChannel record) :
    acceptedChannel frame = some record := by
  rw [acceptedChannel, h]
  exact Option.filter_eq_some_iff.mpr ⟨rfl, by simpa [ValidChannel] using hvalid⟩

theorem acceptedChannel_of_invalid {frame : RpuWireCommand} {record : RpuWireChannelConfig}
    (h : frame.channelConfig = .ok record) (hinvalid : ¬ ValidChannel record) :
    acceptedChannel frame = none := by
  rw [acceptedChannel, h]
  apply Option.filter_eq_none_iff.mpr
  intro record' hrecord'
  rw [← Option.some.inj hrecord']
  exact fun hvalid ↦ hinvalid (by simpa [ValidChannel] using hvalid)

theorem afeConfig_of_acceptedAfe {frame : RpuWireCommand} {record : RpuWireAfeConfig}
    (h : acceptedAfe frame = some record) : frame.afeConfig = .ok record := by
  have hdecoded := Option.eq_some_of_filter_eq_some h
  cases hconfig : frame.afeConfig with
  | error e => exact nomatch hconfig ▸ hdecoded
  | ok decoded =>
    rw [hconfig] at hdecoded
    rw [Option.some.inj hdecoded]

theorem channelConfig_of_acceptedChannel {frame : RpuWireCommand} {record : RpuWireChannelConfig}
    (h : acceptedChannel frame = some record) : frame.channelConfig = .ok record := by
  have hdecoded := Option.eq_some_of_filter_eq_some h
  cases hconfig : frame.channelConfig with
  | error e => exact nomatch hconfig ▸ hdecoded
  | ok decoded =>
    rw [hconfig] at hdecoded
    rw [Option.some.inj hdecoded]

/-- The slots of records that frames for different slots carry are different. -/
theorem Apart.afeSlot_ne {frame frame' : RpuWireCommand} (h : Apart frame frame')
    {record record' : RpuWireAfeConfig} (hrecord : acceptedAfe frame = some record)
    (hrecord' : acceptedAfe frame' = some record') : afeSlot record ≠ afeSlot record' := by
  obtain ⟨hop, hpl⟩ := afePl_of_afeConfig (afeConfig_of_acceptedAfe hrecord)
  obtain ⟨hop', hpl'⟩ := afePl_of_afeConfig (afeConfig_of_acceptedAfe hrecord')
  intro hslot
  apply h.1 hop hop'
  rw [← hpl, ← hpl']
  exact UInt8.toNat_inj.mp hslot

theorem Apart.channelSlot_ne {frame frame' : RpuWireCommand} (h : Apart frame frame')
    {record record' : RpuWireChannelConfig} (hrecord : acceptedChannel frame = some record)
    (hrecord' : acceptedChannel frame' = some record') :
    channelSlot record ≠ channelSlot record' := by
  obtain ⟨hop, hid⟩ := channel_of_channelConfig (channelConfig_of_acceptedChannel hrecord)
  obtain ⟨hop', hid'⟩ := channel_of_channelConfig (channelConfig_of_acceptedChannel hrecord')
  intro hslot
  apply h.2 hop hop'
  rw [← hid, ← hid']
  exact UInt8.toNat_inj.mp hslot

/-! ## Staging without a limit -/

/-- Store a record if there is one. -/
def place {α : Type} {n : ℕ} (key : α → ℕ) (slots : Vector (Option α) n) (record : Option α) :
    Vector (Option α) n :=
  record.elim slots (store key slots)

/-- Move a counter on if there is a record. -/
def count {α : Type} (received : UInt16) (record : Option α) : UInt16 :=
  record.elim received fun _ ↦ received + 1

theorem place_comm {α : Type} {n : ℕ} {key : α → ℕ} (slots : Vector (Option α) n)
    {record record' : Option α}
    (h : ∀ a b, record = some a → record' = some b → key a ≠ key b) :
    place key (place key slots record) record' = place key (place key slots record') record := by
  cases record with
  | none => rfl
  | some a =>
    cases record' with
    | none => rfl
    | some b => exact store_comm slots (h a b rfl rfl)

theorem count_comm {α : Type} (received : UInt16) (record record' : Option α) :
    count (count received record) record' = count (count received record') record := by
  cases record with
  | none => rfl
  | some a =>
    cases record' with
    | none => rfl
    | some b => rfl

/-- What a record frame does while there is room for it. -/
def stage (runtime : RpuRuntime (AfeMmioBackend I)) (frame : RpuWireCommand) :
    RpuRuntime (AfeMmioBackend I) :=
  { runtime.tick with
    hardware := { runtime.hardware with
      stagedConfig := { runtime.hardware.stagedConfig with
        afes := place afeSlot runtime.hardware.stagedConfig.afes (acceptedAfe frame)
        channels :=
          place channelSlot runtime.hardware.stagedConfig.channels (acceptedChannel frame) } }
    configState := { runtime.configState with
      receivedAfes := count runtime.configState.receivedAfes (acceptedAfe frame)
      receivedChannels := count runtime.configState.receivedChannels (acceptedChannel frame) } }

/-- Record frames for different slots are staged in either order. -/
theorem stage_comm (runtime : RpuRuntime (AfeMmioBackend I)) {frame frame' : RpuWireCommand}
    (h : Apart frame frame') :
    stage (stage runtime frame) frame' = stage (stage runtime frame') frame := by
  simp only [stage, RpuRuntime.tick, place_comm _ fun _ _ ↦ h.afeSlot_ne,
    place_comm _ fun _ _ ↦ h.channelSlot_ne, count_comm _ (acceptedAfe frame),
    count_comm _ (acceptedChannel frame)]

theorem stage_unnumbered (runtime : RpuRuntime (AfeMmioBackend I)) (frame : RpuWireCommand) :
    stage runtime (unnumbered frame) = stage runtime frame := rfl

/-! ## Room for records -/

/-- A frame that carries a record. -/
def IsRecord (frame : RpuWireCommand) : Prop :=
  frame.op = .configureAfe ∨ frame.op = .configureChannel

/-- An open sequence whose counts leave room for the frames still to come. -/
structure Room (runtime : RpuRuntime (AfeMmioBackend I)) (frames : List RpuWireCommand) : Prop where
  ready : runtime.interlock.readyForAfe = true
  active : runtime.configState.active = true
  staged : runtime.hardware.stagedConfig.active = true
  afes : runtime.configState.receivedAfes.toNat + frames.countP (·.op == .configureAfe) ≤
    runtime.configState.expectedAfes.toNat
  channels : runtime.configState.receivedChannels.toNat +
      frames.countP (·.op == .configureChannel) ≤
    runtime.configState.expectedChannels.toNat

theorem toNat_count_le {α : Type} {received expected : UInt16} (record : Option α)
    (h : received < expected) : (count received record).toNat ≤ received.toNat + 1 := by
  cases record with
  | none => exact Nat.le_succ _
  | some a => exact (toNat_increment h).le

theorem configureAfe_of_valid {record : RpuWireAfeConfig} {backend : AfeMmioBackend I}
    (hactive : backend.stagedConfig.active = true) (h : record.afePl.toNat < afeCount) :
    (configureAfe record : BackendProg I ε Unit) backend =
      .ok ⟨⟩ { backend with stagedConfig := { backend.stagedConfig with
        afes := store afeSlot backend.stagedConfig.afes record } } := by
  have hvalid : (validateAfe record.afePl : Except (MmioAfeError ε) Unit) = .ok () := if_pos h
  have hstore : store afeSlot backend.stagedConfig.afes record =
      backend.stagedConfig.afes.set record.afePl.toNat (some record) h := dif_pos h
  rw [configureAfe, hvalid, ofResult_ok, pure_bind, run_get_bind, failIf,
    if_neg (by simp [hactive]), pure_bind, setAt_of_lt _ h, pure_bind, hstore]
  rfl

theorem configureAfe_of_invalid {record : RpuWireAfeConfig} (backend : AfeMmioBackend I)
    (h : ¬ record.afePl.toNat < afeCount) :
    (configureAfe record : BackendProg I ε Unit) backend =
      .error (.error (.invalidAfe record.afePl)) backend := by
  have hvalid : (validateAfe record.afePl : Except (MmioAfeError ε) Unit) =
      .error (.invalidAfe record.afePl) := if_neg h
  rw [configureAfe, hvalid, ofResult_error, fail_bind]
  rfl

theorem configureChannel_of_valid {record : RpuWireChannelConfig} {backend : AfeMmioBackend I}
    (hactive : backend.stagedConfig.active = true) (h : ValidChannel record) :
    (configureChannel record : BackendProg I ε Unit) backend =
      .ok ⟨⟩ { backend with stagedConfig := { backend.stagedConfig with
        channels := store channelSlot backend.stagedConfig.channels record } } := by
  obtain ⟨hafe, hchannel, hslot⟩ := h
  have hvalid : (validateAfe record.afePl : Except (MmioAfeError ε) Unit) = .ok () := if_pos hafe
  have hstore : store channelSlot backend.stagedConfig.channels record =
      backend.stagedConfig.channels.set record.channel.toNat (some record) hslot := dif_pos hslot
  have hbounds : ¬ (record.afeChannel.toNat ≥ channelsPerAfe ∨
      record.channel.toNat ≥ channelCount) := not_or.mpr ⟨hchannel.not_ge, hslot.not_ge⟩
  rw [configureChannel, hvalid, ofResult_ok, pure_bind, failIf, if_neg hbounds, pure_bind,
    run_get_bind, failIf, if_neg (by simp [hactive]), pure_bind, setAt_of_lt _ hslot, pure_bind,
    hstore]
  rfl

/-- An invalid channel record changes nothing, whichever check refuses it. -/
theorem configureChannel_of_invalid {record : RpuWireChannelConfig} (backend : AfeMmioBackend I)
    (h : ¬ ValidChannel record) : ∃ err,
      (configureChannel record : BackendProg I ε Unit) backend = .error (.error err) backend := by
  by_cases hafe : record.afePl.toNat < afeCount
  · have hvalid : (validateAfe record.afePl : Except (MmioAfeError ε) Unit) = .ok () := if_pos hafe
    have hbounds : record.afeChannel.toNat ≥ channelsPerAfe ∨
        record.channel.toNat ≥ channelCount := by
      by_contra hbounds
      obtain ⟨hchannel, hslot⟩ := not_or.mp hbounds
      exact h ⟨hafe, Nat.lt_of_not_ge hchannel, Nat.lt_of_not_ge hslot⟩
    refine ⟨.invalidChannel record.channel, ?_⟩
    rw [configureChannel, hvalid, ofResult_ok, pure_bind, failIf, if_pos hbounds, fail_bind]
    rfl
  · have hvalid : (validateAfe record.afePl : Except (MmioAfeError ε) Unit) =
        .error (.invalidAfe record.afePl) := if_neg hafe
    refine ⟨.invalidAfe record.afePl, ?_⟩
    rw [configureChannel, hvalid, ofResult_error, fail_bind]
    rfl

variable [RegisterIo I ε]

/-- While the interlock is ready, the step of a frame follows its dispatch. -/
theorem stepFrame_of_ready {H : Type} [AfeHardware H ε] {runtime : RpuRuntime H}
    {frame : RpuWireCommand} (hstatus : frame.op ≠ .status)
    (hready : runtime.interlock.readyForAfe = true) :
    stepFrame runtime frame =
      match dispatch frame runtime.configState with
      | none => runtime.tick
      | some (call, next) =>
        match call.perform runtime.hardware with
        | .ok _ hardware => { runtime.tick with hardware := hardware, configState := next }
        | .error _ hardware => { runtime.tick with hardware := hardware } := by
  rw [stepFrame, final,
    RpuRuntime.handleFrame_of_ready (RpuWireCommand.decode_encode frame) hstatus hready]
  cases dispatch frame runtime.configState with
  | none => rfl
  | some pair =>
    dsimp only
    rcases pair.1.perform runtime.hardware with _ | ⟨_ | _, _⟩ <;> rfl

/-- With room for it, an AFE record frame is staged. -/
theorem stepFrame_afe {runtime : RpuRuntime (AfeMmioBackend I)} {frame : RpuWireCommand}
    (hop : frame.op = .configureAfe) (hready : runtime.interlock.readyForAfe = true)
    (hactive : runtime.configState.active = true)
    (hstaged : runtime.hardware.stagedConfig.active = true)
    (hslot : runtime.configState.receivedAfes < runtime.configState.expectedAfes) :
    stepFrame runtime frame = stage runtime frame := by
  have hchannel : acceptedChannel frame = none := acceptedChannel_of_ne (by simp [hop])
  have hdispatch : dispatch frame runtime.configState = frame.afeConfig.toOption.map fun record ↦
      (.configureAfe record, { runtime.configState with
        receivedAfes := runtime.configState.receivedAfes + 1 }) := by
    simp only [dispatch, hop, Option.bind_eq_bind]
    cases frame.afeConfig.toOption with
    | none => rfl
    | some record => simp [hactive, hslot]
  rw [stepFrame_of_ready (by simp [hop]) hready, hdispatch, stage, hchannel]
  cases hconfig : frame.afeConfig with
  | error e =>
    have hafe : acceptedAfe frame = none := by
      rw [acceptedAfe, hconfig]
      rfl
    rw [hafe]
    rfl
  | ok record =>
    rw [acceptedAfe_of_ok hconfig]
    by_cases hvalid : record.afePl.toNat < afeCount
    · have hperform : (AfeHardware.configureAfe record : BackendProg I ε Unit) runtime.hardware =
          _ :=
        configureAfe_of_valid hstaged hvalid
      simp only [Except.toOption, Option.map_some, HardwareCall.perform, run_map, hperform,
        if_pos hvalid]
      rfl
    · have hperform : (AfeHardware.configureAfe record : BackendProg I ε Unit) runtime.hardware =
          _ :=
        configureAfe_of_invalid runtime.hardware hvalid
      simp only [Except.toOption, Option.map_some, HardwareCall.perform, run_map, hperform,
        if_neg hvalid]
      rfl

/-- With room for it, a channel record frame is staged. -/
theorem stepFrame_channel {runtime : RpuRuntime (AfeMmioBackend I)} {frame : RpuWireCommand}
    (hop : frame.op = .configureChannel) (hready : runtime.interlock.readyForAfe = true)
    (hactive : runtime.configState.active = true)
    (hstaged : runtime.hardware.stagedConfig.active = true)
    (hslot : runtime.configState.receivedChannels < runtime.configState.expectedChannels) :
    stepFrame runtime frame = stage runtime frame := by
  have hafe : acceptedAfe frame = none := acceptedAfe_of_ne (by simp [hop])
  have hdispatch : dispatch frame runtime.configState =
      frame.channelConfig.toOption.map fun record ↦
        (.configureChannel record, { runtime.configState with
          receivedChannels := runtime.configState.receivedChannels + 1 }) := by
    simp only [dispatch, hop, Option.bind_eq_bind]
    cases frame.channelConfig.toOption with
    | none => rfl
    | some record => simp [hactive, hslot]
  rw [stepFrame_of_ready (by simp [hop]) hready, hdispatch, stage, hafe]
  cases hconfig : frame.channelConfig with
  | error e =>
    have hchannel : acceptedChannel frame = none := by
      rw [acceptedChannel, hconfig]
      rfl
    rw [hchannel]
    rfl
  | ok record =>
    by_cases hvalid : ValidChannel record
    · have hperform : (AfeHardware.configureChannel record : BackendProg I ε Unit)
          runtime.hardware = _ := configureChannel_of_valid hstaged hvalid
      rw [acceptedChannel_of_valid hconfig hvalid]
      simp only [Except.toOption, Option.map_some, HardwareCall.perform, run_map, hperform]
      rfl
    · obtain ⟨err, hrefused⟩ := configureChannel_of_invalid (ε := ε) runtime.hardware hvalid
      have hperform : (AfeHardware.configureChannel record : BackendProg I ε Unit)
          runtime.hardware = _ := hrefused
      rw [acceptedChannel_of_invalid hconfig hvalid]
      simp only [Except.toOption, Option.map_some, HardwareCall.perform, run_map, hperform]
      rfl

/-- With room for all frames, the first one is staged and leaves room for the others. -/
theorem Room.cons {runtime : RpuRuntime (AfeMmioBackend I)} {frame : RpuWireCommand}
    {frames : List RpuWireCommand} (h : Room runtime (frame :: frames)) (hrecord : IsRecord frame) :
    stepFrame runtime frame = stage runtime frame ∧ Room (stage runtime frame) frames := by
  have hafes := h.afes
  have hchannels := h.channels
  rw [List.countP_cons] at hafes hchannels
  rcases hrecord with hop | hop
  · have hslot : runtime.configState.receivedAfes < runtime.configState.expectedAfes := by
      rw [UInt16.lt_iff_toNat_lt]
      simp only [hop, beq_self_eq_true, if_true] at hafes
      omega
    have hcount := toNat_count_le (acceptedAfe frame) hslot
    refine ⟨stepFrame_afe hop h.ready h.active h.staged hslot,
      ⟨h.ready, h.active, h.staged, ?_, ?_⟩⟩
    · simp only [hop, beq_self_eq_true, if_true] at hafes
      change (count runtime.configState.receivedAfes (acceptedAfe frame)).toNat + _ ≤ _
      exact le_trans (by omega) hafes
    · have hnone : acceptedChannel frame = none := acceptedChannel_of_ne (by simp [hop])
      simp only [stage, hnone]
      exact le_trans (Nat.add_le_add_left (Nat.le_add_right _ _) _) hchannels
  · have hslot : runtime.configState.receivedChannels < runtime.configState.expectedChannels := by
      rw [UInt16.lt_iff_toNat_lt]
      simp only [hop, beq_self_eq_true, if_true] at hchannels
      omega
    have hcount := toNat_count_le (acceptedChannel frame) hslot
    refine ⟨stepFrame_channel hop h.ready h.active h.staged hslot,
      ⟨h.ready, h.active, h.staged, ?_, ?_⟩⟩
    · have hnone : acceptedAfe frame = none := acceptedAfe_of_ne (by simp [hop])
      simp only [stage, hnone]
      exact le_trans (Nat.add_le_add_left (Nat.le_add_right _ _) _) hafes
    · simp only [hop, beq_self_eq_true, if_true] at hchannels
      change (count runtime.configState.receivedChannels (acceptedChannel frame)).toNat + _ ≤ _
      exact le_trans (by omega) hchannels

theorem sendAll_eq_foldl_stage {runtime : RpuRuntime (AfeMmioBackend I)}
    {frames : List RpuWireCommand} (h : Room runtime frames)
    (hrecords : ∀ frame ∈ frames, IsRecord frame) :
    sendAll runtime frames = frames.foldl stage runtime := by
  induction frames generalizing runtime with
  | nil => rfl
  | cons frame frames ih =>
    obtain ⟨hstep, hroom⟩ := h.cons (hrecords frame List.mem_cons_self)
    rw [sendAll_cons, hstep, List.foldl_cons]
    exact ih hroom fun frame' hframe ↦ hrecords frame' (List.mem_cons_of_mem frame hframe)

/-! ## Any order -/

/-- A begin opens a sequence whatever was staged before. -/
theorem stepFrame_begin {runtime : RpuRuntime (AfeMmioBackend I)} {frame : RpuWireCommand}
    {counts : RpuWireConfigCounts} (hop : frame.op = .beginConfigureFrontend)
    (hcounts : frame.configureCounts = .ok counts)
    (hready : runtime.interlock.readyForAfe = true) :
    stepFrame runtime frame = { runtime.tick with
      hardware := { runtime.hardware with stagedConfig := .new counts }
      configState := .begin counts } := by
  rw [stepFrame_of_ready (by simp [hop]) hready, dispatch_begin hop hcounts]
  rfl

theorem room_of_begin (runtime : RpuRuntime (AfeMmioBackend I)) {counts : RpuWireConfigCounts}
    {frames : List RpuWireCommand} (hready : runtime.interlock.readyForAfe = true)
    (hafes : frames.countP (·.op == .configureAfe) ≤ counts.afeCount.toNat)
    (hchannels : frames.countP (·.op == .configureChannel) ≤ counts.channelCount.toNat) :
    Room { runtime.tick with
      hardware := { runtime.hardware with stagedConfig := .new counts }
      configState := .begin counts } frames where
  ready := hready
  active := rfl
  staged := rfl
  afes := by
    change 0 + _ ≤ _
    rwa [Nat.zero_add]
  channels := by
    change 0 + _ ≤ _
    rwa [Nat.zero_add]

/-- What is staged does not depend on the order, nor on the numbers of the frames. -/
theorem foldl_stage_perm {frames frames' : List RpuWireCommand}
    (hperm : (frames.map unnumbered).Perm (frames'.map unnumbered))
    (hapart : frames.Pairwise Apart) (runtime : RpuRuntime (AfeMmioBackend I)) :
    frames.foldl stage runtime = frames'.foldl stage runtime := by
  have hunnumbered : (frames.map unnumbered).Pairwise Apart := List.pairwise_map.mpr hapart
  have hcomm : ∀ frame ∈ frames.map unnumbered, ∀ frame' ∈ frames.map unnumbered,
      ∀ runtime : RpuRuntime (AfeMmioBackend I),
        stage (stage runtime frame) frame' = stage (stage runtime frame') frame := by
    intro frame hframe frame' hframe' runtime
    by_cases heq : frame = frame'
    · rw [heq]
    · exact stage_comm runtime (hunnumbered.forall hframe hframe' heq)
  calc frames.foldl stage runtime
      = (frames.map unnumbered).foldl stage runtime := by
        simp only [List.foldl_map, stage_unnumbered]
    _ = (frames'.map unnumbered).foldl stage runtime := hperm.foldl_eq' hcomm runtime
    _ = frames'.foldl stage runtime := by
        simp only [List.foldl_map, stage_unnumbered]

/-- After a begin that announces at least the records to come, record frames for different slots may
arrive in any order, and carry any numbers: the runtime ends in one state, register window and
caches included, and the apply that follows gets one reply and leaves one state. -/
theorem delivery_in_any_order {runtime : RpuRuntime (AfeMmioBackend I)}
    (hready : runtime.interlock.readyForAfe = true) {beginning : RpuWireCommand}
    (hbegin : beginning.op = .beginConfigureFrontend) {counts : RpuWireConfigCounts}
    (hcounts : beginning.configureCounts = .ok counts) {frames frames' : List RpuWireCommand}
    (hrecords : ∀ frame ∈ frames, IsRecord frame) (hapart : frames.Pairwise Apart)
    (hperm : (frames.map unnumbered).Perm (frames'.map unnumbered))
    (hafes : frames.countP (·.op == .configureAfe) ≤ counts.afeCount.toNat)
    (hchannels : frames.countP (·.op == .configureChannel) ≤ counts.channelCount.toNat) :
    let delivered := sendAll runtime (beginning :: frames)
    let delivered' := sendAll runtime (beginning :: frames')
    delivered = delivered' ∧
    ∀ apply : RpuWireCommand, apply.op = .applyConfigureFrontend →
      replyTo delivered apply = replyTo delivered' apply ∧
      stepFrame delivered apply = stepFrame delivered' apply := by
  intro delivered delivered'
  have hcountP (p : RpuWireCommand → Bool) (hp : ∀ frame, p (unnumbered frame) = p frame) :
      frames'.countP p = frames.countP p := by
    have hcount := hperm.countP_eq p
    rw [List.countP_map, List.countP_map] at hcount
    have hcomp : p ∘ unnumbered = p := funext hp
    rw [hcomp] at hcount
    exact hcount.symm
  have hrecords' : ∀ frame ∈ frames', IsRecord frame := by
    intro frame hframe
    have hmem := hperm.mem_iff.mpr (List.mem_map_of_mem hframe)
    obtain ⟨frame₀, hframe₀, heq⟩ := List.mem_map.mp hmem
    have hop : frame₀.op = frame.op := congrArg (·.op) heq
    have hrecord := hrecords frame₀ hframe₀
    rwa [IsRecord, hop] at hrecord
  have hroom := room_of_begin runtime hready hafes hchannels
  have hroom' := room_of_begin runtime hready
    ((hcountP _ fun _ ↦ rfl).le.trans hafes) ((hcountP _ fun _ ↦ rfl).le.trans hchannels)
  have hdelivered : delivered = delivered' := by
    dsimp only [delivered, delivered']
    rw [sendAll_cons, sendAll_cons, stepFrame_begin hbegin hcounts hready,
      sendAll_eq_foldl_stage hroom hrecords, sendAll_eq_foldl_stage hroom' hrecords',
      foldl_stage_perm hperm hapart]
  rw [hdelivered]
  exact ⟨rfl, fun apply _ ↦ ⟨rfl, rfl⟩⟩

/-- An AFE record and a channel record, numbered by arrival in both orders. -/
theorem delivery_in_any_order_pair :
    let runtime : RpuRuntime (AfeMmioBackend ZeroIo) :=
      (RpuRuntime.new (.new ZeroIo.mk)).setInterlock .ready
    let beginning : RpuWireCommand :=
      { status 0 with op := .beginConfigureFrontend, flags := 0x00010001 }
    let afe (sequence : UInt64) : RpuWireCommand := { status sequence with op := .configureAfe }
    let channel (sequence : UInt64) : RpuWireCommand :=
      { status sequence with op := .configureChannel }
    sendAll runtime [beginning, afe 1, channel 2] =
      sendAll runtime [beginning, channel 1, afe 2] := by
  intro runtime beginning afe channel
  have hcounts : beginning.configureCounts = .ok ⟨1, 1, 0⟩ := by decide
  have hrecords : ∀ frame ∈ [afe 1, channel 2], IsRecord frame := by
    simp [IsRecord, afe, channel]
  have hapart : [afe 1, channel 2].Pairwise Apart := by
    simp [Apart, afe, channel]
  have hperm : ([afe 1, channel 2].map unnumbered).Perm ([channel 1, afe 2].map unnumbered) :=
    List.Perm.swap (unnumbered (channel 1)) (unnumbered (afe 1)) []
  exact (delivery_in_any_order rfl rfl hcounts hrecords hapart hperm (by decide) (by decide)).1

end DaphneSc.Rpu.DeliveryOrder
