import DaphneSc.Core.RpuWireCodec

/-!
# The frames of a front-end configuration

The sequence sent for a configuration is the list of its frame builders, numbered consecutively.
Each frame, encoded and decoded, gives back the counts or the record it was built from.
-/

namespace DaphneSc.Core.RpuWire

open Afe Bytes

/-! ## Numbered frames -/

/-- Build the frames with consecutive sequence numbers. -/
def numberFrames (firstSequence : UInt64) (builders : List (UInt64 → RpuWireCommand)) :
    List RpuWireCommand :=
  builders.mapIdx fun i frame ↦ frame (sequenceForFrame firstSequence i)

@[simp] theorem length_numberFrames (firstSequence : UInt64)
    (builders : List (UInt64 → RpuWireCommand)) :
    (numberFrames firstSequence builders).length = builders.length := by
  simp [numberFrames]

theorem getElem?_numberFrames (firstSequence : UInt64) (builders : List (UInt64 → RpuWireCommand))
    (i : ℕ) : (numberFrames firstSequence builders)[i]? =
      builders[i]?.map fun frame ↦ frame (sequenceForFrame firstSequence i) := by
  simp [numberFrames]

namespace RpuWireCommand

theorem pushFrame_numberFrames (firstSequence : UInt64)
    (builders : List (UInt64 → RpuWireCommand)) (frame : UInt64 → RpuWireCommand) :
    pushFrame firstSequence (numberFrames firstSequence builders) frame =
      numberFrames firstSequence (builders ++ [frame]) := by
  simp [pushFrame, numberFrames, List.mapIdx_append]

theorem foldl_pushFrame {α : Type} (firstSequence : UInt64) (frame : α → UInt64 → RpuWireCommand)
    (records : List α) (builders : List (UInt64 → RpuWireCommand)) :
    records.foldl (fun frames record ↦ pushFrame firstSequence frames (frame record))
        (numberFrames firstSequence builders) =
      numberFrames firstSequence (builders ++ records.map frame) := by
  induction records generalizing builders with
  | nil => simp
  | cons record records ih =>
    rw [List.foldl_cons, pushFrame_numberFrames, ih, List.map_cons, List.append_assoc,
      List.singleton_append]

/-- The frame builders of a configuration, in sending order. -/
def configureBuilders (afes : List AfeFrontendConfig) (channels : List ChannelFrontendConfig)
    (biasControl : UInt16) : List (UInt64 → RpuWireCommand) :=
  beginFrame afes channels biasControl ::
    (afes.map afeFrame ++ (channels.map channelFrame ++ [applyFrame afes channels]))

@[simp] theorem length_configureBuilders (afes : List AfeFrontendConfig)
    (channels : List ChannelFrontendConfig) (biasControl : UInt16) :
    (configureBuilders afes channels biasControl).length = 2 + afes.length + channels.length := by
  simp only [configureBuilders, List.length_cons, List.length_append, List.length_map,
    List.length_nil]
  omega

section Sequence

variable {firstSequence : UInt64} {afes : List AfeFrontendConfig}
variable {channels : List ChannelFrontendConfig} {biasControl : UInt16}

theorem ensureRecordCount_of_le {field : String} {count : ℕ} (h : count ≤ 65535) :
    ensureRecordCount field count = .ok () := by
  rw [ensureRecordCount, if_neg (Nat.not_lt.mpr h)]

theorem ensureRecordCount_of_lt {field : String} {count : ℕ} (h : 65535 < count) :
    ensureRecordCount field count = .error (.payloadTooLong field 65535 count) := by
  rw [ensureRecordCount, if_pos h]

theorem configureFrontendSequence_eq (hafes : afes.length ≤ 65535)
    (hchannels : channels.length ≤ 65535) :
    configureFrontendSequence firstSequence afes channels biasControl =
      .ok (numberFrames firstSequence (configureBuilders afes channels biasControl)) := by
  have hbegin : pushFrame firstSequence [] (beginFrame afes channels biasControl) =
      numberFrames firstSequence [beginFrame afes channels biasControl] := rfl
  unfold configureFrontendSequence
  rw [ensureRecordCount_of_le hafes, ensureRecordCount_of_le hchannels]
  simp only [bind, Except.bind, pure, Except.pure]
  rw [hbegin, foldl_pushFrame, foldl_pushFrame, pushFrame_numberFrames]
  simp [configureBuilders]

/-- A sequence that was built respects the record limits, and its frames are the numbered
builders. -/
theorem configureFrontendSequence_eq_ok_iff {frames : List RpuWireCommand} :
    configureFrontendSequence firstSequence afes channels biasControl = .ok frames ↔
      afes.length ≤ 65535 ∧ channels.length ≤ 65535 ∧
        frames = numberFrames firstSequence (configureBuilders afes channels biasControl) := by
  constructor
  · intro h
    rcases Nat.lt_or_ge 65535 afes.length with hafes | hafes
    · simp [configureFrontendSequence, ensureRecordCount_of_lt hafes, bind, Except.bind] at h
    · rcases Nat.lt_or_ge 65535 channels.length with hchannels | hchannels
      · simp [configureFrontendSequence, ensureRecordCount_of_le hafes,
          ensureRecordCount_of_lt hchannels, bind, Except.bind] at h
      · rw [configureFrontendSequence_eq hafes hchannels] at h
        exact ⟨hafes, hchannels, (Except.ok.inj h).symm⟩
  · rintro ⟨hafes, hchannels, rfl⟩
    exact configureFrontendSequence_eq hafes hchannels

theorem frameCountForAfeCommand_eq_ok_iff {count : ℕ} :
    frameCountForAfeCommand (.configureFrontend afes channels biasControl) = .ok count ↔
      afes.length ≤ 65535 ∧ channels.length ≤ 65535 ∧
        count = 2 + afes.length + channels.length := by
  constructor
  · intro h
    rcases Nat.lt_or_ge 65535 afes.length with hafes | hafes
    · simp [frameCountForAfeCommand, ensureRecordCount_of_lt hafes, bind, Except.bind] at h
    · rcases Nat.lt_or_ge 65535 channels.length with hchannels | hchannels
      · simp [frameCountForAfeCommand, ensureRecordCount_of_le hafes,
          ensureRecordCount_of_lt hchannels, bind, Except.bind] at h
      · simp only [frameCountForAfeCommand, ensureRecordCount_of_le hafes,
          ensureRecordCount_of_le hchannels, bind, Except.bind, pure, Except.pure] at h
        exact ⟨hafes, hchannels, (Except.ok.inj h).symm⟩
  · rintro ⟨hafes, hchannels, rfl⟩
    simp only [frameCountForAfeCommand]
    rw [ensureRecordCount_of_le hafes, ensureRecordCount_of_le hchannels]
    rfl

/-! ## The builders by position -/

theorem configureBuilders_afe {i : ℕ} (h : i < afes.length) :
    (configureBuilders afes channels biasControl)[1 + i]? = some (afeFrame afes[i]) := by
  rw [Nat.add_comm, configureBuilders, List.getElem?_cons_succ,
    List.getElem?_append_left (by simpa using h)]
  simp [h]

theorem configureBuilders_channel {i : ℕ} (h : i < channels.length) :
    (configureBuilders afes channels biasControl)[1 + afes.length + i]? =
      some (channelFrame channels[i]) := by
  have hpos : 1 + afes.length + i = (afes.map afeFrame).length + i + 1 := by
    rw [List.length_map]
    omega
  rw [hpos, configureBuilders, List.getElem?_cons_succ,
    List.getElem?_append_right (Nat.le_add_right _ _), Nat.add_sub_cancel_left,
    List.getElem?_append_left (by simpa using h)]
  simp [h]

theorem configureBuilders_apply :
    (configureBuilders afes channels biasControl)[1 + afes.length + channels.length]? =
      some (applyFrame afes channels) := by
  have hpos : 1 + afes.length + channels.length =
      (afes.map afeFrame).length + (channels.map channelFrame).length + 1 := by
    simp only [List.length_map]
    omega
  rw [hpos, configureBuilders, List.getElem?_cons_succ,
    List.getElem?_append_right (Nat.le_add_right _ _), Nat.add_sub_cancel_left,
    List.getElem?_append_right (Nat.le_refl _), Nat.sub_self]
  rfl

/-- Every builder puts the given number in its frame. -/
theorem sequence_configureBuilders {frame : UInt64 → RpuWireCommand}
    (h : frame ∈ configureBuilders afes channels biasControl) (sequence : UInt64) :
    (frame sequence).sequence = sequence := by
  simp only [configureBuilders, List.mem_cons, List.mem_append, List.mem_map,
    List.not_mem_nil, or_false] at h
  rcases h with rfl | ⟨_, -, rfl⟩ | ⟨_, -, rfl⟩ | rfl <;> rfl

/-! ## What the RPU reads from a frame -/

/-- The frame the RPU decodes from the bytes of a frame. -/
def received (frame : RpuWireCommand) : Except RpuWireError RpuWireCommand :=
  decode frame.encode.toList

/-- An AFE record as it should arrive, field by field. -/
def wireAfe (afe : AfeFrontendConfig) : RpuWireAfeConfig where
  afeBoard := afe.afe.board
  afePl := afe.afe.pl
  attenuation := afe.attenuation
  bias := afe.bias
  adc := afe.adc
  pga := afe.pga
  lna := afe.lna

/-- A channel record as it should arrive, field by field. -/
def wireChannel (channel : ChannelFrontendConfig) : RpuWireChannelConfig where
  channel := channel.channel.channel
  afeBoard := channel.channel.afe.board
  afePl := channel.channel.afe.pl
  afeChannel := channel.channel.afeChannel
  trim := channel.trim
  offset := channel.offset
  gain := channel.gain

theorem configureCounts_beginFrame (sequence : UInt64) :
    (beginFrame afes channels biasControl sequence).configureCounts =
      .ok ⟨UInt16.ofNat afes.length, UInt16.ofNat channels.length, biasControl⟩ := by
  simp [configureCounts, beginFrame, requireOp, unpackU16Pair_packU16Pair, bind, Except.bind, pure,
    Except.pure]

theorem afeConfig_afeFrame (afe : AfeFrontendConfig) (sequence : UInt64) :
    (afeFrame afe sequence).afeConfig = .ok (wireAfe afe) := by
  simp [afeConfig, afeFrame, setAfe, requireOp, packAfePayload, wireAfe, bind, Except.bind, pure,
    Except.pure]

theorem channelConfig_channelFrame (channel : ChannelFrontendConfig) (sequence : UInt64) :
    (channelFrame channel sequence).channelConfig = .ok (wireChannel channel) := by
  simp [channelConfig, channelFrame, setChannel, requireOp, unpackU16Pair_packU16Pair, wireChannel,
    bind, Except.bind, pure, Except.pure]

end Sequence

/-! ## Main result -/

/-- The sequence numbers count up without wrapping when the last one fits. -/
theorem toNat_sequenceForFrame {firstSequence : UInt64} {i : ℕ} (hfirst : 1 ≤ firstSequence)
    (hi : firstSequence.toNat + i < 2 ^ 64) :
    (sequenceForFrame firstSequence i).toNat = firstSequence.toNat + i := by
  have hfirst' : 1 ≤ firstSequence.toNat := UInt64.le_iff_toNat_le.mp hfirst
  have hsum : (firstSequence + UInt64.ofNat i).toNat = firstSequence.toNat + i := by
    rw [UInt64.toNat_add, UInt64.toNat_ofNat', Nat.mod_eq_of_lt (by omega : i < 2 ^ 64),
      Nat.mod_eq_of_lt hi]
  change (if firstSequence + UInt64.ofNat i ≤ 1 then 1 else firstSequence + UInt64.ofNat i).toNat =
    _
  split
  · rename_i hle
    have hle' := UInt64.le_iff_toNat_le.mp hle
    rw [hsum] at hle'
    change firstSequence.toNat + i ≤ 1 at hle'
    change 1 = firstSequence.toNat + i
    omega
  · exact hsum

/-- Numbered frames carry consecutive sequence numbers. -/
theorem map_sequence_numberFrames {firstSequence : UInt64}
    {builders : List (UInt64 → RpuWireCommand)}
    (hbuilders : ∀ frame ∈ builders, ∀ sequence, (frame sequence).sequence = sequence)
    (hfirst : 1 ≤ firstSequence) (hbound : firstSequence.toNat + builders.length ≤ 2 ^ 64) :
    (numberFrames firstSequence builders).map (fun frame ↦ frame.sequence.toNat) =
      List.range' firstSequence.toNat builders.length := by
  apply List.ext_getElem (by simp)
  intro i hi _
  have hi' : i < builders.length := by simpa using hi
  rw [List.getElem_map, List.getElem_range', Nat.one_mul]
  simp only [numberFrames, List.getElem_mapIdx]
  rw [hbuilders _ (List.getElem_mem hi') _, toNat_sequenceForFrame hfirst (by omega)]

/-- For a configuration within the record limits the frames are numbered consecutively, and the RPU
reads back the counts, the bias control and every record in order. Beyond the limits no frame is
built and no sequence number is reserved. -/
theorem configureFrontend_frames (firstSequence : UInt64) (afes : List AfeFrontendConfig)
    (channels : List ChannelFrontendConfig) (biasControl : UInt16) :
    (1 ≤ firstSequence → afes.length ≤ 65535 → channels.length ≤ 65535 →
      firstSequence.toNat + (2 + afes.length + channels.length) ≤ 2 ^ 64 - 1 →
      ∃ frames,
        fromAfeCommandSequence firstSequence (.configureFrontend afes channels biasControl) =
          .ok frames ∧
        frameCountForAfeCommand (.configureFrontend afes channels biasControl) =
          .ok frames.length ∧
        frames.length = 2 + afes.length + channels.length ∧
        frames.map (fun frame ↦ frame.sequence.toNat) =
          List.range' firstSequence.toNat frames.length ∧
        (∃ frame, frames[0]? = some frame ∧ ∃ counts,
          (received frame >>= configureCounts) = .ok counts ∧
          counts.afeCount.toNat = afes.length ∧ counts.channelCount.toNat = channels.length ∧
          counts.biasControl = biasControl) ∧
        (∀ i, (h : i < afes.length) → ∃ frame, frames[1 + i]? = some frame ∧
          (received frame >>= afeConfig) = .ok (wireAfe afes[i])) ∧
        (∀ i, (h : i < channels.length) → ∃ frame, frames[1 + afes.length + i]? = some frame ∧
          (received frame >>= channelConfig) = .ok (wireChannel channels[i])) ∧
        (∃ frame, frames[1 + afes.length + channels.length]? = some frame ∧
          (received frame).map (·.op) = .ok .applyConfigureFrontend)) ∧
    (65535 < afes.length ∨ 65535 < channels.length →
      (∃ e, fromAfeCommandSequence firstSequence (.configureFrontend afes channels biasControl) =
        .error e) ∧
      ∃ e, frameCountForAfeCommand (.configureFrontend afes channels biasControl) = .error e) := by
  constructor
  · intro hfirst hafes hchannels hbound
    refine ⟨_, configureFrontendSequence_eq hafes hchannels, ?_, by simp, ?_, ?_, ?_, ?_, ?_⟩
    · exact frameCountForAfeCommand_eq_ok_iff.mpr ⟨hafes, hchannels, by simp⟩
    · rw [length_numberFrames]
      apply map_sequence_numberFrames (fun _ ↦ sequence_configureBuilders) hfirst
      rw [length_configureBuilders]
      omega
    · refine ⟨beginFrame afes channels biasControl (sequenceForFrame firstSequence 0),
        by simp [numberFrames, configureBuilders],
        ⟨UInt16.ofNat afes.length, UInt16.ofNat channels.length, biasControl⟩, ?_, ?_, ?_, rfl⟩
      · rw [received, decode_encode]
        exact configureCounts_beginFrame _
      · exact Nat.mod_eq_of_lt (by omega)
      · exact Nat.mod_eq_of_lt (by omega)
    · intro i h
      refine ⟨_, by rw [getElem?_numberFrames, configureBuilders_afe h]; rfl, ?_⟩
      rw [received, decode_encode]
      exact afeConfig_afeFrame _ _
    · intro i h
      refine ⟨_, by rw [getElem?_numberFrames, configureBuilders_channel h]; rfl, ?_⟩
      rw [received, decode_encode]
      exact channelConfig_channelFrame _ _
    · refine ⟨_, by rw [getElem?_numberFrames, configureBuilders_apply]; rfl, ?_⟩
      rw [received, decode_encode]
      rfl
  · intro hlong
    constructor
    · cases h :
        fromAfeCommandSequence firstSequence (.configureFrontend afes channels biasControl) with
      | error e => exact ⟨e, rfl⟩
      | ok frames =>
        obtain ⟨hafes, hchannels, -⟩ := configureFrontendSequence_eq_ok_iff.mp h
        omega
    · cases h : frameCountForAfeCommand (.configureFrontend afes channels biasControl) with
      | error e => exact ⟨e, rfl⟩
      | ok count =>
        obtain ⟨hafes, hchannels, -⟩ := frameCountForAfeCommand_eq_ok_iff.mp h
        omega

/-- One AFE record and one channel record, numbered from 20. -/
theorem configureFrontend_frames_single :
    let afe : AfeFrontendConfig :=
      ⟨⟨1, 4, rfl⟩, 100, 200, ⟨true, false, true⟩, ⟨3, true, false⟩, ⟨4, 5, true⟩⟩
    let channel : ChannelFrontendConfig := ⟨⟨10, ⟨1, 4, rfl⟩, 2, rfl, rfl⟩, 300, 400, 500⟩
    ∃ frames, fromAfeCommandSequence 20 (.configureFrontend [afe] [channel] 600) = .ok frames ∧
      frames.map (fun frame ↦ frame.sequence.toNat) = [20, 21, 22, 23] := by
  intro afe channel
  obtain ⟨frames, hframes, -, hlength, hsequences, -⟩ :=
    (configureFrontend_frames 20 [afe] [channel] 600).1 (by decide) (by decide) (by decide)
      (by decide)
  refine ⟨frames, hframes, ?_⟩
  rw [hsequences, hlength]
  rfl

end RpuWireCommand

end DaphneSc.Core.RpuWire
