import DaphneSc.Core.ConfigureFrames
import DaphneSc.Core.RpuWireCommands

/-!
# The numbers of a sequence across the wrap

The frames of one command count up from its first number. The number that would wrap to zero is
lifted to one, and the frame after it has one for its own number. So the numbers stay apart exactly
when the wrap, if the sequence reaches it, falls on the last frame.
-/

namespace DaphneSc.Core.RpuWire

open Afe

/-! ## Two numbers of one sequence -/

theorem toNat_sequenceForFrame_wrapped (firstSequence : UInt64) (offset : ℕ) :
    (sequenceForFrame firstSequence offset).toNat =
      max ((firstSequence.toNat + offset) % 2 ^ 64) 1 := by
  have hsum : (firstSequence + UInt64.ofNat offset).toNat =
      (firstSequence.toNat + offset) % 2 ^ 64 := by
    rw [UInt64.toNat_add, UInt64.toNat_ofNat', Nat.add_mod_mod]
  rw [← hsum]
  change (if firstSequence + UInt64.ofNat offset ≤ 1 then 1
    else firstSequence + UInt64.ofNat offset).toNat = _
  split
  · rename_i hle
    exact (Nat.max_eq_right (UInt64.le_iff_toNat_le.mp hle)).symm
  · rename_i hgt
    have hgt' := mt UInt64.le_iff_toNat_le.mpr hgt
    exact (Nat.max_eq_left (Nat.le_of_not_le hgt')).symm

theorem sequenceForFrame_ne_zero (firstSequence : UInt64) (offset : ℕ) :
    sequenceForFrame firstSequence offset ≠ 0 := by
  intro hzero
  have htoNat := toNat_sequenceForFrame_wrapped firstSequence offset
  rw [hzero] at htoNat
  change 0 = _ at htoNat
  omega

/-- Within half a turn, only the number lifted from zero meets the one after it. -/
theorem sequenceForFrame_eq_iff {firstSequence : UInt64} {i j : ℕ} (hfirst : 1 ≤ firstSequence)
    (hlt : i < j) (hj : j < 2 ^ 63) :
    sequenceForFrame firstSequence i = sequenceForFrame firstSequence j ↔
      firstSequence.toNat + i = 2 ^ 64 ∧ j = i + 1 := by
  have hfirst' : 1 ≤ firstSequence.toNat := UInt64.le_iff_toNat_le.mp hfirst
  have hsize : firstSequence.toNat < 2 ^ 64 := firstSequence.toNat_lt
  rw [← UInt64.toNat_inj, toNat_sequenceForFrame_wrapped, toNat_sequenceForFrame_wrapped]
  omega

/-- Consecutive numbers are pairwise distinct unless a frame follows the lifted one. -/
theorem nodup_sequenceForFrame_iff {firstSequence : UInt64} {last : ℕ} (hfirst : 1 ≤ firstSequence)
    (hlast : last < 2 ^ 63) :
    ((List.range (last + 1)).map (sequenceForFrame firstSequence)).Nodup ↔
      firstSequence.toNat + last ≤ 2 ^ 64 := by
  have hsize : firstSequence.toNat < 2 ^ 64 := firstSequence.toNat_lt
  rw [List.Nodup, List.pairwise_map]
  constructor
  · intro hdistinct
    by_contra hover
    have hlifted : firstSequence.toNat + (2 ^ 64 - firstSequence.toNat) = 2 ^ 64 := by omega
    have hnext : 2 ^ 64 - firstSequence.toNat + 1 < last + 1 := by omega
    have hpair := List.pairwise_iff_getElem.mp hdistinct (2 ^ 64 - firstSequence.toNat)
      (2 ^ 64 - firstSequence.toNat + 1) (by simpa using by omega) (by simpa using hnext)
      (Nat.lt_succ_self _)
    rw [List.getElem_range, List.getElem_range] at hpair
    exact hpair ((sequenceForFrame_eq_iff hfirst (Nat.lt_succ_self _) (by omega)).mpr
      ⟨hlifted, rfl⟩)
  · intro hbound
    apply List.pairwise_iff_getElem.mpr
    intro i j hi hj hlt
    rw [List.length_range] at hj
    rw [List.getElem_range, List.getElem_range]
    intro heq
    obtain ⟨hlifted, hnext⟩ := (sequenceForFrame_eq_iff hfirst hlt (by omega)).mp heq
    omega

namespace RpuWireCommand

/-! ## The numbers of a command -/

/-- The offset of the last frame of a command. -/
def lastOffset : AfeCommand → ℕ
  | .configureFrontend afes channels _ => 1 + afes.length + channels.length
  | _ => 0

theorem map_sequence_configureFrames {firstSequence : UInt64} {afes : List AfeFrontendConfig}
    {channels : List ChannelFrontendConfig} {biasControl : UInt16} :
    (numberFrames firstSequence (configureBuilders afes channels biasControl)).map (·.sequence) =
      (List.range (1 + afes.length + channels.length + 1)).map
        (sequenceForFrame firstSequence) := by
  apply List.ext_getElem
  · simp only [List.length_map, length_numberFrames, length_configureBuilders, List.length_range]
    omega
  · intro i hi _
    have hi' : i < (configureBuilders afes channels biasControl).length := by simpa using hi
    simp only [numberFrames, List.getElem_map, List.getElem_mapIdx, List.getElem_range]
    exact sequence_configureBuilders (List.getElem_mem hi') _

theorem sequenceForFrame_zero {firstSequence : UInt64} (hfirst : 1 ≤ firstSequence) :
    sequenceForFrame firstSequence 0 = firstSequence := by
  apply UInt64.toNat_inj.mp
  rw [toNat_sequenceForFrame hfirst firstSequence.toNat_lt, Nat.add_zero]

/-- The numbers of the frames are the first number and its successors up to the last offset. -/
theorem map_sequence_fromAfeCommandSequence {firstSequence : UInt64} {command : AfeCommand}
    {frames : List RpuWireCommand} (hfirst : 1 ≤ firstSequence)
    (h : fromAfeCommandSequence firstSequence command = .ok frames) :
    lastOffset command < 2 ^ 63 ∧
      frames.map (·.sequence) =
        (List.range (lastOffset command + 1)).map (sequenceForFrame firstSequence) := by
  by_cases hconfigure : ∃ afes channels biasControl,
      command = .configureFrontend afes channels biasControl
  · obtain ⟨afes, channels, biasControl, rfl⟩ := hconfigure
    obtain ⟨hafes, hchannels, rfl⟩ := configureFrontendSequence_eq_ok_iff.mp h
    constructor
    · change 1 + afes.length + channels.length < 2 ^ 63
      omega
    · exact map_sequence_configureFrames
  · have hoffset : lastOffset command = 0 := by
      cases command <;> first | rfl | exact absurd ⟨_, _, _, rfl⟩ hconfigure
    have hone : ∃ frame, fromAfeCommand firstSequence command = .ok frame ∧ frames = [frame] := by
      cases hframe : fromAfeCommand firstSequence command with
      | error err => cases command <;> simp_all [fromAfeCommandSequence, bind, Except.bind]
      | ok frame =>
        refine ⟨frame, rfl, ?_⟩
        cases command <;>
          simp_all [fromAfeCommandSequence, bind, Except.bind, pure, Except.pure]
    obtain ⟨frame, hframe, rfl⟩ := hone
    constructor
    · rw [hoffset]
      exact Nat.two_pow_pos 63
    · simp [hoffset, sequence_fromAfeCommand hframe, sequenceForFrame_zero hfirst]

/-- The numbers of the frames of a command are nonzero and pairwise distinct exactly when no frame
follows the one whose number wraps. -/
theorem frame_numbers_distinct_iff {firstSequence : UInt64} {command : AfeCommand}
    {frames : List RpuWireCommand} (hfirst : 1 ≤ firstSequence)
    (h : fromAfeCommandSequence firstSequence command = .ok frames) :
    ((∀ frame ∈ frames, frame.sequence ≠ 0) ∧ (frames.map (·.sequence)).Nodup) ↔
      firstSequence.toNat + lastOffset command ≤ 2 ^ 64 := by
  obtain ⟨hlast, hnumbers⟩ := map_sequence_fromAfeCommandSequence hfirst h
  have hnonzero : ∀ frame ∈ frames, frame.sequence ≠ 0 := by
    intro frame hframe
    have hmem := List.mem_map_of_mem (f := (·.sequence)) hframe
    rw [hnumbers] at hmem
    obtain ⟨offset, -, heq⟩ := List.mem_map.mp hmem
    rw [← heq]
    exact sequenceForFrame_ne_zero _ _
  rw [hnumbers, nodup_sequenceForFrame_iff hfirst hlast]
  exact and_iff_right hnonzero

/-- From the last number, a configuration without records wraps on its last frame. -/
theorem frame_numbers_distinct_at_wrap :
    let frames := numberFrames 18446744073709551615 (configureBuilders [] [] 0)
    (∀ frame ∈ frames, frame.sequence ≠ 0) ∧ (frames.map (·.sequence)).Nodup :=
  have hframes : fromAfeCommandSequence 18446744073709551615 (.configureFrontend [] [] 0) =
      .ok (numberFrames 18446744073709551615 (configureBuilders [] [] 0)) :=
    configureFrontendSequence_eq (by decide) (by decide)
  (frame_numbers_distinct_iff (by decide) hframes).mpr (by decide)

/-- With one AFE record the frame after the lifted number repeats it. -/
theorem frame_numbers_repeat :
    ¬ ∀ (firstSequence : UInt64) (command : AfeCommand) (frames : List RpuWireCommand),
      1 ≤ firstSequence → fromAfeCommandSequence firstSequence command = .ok frames →
      (∀ frame ∈ frames, frame.sequence ≠ 0) ∧ (frames.map (·.sequence)).Nodup := by
  intro hclaim
  let afe : AfeFrontendConfig :=
    ⟨⟨1, 4, rfl⟩, 100, 200, ⟨true, false, true⟩, ⟨3, true, false⟩, ⟨4, 5, true⟩⟩
  have hframes : fromAfeCommandSequence 18446744073709551615 (.configureFrontend [afe] [] 600) =
      .ok (numberFrames 18446744073709551615 (configureBuilders [afe] [] 600)) :=
    configureFrontendSequence_eq (by simp) (by simp)
  have hdistinct := (hclaim _ _ _ (by decide) hframes).2
  rw [map_sequence_configureFrames, nodup_sequenceForFrame_iff (by decide) (by simp)] at hdistinct
  exact absurd hdistinct (by simp)

end RpuWireCommand

end DaphneSc.Core.RpuWire
