import DaphneSc.Core.RpuWireCommands
import DaphneSc.Program.Assigns
import DaphneSc.Rpu.ConfigureReadback

/-!
# The settings of the front ends

A host can read back the attenuation and the bias of every AFE, the trim and the offset of every
channel, and the bias control. Each command sets some of these settings, and leaves the others alone
also when it fails. No other command of the host touches them, not even a reset.
-/

namespace DaphneSc.Rpu.Settings

open Core.Afe Core.AfeHw Core.RpuWire Core.RpuWire.RpuWireCommand Rpu.Runtime Rpu.Mmio
open Rpu.Mmio.AfeMmioBackend Rpu.Readback Rpu.TrimOffset Program Slots
open Rpu.ConfigureReadback

variable {I ε : Type}

inductive Setting where
  | attenuation (afe : AfeId)
  | bias (afe : AfeId)
  | trim (channel : ChannelId)
  | offset (channel : ChannelId)
  | vbiasControl
  deriving DecidableEq

/-- The value among the readings. -/
def valueOf (readings : Readings) : Setting → ℕ
  | .attenuation afe => readings.attenuation (afeKey afe)
  | .bias afe => readings.bias (afeKey afe)
  | .trim channel => readings.trim (channelKey channel)
  | .offset channel => readings.offset (channelKey channel)
  | .vbiasControl => readings.vbiasControl

/-- What a backend has for each setting. -/
def settings (backend : AfeMmioBackend I) (setting : Setting) : ℕ :=
  valueOf (readings backend) setting

theorem keepsSettings {α : Type} {m : BackendProg I ε α} (h : Within keepsReadings m) :
    Within (.keeps settings) m := fun s ↦
  wp_mono (h s) (fun _ _ ht ↦ congrArg valueOf ht) fun _ _ ht ↦ congrArg valueOf ht

theorem settings_withConfig (io : I) (config : MmioAfeConfig) (setting : Setting) :
    settings (withConfig io config) setting = 0 := by
  have hscalar (afe : AfeId) : scalarAt (Vector.replicate afeCount 0) (afeKey afe) = 0 := by
    rw [afeKey, scalarAt_of_lt _ afe.pl_lt, Vector.getElem_replicate]
    rfl
  have hvalue (channel : ChannelId) :
      valueAt (Vector.replicate afeCount (Vector.replicate channelsPerAfe 0)) (channelKey channel) =
        0 := by
    have hhalf := halfAt_of_lt (Vector.replicate afeCount (Vector.replicate channelsPerAfe 0))
      channel.afe.pl_lt channel.afeChannel_lt
    rw [Vector.getElem_replicate, Vector.getElem_replicate] at hhalf
    rw [valueAt, channelKey, hhalf]
    rfl
  cases setting with
  | attenuation afe => exact hscalar afe
  | bias afe => exact hscalar afe
  | trim channel => exact hvalue channel
  | offset channel => exact hvalue channel
  | vbiasControl => rfl

/-! ## What a command sets -/

/-- Whether a target names a channel. -/
def targets : ChannelTarget → ChannelId → Bool
  | .one channel, other => other = channel
  | .afe afe, other => other.afe = afe
  | .all, _ => true

/-- The settings of a bank on the channels of a kind. -/
def ofBank (bank : Bank) (channels : ChannelId → Bool) : Setting → Bool
  | .trim channel => bank = .trim && channels channel
  | .offset channel => bank = .offset && channels channel
  | _ => false

/-- What a configuration sets. A bias of zero is left out. -/
def configures (afes : List AfeFrontendConfig) (channels : List ChannelFrontendConfig)
    (biasControl : UInt16) : Setting → Option ℕ
  | .attenuation afe => (afes.find? (·.afe = afe)).map (·.attenuation.toNat)
  | .bias afe => (afes.find? fun config ↦ config.afe = afe && config.bias ≠ 0).map (·.bias.toNat)
  | .trim channel => (channels.find? (·.channel = channel)).map (·.trim.toNat)
  | .offset channel => (channels.find? (·.channel = channel)).map (·.offset.toNat)
  | .vbiasControl => some biasControl.toNat

/-- The settings that a command sets, with their values. -/
def assigns : AfeCommand → Setting → Option ℕ
  | .setAttenuation afe value => toAll (· = .attenuation afe) value.toNat
  | .setBias afe value => toAll (· = .bias afe) value.toNat
  | .setTrim target value _ => toAll (ofBank .trim (targets target)) value.toNat
  | .setOffset target value _ => toAll (ofBank .offset (targets target)) value.toNat
  | .setVbiasControl value _ => toAll (· = .vbiasControl) value.toNat
  | .configureFrontend afes channels biasControl => configures afes channels biasControl
  | _ => fun _ ↦ none

/-- The setting that a command reads. -/
def reads : AfeCommand → Option Setting
  | .readAttenuation afe => some (.attenuation afe)
  | .readBias afe => some (.bias afe)
  | .readTrim (.one channel) => some (.trim channel)
  | .readOffset (.one channel) => some (.offset channel)
  | .readVbiasControl => some .vbiasControl
  | _ => none

/-! ## Writing -/

/-- The place of a channel on the board. -/
def place (afe channel : ℕ) (other : ChannelId) : Bool := channelKey other = (afe, channel)

section Writes

variable [RegisterIo I ε]

omit [RegisterIo I ε] in
theorem readings_storeHalves (bank : Bank) {afePl afeChannel : UInt8}
    (hafe : afePl.toNat < afeCount) (hchannel : afeChannel.toNat < channelsPerAfe)
    {value : UInt16} (hvalue : value.toNat < 4096) (gain : Bool) (s : AfeMmioBackend I) :
    readings (storeHalves bank.setOp (withHalf (bank.halves s) afePl.toNat afeChannel.toNat
        (dacTrimOffsetHalf afeChannel value gain false) hafe hchannel) s) =
      (readings s).set bank (afePl.toNat, afeChannel.toNat) value.toNat := by
  have hhalf : DacPairs.value (dacTrimOffsetHalf afeChannel value gain false) = value.toNat := by
    have h := value_halfFor hvalue gain afeChannel.toNat
    rwa [halfFor, UInt8.ofNat_toNat] at h
  cases bank with
  | trim =>
    simp only [readings, Readings.set, Bank.setOp, storeHalves, Bank.halves,
      valueAt_withHalf _ _ hafe hchannel, hhalf]
  | offset =>
    simp only [readings, Readings.set, Bank.setOp, storeHalves, Bank.halves,
      valueAt_withHalf _ _ hafe hchannel, hhalf]

omit [RegisterIo I ε] in
theorem valueOf_set (before : Readings) (bank : Bank) (afe channel value : ℕ) (setting : Setting) :
    valueOf (before.set bank (afe, channel) value) setting =
      (toAll (ofBank bank (place afe channel)) value setting).getD (valueOf before setting) := by
  cases bank <;> cases setting
  case trim.trim other | offset.offset other =>
    by_cases h : channelKey other = (afe, channel) <;>
      simp [valueOf, Readings.set, toAll, ofBank, place, h]
  all_goals simp [valueOf, Readings.set, toAll, ofBank]

/-- Writing one channel. -/
theorem assigns_writeTrimOrOffsetChannel (bank : Bank) {afePl afeChannel : UInt8}
    (hafe : afePl.toNat < afeCount) (hchannel : afeChannel.toNat < channelsPerAfe)
    {value : UInt16} (hvalue : value.toNat < 4096) (gain : Bool) :
    Assigns settings (toAll (ofBank bank (place afePl.toNat afeChannel.toNat)) value.toNat)
      (writeTrimOrOffsetChannel bank.setOp afePl afeChannel value gain : BackendProg I ε Unit) := by
  apply assigns_of_update _ _ (fun s ↦ writeTrimOrOffsetChannel_eq bank hafe hchannel value gain s)
  · intro s setting
    rw [settings, readings_storeHalves bank hafe hchannel hvalue, valueOf_set]
    rfl
  · exact fun s ↦ keepsSettings (within_sendWord admitsIo_keepsReadings _ _)

omit [RegisterIo I ε] in
theorem mem_upTo {n : ℕ} (hn : n ≤ 256) {i : UInt8} : i ∈ upTo n ↔ i.toNat < n := by
  unfold upTo
  rw [List.mem_map]
  constructor
  · rintro ⟨j, hj, rfl⟩
    have hlt := List.mem_range.mp hj
    rw [UInt8.toNat_ofNat', Nat.mod_eq_of_lt (hlt.trans_le hn)]
    exact hlt
  · exact fun h ↦ ⟨i.toNat, List.mem_range.mpr h, UInt8.ofNat_toNat⟩

omit [RegisterIo I ε] in
/-- Of the places of an AFE every channel of it has one. -/
theorem any_place_eq (afe : UInt8) (other : ChannelId) :
    (upTo channelsPerAfe).any (fun channel ↦ place afe.toNat channel.toNat other) =
      decide (other.afe.pl = afe) := by
  rw [Bool.eq_iff_iff, List.any_eq_true, decide_eq_true_iff]
  simp only [place, decide_eq_true_iff, channelKey, Prod.mk.injEq, UInt8.toNat_inj]
  constructor
  · rintro ⟨_, -, hafe, -⟩
    exact hafe
  · exact fun hafe ↦ ⟨other.afeChannel, (mem_upTo (by decide)).mpr other.afeChannel_lt, hafe, rfl⟩

omit [RegisterIo I ε] in
theorem ofBank_congr {bank : Bank} {channels channels' : ChannelId → Bool}
    (h : ∀ channel, channels channel = channels' channel) : ofBank bank channels =
    ofBank bank channels' :=
  congrArg (ofBank bank) (funext h)

omit [RegisterIo I ε] in
theorem any_ofBank {ι : Type} (bank : Bank) (is : List ι) (channels : ι → ChannelId → Bool) :
    (fun setting ↦ is.any fun i ↦ ofBank bank (channels i) setting) =
      ofBank bank fun channel ↦ is.any fun i ↦ channels i channel := by
  funext setting
  have hand (banked : Bool) (channel : ChannelId) : (is.any fun i ↦ banked && channels i channel) =
      (banked && is.any fun i ↦ channels i channel) := by
    cases banked <;> simp
  cases setting <;> simp [ofBank, hand]

/-- Writing all channels of an AFE. -/
theorem assigns_writeAfe (bank : Bank) {afePl : UInt8} (hafe : afePl.toNat < afeCount)
    {value : UInt16} (hvalue : value.toNat < 4096) (gain : Bool) :
    Assigns settings (toAll (ofBank bank (·.afe.pl = afePl)) value.toNat)
      ((upTo channelsPerAfe).forM fun afeChannel ↦
        writeTrimOrOffsetChannel bank.setOp afePl afeChannel value gain :
          BackendProg I ε Unit) := by
  have hloop := assigns_forM (upTo channelsPerAfe) fun afeChannel hmem ↦
    assigns_writeTrimOrOffsetChannel (I := I) (ε := ε) bank hafe
      ((mem_upTo (by decide)).mp hmem) hvalue gain
  rw [any_ofBank, ofBank_congr (any_place_eq afePl)] at hloop
  exact hloop

/-- Writing what a target names. -/
theorem assigns_writeTargets (bank : Bank) (target : ChannelTarget) {value : UInt16}
    (hvalue : value.toNat < 4096) (gain : Bool) (wire : RpuWireCommand) {frame : RpuWireCommand}
    (hop : frame.op = bank.setOp) (htarget : frame.target = (wire.setChannelTarget target).target)
    (hafe : frame.afePl = (wire.setChannelTarget target).afePl)
    (hchannel : frame.afeChannel = (wire.setChannelTarget target).afeChannel) :
    Assigns settings (toAll (ofBank bank (targets target)) value.toNat)
      (writeTargets frame value gain : BackendProg I ε Unit) := by
  unfold writeTargets
  rw [htarget, hop, hafe, hchannel]
  cases target with
  | one channel =>
    have h := assigns_writeTrimOrOffsetChannel (I := I) (ε := ε) bank channel.afe.pl_lt
      channel.afeChannel_lt hvalue gain
    have hplace : ∀ other, place channel.afe.pl.toNat channel.afeChannel.toNat other =
        targets (.one channel) other := fun other ↦
      decide_eq_decide.mpr channelKey_injective.eq_iff
    rwa [ofBank_congr hplace] at h
  | afe afe =>
    apply assigns_ofResult
    intro _ _
    have h := assigns_writeAfe (I := I) (ε := ε) bank afe.pl_lt hvalue gain
    have hplace : ∀ other : ChannelId, decide (other.afe.pl = afe.pl) = targets (.afe afe) other :=
      fun other ↦ decide_eq_decide.mpr ⟨AfeId.eq_of_pl_eq, congrArg _⟩
    rwa [ofBank_congr hplace] at h
  | all =>
    have h := assigns_forM (upTo afeCount) fun afePl hmem ↦
      assigns_writeAfe (I := I) (ε := ε) bank ((mem_upTo (by decide)).mp hmem) hvalue gain
    have hplace : ∀ other : ChannelId, (upTo afeCount).any (fun afePl ↦ other.afe.pl = afePl) =
        targets .all other := fun other ↦
      List.any_eq_true.mpr ⟨other.afe.pl, (mem_upTo (by decide)).mpr other.afe.pl_lt, by simp⟩
    rw [any_ofBank, ofBank_congr hplace] at h
    exact h

theorem assigns_writeChannelScalar (bank : Bank) (target : ChannelTarget) {value : UInt16}
    (wire : RpuWireCommand) {frame : RpuWireCommand} (hop : frame.op = bank.setOp)
    (htarget : frame.target = (wire.setChannelTarget target).target)
    (hafe : frame.afePl = (wire.setChannelTarget target).afePl)
    (hchannel : frame.afeChannel = (wire.setChannelTarget target).afeChannel)
    (hvalue : frame.value = value.toUInt32) :
    Assigns settings (toAll (ofBank bank (targets target)) value.toNat)
      (writeChannelScalar frame : BackendProg I ε UInt32) := by
  unfold writeChannelScalar
  rw [hvalue]
  apply assigns_ofResult
  intro value12 h
  obtain ⟨hlt, rfl⟩ := require12bit_eq_ok_iff.mp h
  rw [UInt16.toUInt16_toUInt32]
  rw [UInt16.toNat_toUInt32] at hlt
  exact (assigns_writeTargets bank target hlt _ wire hop htarget hafe hchannel).bind_keeps fun _ ↦
    within_pure _

omit [RegisterIo I ε] in
theorem assigns_cacheAttenuation (afe : AfeId) (value : UInt16) :
    Assigns settings (toAll (· = .attenuation afe) value.toNat)
      (cacheAttenuation afe.pl value : BackendProg I ε Unit) := by
  apply assigns_of_update
    (fun s ↦ { s with attenuation := s.attenuation.set afe.pl.toNat value afe.pl_lt }) fun _ ↦ pure
    ⟨⟩
  · intro s
    unfold cacheAttenuation
    rw [run_get_bind, setAt_of_lt _ afe.pl_lt]
    rfl
  · intro s setting
    have hreadings := scalarAt_set s.attenuation afe.pl_lt value
    cases setting with
    | attenuation other =>
      by_cases h : other = afe
      · simp [settings, valueOf, readings, hreadings, toAll, h, afeKey]
      · have hkey : afeKey other ≠ afe.pl.toNat := fun h' ↦ h (afeKey_injective h')
        simp [settings, valueOf, readings, hreadings, toAll, h, hkey]
    | _ => simp [settings, valueOf, readings, toAll]
  · exact fun _ ↦ within_pure _

omit [RegisterIo I ε] in
theorem assigns_cacheBias (afe : AfeId) (value : UInt16) :
    Assigns settings (toAll (· = .bias afe) value.toNat)
      (cacheBias afe.pl value : BackendProg I ε Unit) := by
  apply assigns_of_update
    (fun s ↦ { s with bias := s.bias.set afe.pl.toNat value afe.pl_lt }) fun _ ↦ pure ⟨⟩
  · intro s
    unfold cacheBias
    rw [run_get_bind, setAt_of_lt _ afe.pl_lt]
    rfl
  · intro s setting
    have hreadings := scalarAt_set s.bias afe.pl_lt value
    cases setting with
    | bias other =>
      by_cases h : other = afe
      · simp [settings, valueOf, readings, hreadings, toAll, h, afeKey]
      · have hkey : afeKey other ≠ afe.pl.toNat := fun h' ↦ h (afeKey_injective h')
        simp [settings, valueOf, readings, hreadings, toAll, h, hkey]
    | _ => simp [settings, valueOf, readings, toAll]
  · exact fun _ ↦ within_pure _

theorem assigns_writeAttenuation (afe : AfeId) (value : UInt16) :
    Assigns settings (toAll (· = .attenuation afe) value.toNat)
      (writeScalar .setAttenuation afe.pl value.toUInt32 : BackendProg I ε UInt32) := by
  apply assigns_ofResult
  intro _ _
  apply assigns_ofResult
  intro value12 h
  obtain ⟨-, rfl⟩ := require12bit_eq_ok_iff.mp h
  rw [UInt16.toUInt16_toUInt32]
  apply assigns_bind_of_keeps (within_index _ _)
  intro route
  apply assigns_bind_of_keeps (keepsSettings (admitsIo_keepsReadings.within_writeDacRoute _ _))
  intro _
  exact (assigns_cacheAttenuation afe value).bind_keeps fun _ ↦ within_pure _

theorem assigns_writeBias (afe : AfeId) (value : UInt16) :
    Assigns settings (toAll (· = .bias afe) value.toNat)
      (writeScalar .setBias afe.pl value.toUInt32 : BackendProg I ε UInt32) := by
  apply assigns_ofResult
  intro _ _
  apply assigns_ofResult
  intro value12 h
  obtain ⟨-, rfl⟩ := require12bit_eq_ok_iff.mp h
  rw [UInt16.toUInt16_toUInt32]
  apply assigns_bind_of_keeps (within_index _ _)
  intro route
  apply assigns_bind_of_keeps (keepsSettings (admitsIo_keepsReadings.within_writeDacRoute _ _))
  intro _
  exact (assigns_cacheBias afe value).bind_keeps fun _ ↦ within_pure _

theorem assigns_writeVbiasControl (value : UInt16) (enable : Bool) :
    Assigns settings (toAll (· = .vbiasControl) value.toNat)
      (writeVbiasControl value.toUInt32 enable : BackendProg I ε UInt32) := by
  apply assigns_ofResult
  intro value12 h
  obtain ⟨-, rfl⟩ := require12bit_eq_ok_iff.mp h
  rw [UInt16.toUInt16_toUInt32]
  apply assigns_bind_of_keeps (keepsSettings (admitsIo_keepsReadings.within_writeDacRoute _ _))
  intro _
  apply assigns_bind_of_keeps (keepsSettings (admitsIo_keepsReadings.write _ _))
  intro _
  apply Assigns.bind_keeps _ fun _ ↦ within_pure _
  apply assigns_modify
  intro s setting
  cases setting <;> simp [settings, valueOf, readings, toAll]

/-! ## Commands -/

/-- The call of a command that sets no setting. -/
theorem keeps_perform {call : HardwareCall} (h : ¬ call.configures)
    (hscalar : ∀ op afePl value, call ≠ .writeScalar op afePl value)
    (hchannel : ∀ command, call ≠ .writeChannelScalar command)
    (hvbias : ∀ value enable, call ≠ .writeVbiasControl value enable) :
    Within (keepsReadings : Bound (AfeMmioBackend I)) call.perform := by
  have hkeeps : AdmitsIo (keepsReadings : Bound (AfeMmioBackend I)) := admitsIo_keepsReadings
  cases call with
  | readRegister => exact within_map (hkeeps.within_readRegister _ _)
  | writeRegister => exact within_map (hkeeps.within_writeRegister _ _ _)
  | readScalar op afePl =>
    refine within_map (within_bind (within_ofResult _) fun _ ↦ within_bind within_get fun _ ↦ ?_)
    split
    · exact within_bind (within_index _ _) fun _ ↦ within_pure _
    · exact within_bind (within_index _ _) fun _ ↦ within_pure _
    · exact within_fail _
  | readChannelScalar =>
    exact within_map (within_bind (within_failIf _ _) fun _ ↦
      within_readTrimOrOffsetChannel _ _ _)
  | readVbiasControl =>
    apply within_map
    intro s
    rfl
  | setReset => exact within_map (hkeeps.within_setBit _ _ _)
  | doReset => exact within_map hkeeps.within_doReset
  | setPowerState => exact within_map (hkeeps.within_setBit _ _ _)
  | align => exact within_map hkeeps.within_alignFrontend
  | writeFunction => exact within_map (hkeeps.within_writeAfeFunction _ _ _)
  | writeScalar op afePl value => exact absurd rfl (hscalar op afePl value)
  | writeChannelScalar command => exact absurd rfl (hchannel command)
  | writeVbiasControl value enable => exact absurd rfl (hvbias value enable)
  | beginConfigureFrontend | configureAfe | configureChannel | applyConfigureFrontend =>
    exact absurd trivial h

/-- The call that is made for a command sets what the command sets. -/
theorem assigns_perform {sequence : UInt64} {command : AfeCommand} {frame : RpuWireCommand}
    (hframe : fromAfeCommand sequence command = .ok frame) {config next : ConfigState}
    {call : HardwareCall} (hdispatch : dispatch frame config = some (call, next)) :
    Assigns settings (assigns command)
      (call.perform : Prog (MmioAfeError ε) (AfeMmioBackend I) (Option UInt32)) := by
  cases command with
  | setAttenuation afe value =>
    cases hframe
    cases hdispatch
    exact (assigns_writeAttenuation afe value).map
  | setBias afe value =>
    cases hframe
    cases hdispatch
    exact (assigns_writeBias afe value).map
  | setTrim target value gain =>
    cases hframe
    cases hdispatch
    apply Assigns.map
    exact assigns_writeChannelScalar .trim target (status sequence) rfl rfl rfl rfl rfl
  | setOffset target value gain =>
    cases hframe
    cases hdispatch
    apply Assigns.map
    exact assigns_writeChannelScalar .offset target (status sequence) rfl rfl rfl rfl rfl
  | setVbiasControl value enable =>
    cases hframe
    cases hdispatch
    exact (assigns_writeVbiasControl value _).map
  | writeFunction afe name value =>
    obtain ⟨payload, -, rfl⟩ := fromAfeCommand_writeFunction.mp hframe
    simp only [dispatch, Option.bind_eq_bind, Option.bind_eq_some_iff] at hdispatch
    obtain ⟨_, -, _, -, _, -, hpair⟩ := hdispatch
    cases hpair
    exact assigns_none (keepsSettings (keeps_perform (fun h ↦ h) (by simp) (by simp) (by simp)))
  | configureFrontend afes channels biasControl => cases hframe
  | _ =>
    cases hframe
    cases hdispatch
    all_goals
      exact assigns_none (keepsSettings (keeps_perform (fun h ↦ h) (by simp) (by simp) (by simp)))

/-! ## Configurations -/

variable {afes : List AfeFrontendConfig} {channels : List ChannelFrontendConfig}
variable {biasControl : UInt16} {setting : Setting}

theorem keeps_applyStagedChannel (channel : ChannelFrontendConfig)
    (htrim : setting ≠ .trim channel.channel) (hoffset : setting ≠ .offset channel.channel) :
    Within (.keeps fun s ↦ settings s setting)
      (applyStagedChannel (wireChannel channel) : BackendProg I ε Unit) := by
  have hwrite (bank : Bank) {value : UInt16} (hvalue : value.toNat < 4096) :
      Within (.keeps fun s ↦ settings s setting)
        (writeTrimOrOffsetChannel bank.setOp (wireChannel channel).afePl
          (wireChannel channel).afeChannel value false : BackendProg I ε Unit) := by
    apply (assigns_writeTrimOrOffsetChannel bank channel.channel.afe.pl_lt
      channel.channel.afeChannel_lt hvalue false).keeps
    have hplace {other : ChannelId} (hne : other ≠ channel.channel) :
        place channel.channel.afe.pl.toNat channel.channel.afeChannel.toNat other = false :=
      decide_eq_false fun h ↦ hne (channelKey_injective h)
    cases setting with
    | trim other => simp [toAll, ofBank, hplace fun h ↦ htrim (congrArg _ h)]
    | offset other => simp [toAll, ofBank, hplace fun h ↦ hoffset (congrArg _ h)]
    | _ => rfl
  apply within_ofResult_bind
  intro trim h
  obtain ⟨htrim, rfl⟩ := require12bit_eq_ok_iff.mp h
  apply within_ofResult_bind
  intro offset h
  obtain ⟨hoffset, rfl⟩ := require12bit_eq_ok_iff.mp h
  rw [UInt16.toNat_toUInt32] at htrim hoffset
  rw [UInt16.toUInt16_toUInt32, UInt16.toUInt16_toUInt32]
  exact within_bind (hwrite .trim htrim) fun _ ↦ hwrite .offset hoffset

omit [RegisterIo I ε] in
theorem keepsAt {α : Type} {m : BackendProg I ε α} (h : Within keepsReadings m) :
    Within (.keeps fun s ↦ settings s setting) m :=
  (assigns_none (keepsSettings h)).keeps setting rfl

theorem keeps_applyStagedAfe (afe : AfeFrontendConfig)
    (hattenuation : setting ≠ .attenuation afe.afe)
    (hbias : setting = .bias afe.afe → afe.bias = 0) :
    Within (.keeps fun s ↦ settings s setting)
      (applyStagedAfe (wireAfe afe) : BackendProg I ε Unit) := by
  have hkeeps : AdmitsIo (keepsReadings : Bound (AfeMmioBackend I)) := admitsIo_keepsReadings
  have hstaged : Within (.keeps fun s ↦ settings s setting)
      (applyStagedBias (wireAfe afe) : BackendProg I ε Unit) := by
    unfold applyStagedBias
    split
    · rename_i hne
      apply within_ofResult_bind
      intro bias _
      apply within_bind (within_index _ _)
      intro route
      apply within_bind (keepsAt (hkeeps.within_writeDacRoute _ _))
      intro _
      apply (assigns_cacheBias afe.afe bias).keeps
      exact if_neg (by simpa using fun h ↦ hne (hbias h))
    · exact within_pure _
  apply within_ofResult_bind
  intro attenuation _
  apply within_bind (within_index _ _)
  intro route
  apply within_bind (keepsAt (hkeeps.within_writeDacRoute _ _))
  intro _
  apply within_bind ((assigns_cacheAttenuation afe.afe attenuation).keeps setting
    (if_neg (by simpa using hattenuation)))
  intro _
  apply within_bind hstaged
  intro _
  exact within_forM (fun _ ↦ within_bind (keepsAt (hkeeps.within_writeAfeFunction _ _ _))
    fun _ ↦ within_pure _) _

omit [RegisterIo I ε] in
/-- The records of a configuration are not about what it does not set. -/
theorem ne_of_configures_eq_none (h : configures afes channels biasControl setting = none) :
    (∀ afe ∈ afes, setting ≠ .attenuation afe.afe ∧ (setting = .bias afe.afe → afe.bias = 0)) ∧
      (∀ channel ∈ channels, setting ≠ .trim channel.channel ∧ setting ≠ .offset channel.channel) ∧
      setting ≠ .vbiasControl := by
  refine ⟨fun afe hmem ↦ ⟨?_, ?_⟩, fun channel hmem ↦ ⟨?_, ?_⟩, ?_⟩
  · rintro rfl
    have hnot := List.find?_eq_none.mp (Option.map_eq_none_iff.mp h) afe hmem
    exact hnot (decide_eq_true rfl)
  · rintro rfl
    have hnot := List.find?_eq_none.mp (Option.map_eq_none_iff.mp h) afe hmem
    simpa using hnot
  · rintro rfl
    have hnot := List.find?_eq_none.mp (Option.map_eq_none_iff.mp h) channel hmem
    exact hnot (decide_eq_true rfl)
  · rintro rfl
    have hnot := List.find?_eq_none.mp (Option.map_eq_none_iff.mp h) channel hmem
    exact hnot (decide_eq_true rfl)
  · rintro rfl
    cases h

/-- Programming a part of the records of a configuration, as far as it gets. -/
theorem keeps_programStaged (h : configures afes channels biasControl setting = none)
    {staged : StagedConfig} (hafes : ∀ config ∈ filled staged.afes, config ∈ afes.map wireAfe)
    (hchannels : ∀ config ∈ filled staged.channels, config ∈ channels.map wireChannel) :
    Within (.keeps fun s ↦ settings s setting) (programStaged staged : BackendProg I ε Unit) := by
  obtain ⟨hafe, hchannel, hvbias⟩ := ne_of_configures_eq_none h
  have hkeeps : AdmitsIo (keepsReadings : Bound (AfeMmioBackend I)) := admitsIo_keepsReadings
  apply within_bind (keepsAt hkeeps.within_doReset)
  intro _
  apply within_bind (keepsAt (hkeeps.within_setBit _ _ _))
  intro _
  apply within_bind
  · apply within_forM_of_mem
    intro config hmem
    obtain ⟨channel, hmem', rfl⟩ := List.mem_map.mp (hchannels config hmem)
    exact keeps_applyStagedChannel channel (hchannel channel hmem').1 (hchannel channel hmem').2
  intro _
  apply within_bind ((assigns_writeVbiasControl _ _).keeps setting (if_neg (by simpa using hvbias)))
  intro _
  apply within_bind
  · apply within_forM_of_mem
    intro config hmem
    obtain ⟨afe, hmem', rfl⟩ := List.mem_map.mp (hafes config hmem)
    exact keeps_applyStagedAfe afe (hafe afe hmem').1 (hafe afe hmem').2
  intro _
  exact keepsAt (hkeeps.within_setBit _ _ _)

theorem keeps_applyConfigureFrontend (h : configures afes channels biasControl setting = none)
    (s : AfeMmioBackend I)
    (hafes : ∀ config ∈ filled s.stagedConfig.afes, config ∈ afes.map wireAfe)
    (hchannels : ∀ config ∈ filled s.stagedConfig.channels, config ∈ channels.map wireChannel) :
    wp (applyConfigureFrontend : BackendProg I ε Unit)
      (fun _ t ↦ settings t setting = settings s setting)
      (fun _ t ↦ settings t setting = settings s setting) s := by
  unfold applyConfigureFrontend
  rw [wp_bind, wp_get, wp_bind, wp_failIf]
  refine ⟨fun _ ↦ ?_, fun _ ↦ rfl⟩
  rw [wp_bind, wp_ofResult]
  refine ⟨fun _ _ ↦ ?_, fun _ _ ↦ rfl⟩
  exact wp_bind_of_within (keeps_programStaged h hafes hchannels) (fun _ _ ht ↦ ht) fun _ _ ht ↦ ht

omit [RegisterIo I ε] in
theorem notMem_of_find?_eq_none {α κ : Type} [DecidableEq κ] {key : α → κ} {k : κ} {l : List α}
    (h : l.find? (key · = k) = none) : k ∉ l.map key := by
  intro hmem
  obtain ⟨a, hmem', rfl⟩ := List.mem_map.mp hmem
  exact absurd (decide_eq_true rfl) (List.find?_eq_none.mp h a hmem')

omit [RegisterIo I ε] in
/-- The values after a configuration of distinct AFEs and channels. -/
theorem valueOf_configured (before : Readings) (hafes : (afes.map (·.afe)).Nodup)
    (hchannels : (channels.map (·.channel)).Nodup) (setting : Setting) :
    valueOf (configured before afes channels biasControl) setting =
      (configures afes channels biasControl setting).getD (valueOf before setting) := by
  cases setting with
  | attenuation afe =>
    simp only [valueOf, configures]
    cases hfind : afes.find? (·.afe = afe) with
    | none =>
      apply (configured_of_notMem_afes (notMem_of_find?_eq_none hfind)).1
    | some config =>
      obtain rfl : config.afe = afe := by simpa using List.find?_some hfind
      exact (configured_of_mem_afes hafes (List.mem_of_find?_eq_some hfind)).1
  | bias afe =>
    simp only [valueOf, configures]
    cases hfind : afes.find? (fun config ↦ config.afe = afe && config.bias ≠ 0) with
    | none =>
      by_cases hmem : afe ∈ afes.map (·.afe)
      · obtain ⟨config, hmem', rfl⟩ := List.mem_map.mp hmem
        have hzero : config.bias = 0 := by simpa using List.find?_eq_none.mp hfind config hmem'
        rw [(configured_of_mem_afes hafes hmem').2, if_neg (not_not_intro hzero)]
        rfl
      · exact (configured_of_notMem_afes hmem).2
    | some config =>
      obtain ⟨rfl, hbias⟩ : config.afe = afe ∧ config.bias ≠ 0 := by
        simpa using List.find?_some hfind
      rw [(configured_of_mem_afes hafes (List.mem_of_find?_eq_some hfind)).2,
        if_pos hbias]
      rfl
  | trim channel =>
    simp only [valueOf, configures]
    cases hfind : channels.find? (·.channel = channel) with
    | none => exact (configured_of_notMem_channels (notMem_of_find?_eq_none hfind)).1
    | some config =>
      obtain rfl : config.channel = channel := by simpa using List.find?_some hfind
      exact (configured_of_mem_channels hchannels (List.mem_of_find?_eq_some hfind)).1
  | offset channel =>
    simp only [valueOf, configures]
    cases hfind : channels.find? (·.channel = channel) with
    | none => exact (configured_of_notMem_channels (notMem_of_find?_eq_none hfind)).2
    | some config =>
      obtain rfl : config.channel = channel := by simpa using List.find?_some hfind
      exact (configured_of_mem_channels hchannels (List.mem_of_find?_eq_some hfind)).2
  | vbiasControl => rfl

/-! ## Frames -/

section Frames

theorem op_fromAfeCommand {sequence : UInt64} {command : AfeCommand} {frame : RpuWireCommand}
    (hframe : fromAfeCommand sequence command = .ok frame) :
    frame.op ≠ .status ∧ frame.op ≠ .beginConfigureFrontend ∧ frame.op ≠ .configureAfe ∧
      frame.op ≠ .configureChannel ∧ frame.op ≠ .applyConfigureFrontend := by
  have hcommand := commandOf_fromAfeCommand hframe
  refine ⟨?_, ?_, ?_, ?_, ?_⟩
  all_goals
    intro hop
    simp [commandOf, hop] at hcommand

/-- The frame of a command sets what the command sets, if it is applied, and nothing else in any
case. It does not concern the configuration sequence. -/
theorem settings_stepFrame {sequence : UInt64} {command : AfeCommand} {frame : RpuWireCommand}
    (hframe : fromAfeCommand sequence command = .ok frame) (hne : frame.op ≠ .readAlignment)
    (runtime : RpuRuntime (AfeMmioBackend I)) :
    (∀ setting, assigns command setting = none →
      settings (stepFrame runtime frame).hardware setting = settings runtime.hardware setting) ∧
    (applied runtime frame = true → ∀ setting value, assigns command setting = some value →
      settings (stepFrame runtime frame).hardware setting = value) ∧
    (stepFrame runtime frame).configState = runtime.configState := by
  obtain ⟨hstatus, hbegin, hafe, hchannel, happly⟩ := op_fromAfeCommand hframe
  rcases stepFrame_cases runtime hne with ⟨hstep, honly⟩ |
    ⟨call, next, hdispatch, -, -, ⟨_, hardware, hperform, hstep, -⟩ | ⟨_, hardware, hperform, hstep,
      happ⟩⟩
  · rw [hstep]
    exact ⟨fun _ _ ↦ rfl, fun happlied ↦ absurd (honly happlied) hstatus, rfl⟩
  · have hassigns := assigns_perform (I := I) (ε := ε) hframe hdispatch
    rw [hstep]
    refine ⟨fun setting h ↦ (hassigns.keeps setting h).ok hperform, fun _ setting value h ↦ ?_, ?_⟩
    · exact post_of_ok (hassigns.sets _) hperform setting value h
    · cases configures_of_dispatch hdispatch with
      | other => rfl
      | «begin» hop => exact absurd hop hbegin
      | afe hop => exact absurd hop hafe
      | channel hop => exact absurd hop hchannel
      | apply hop => exact absurd hop happly
  · have hassigns := assigns_perform (I := I) (ε := ε) hframe hdispatch
    rw [hstep]
    refine ⟨fun setting h ↦ (hassigns.keeps setting h).error hperform, fun happlied ↦ ?_, rfl⟩
    rw [happ] at happlied
    cases happlied

/-- A read that is applied reads back its setting. -/
theorem readback_of_reads {command : AfeCommand} (h : reads command = some setting)
    {runtime : RpuRuntime (AfeMmioBackend I)} (hready : runtime.interlock.readyForAfe = true)
    (sequence : UInt64) :
    readback runtime sequence command =
      some (UInt32.ofNat (settings runtime.hardware setting)) := by
  cases command with
  | readAttenuation afe =>
    cases h
    exact readback_attenuation hready sequence afe
  | readBias afe =>
    cases h
    exact readback_bias hready sequence afe
  | readTrim target =>
    cases target with
    | one channel =>
      cases h
      exact readback_trim hready sequence channel
    | _ => cases h
  | readOffset target =>
    cases target with
    | one channel =>
      cases h
      exact readback_offset hready sequence channel
    | _ => cases h
  | readVbiasControl =>
    cases h
    exact readback_vbiasControl hready sequence
  | _ => cases h

end Frames

end Writes

end DaphneSc.Rpu.Settings
