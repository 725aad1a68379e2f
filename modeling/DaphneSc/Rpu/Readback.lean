import DaphneSc.Rpu.TrimOffset
import DaphneSc.Slots.Updates

/-!
# What the backend reads back

The DACs cannot be read, so reads are answered from the backend's caches. `Readings` is what they
answer, as functions of the AFE and the channel. Applying a staged configuration updates the
readings record by record; a bias of zero is not written and leaves the reading as it was.
-/

namespace DaphneSc.Rpu.Readback

open Core.Afe Core.AfeHw Core.RpuWire Rpu.Runtime Rpu.Mmio Rpu.Mmio.AfeMmioBackend
open Rpu.TrimOffset Program Slots

variable {I ε : Type}

structure Readings where
  attenuation : ℕ → ℕ
  bias : ℕ → ℕ
  trim : ℕ × ℕ → ℕ
  offset : ℕ × ℕ → ℕ
  vbiasControl : ℕ

/-- The reading of a cache with one entry an AFE. -/
def scalarAt (cache : Vector UInt16 afeCount) (afe : ℕ) : ℕ := (cache[afe]?.getD 0).toNat

/-- The reading of a cache with one half a channel. -/
def valueAt (cache : Halves) (channel : ℕ × ℕ) : ℕ :=
  DacPairs.value (halfAt cache channel.1 channel.2)

def readings (backend : AfeMmioBackend I) : Readings where
  attenuation := scalarAt backend.attenuation
  bias := scalarAt backend.bias
  trim := valueAt backend.trimHalves
  offset := valueAt backend.offsetHalves
  vbiasControl := backend.vbiasControl.toNat

theorem scalarAt_of_lt (cache : Vector UInt16 afeCount) {afe : ℕ} (h : afe < afeCount) :
    scalarAt cache afe = cache[afe].toNat := by
  simp [scalarAt, h]

theorem scalarAt_set (cache : Vector UInt16 afeCount) {afe : ℕ} (h : afe < afeCount)
    (value : UInt16) :
    scalarAt (cache.set afe value) = Function.update (scalarAt cache) afe value.toNat := by
  funext other
  rcases eq_or_ne other afe with rfl | hne
  · simp [scalarAt, h]
  · simp [scalarAt, hne.symm, hne]

theorem valueAt_withHalf (cache : Halves) {afe channel : ℕ} (half : UInt16) (hafe : afe < afeCount)
    (hchannel : channel < channelsPerAfe) :
    valueAt (withHalf cache afe channel half hafe hchannel) =
      Function.update (valueAt cache) (afe, channel) (DacPairs.value half) := by
  funext ⟨afe', channel'⟩
  rcases eq_or_ne afe' afe with rfl | hne
  · rw [valueAt, halfAt_withHalf_self]
    rcases eq_or_ne channel' channel with rfl | hchannel'
    · simp
    · simp [valueAt, hchannel']
  · rw [valueAt, halfAt_withHalf_of_ne _ _ _ _ hne]
    simp [valueAt, hne]

/-- The readings stay as they are. -/
def keepsReadings : Bound (AfeMmioBackend I) := .keeps readings

theorem admitsIo_keepsReadings [RegisterIo I ε] :
    AdmitsIo (keepsReadings : Bound (AfeMmioBackend I)) where
  read _ := within_access (fun _ _ ↦ rfl) _
  write _ _ := within_access (fun _ _ ↦ rfl) _

/-! ## Records -/

section Records

variable [RegisterIo I ε]

/-- The readings with one channel of a bank set. -/
def Readings.set (before : Readings) (bank : Bank) (channel : ℕ × ℕ) (value : ℕ) : Readings :=
  match bank with
  | .trim => { before with trim := Function.update before.trim channel value }
  | .offset => { before with offset := Function.update before.offset channel value }

/-- Writing a channel of a bank updates the reading of the channel. -/
theorem wp_writeTrimOrOffsetChannel_readings (bank : Bank) {afePl afeChannel : UInt8}
    (hafe : afePl.toNat < afeCount) (hchannel : afeChannel.toNat < channelsPerAfe)
    {value : UInt16} (hvalue : value.toNat < 4096) (gain : Bool) (s : AfeMmioBackend I) :
    wp (writeTrimOrOffsetChannel bank.setOp afePl afeChannel value gain)
      (fun _ t ↦ readings t =
        (readings s).set bank (afePl.toNat, afeChannel.toNat) value.toNat)
      (fun _ _ ↦ True) s := by
  unfold wp
  rw [writeTrimOrOffsetChannel_eq bank hafe hchannel]
  refine wp_mono (within_sendWord admitsIo_keepsReadings _ _ _) (fun _ t ht ↦ ?_)
    fun _ _ _ ↦ trivial
  have hhalf : DacPairs.value (dacTrimOffsetHalf afeChannel value gain false) = value.toNat := by
    have h := value_halfFor hvalue gain afeChannel.toNat
    rwa [halfFor, UInt8.ofNat_toNat] at h
  rw [Bound.keeps_rel.mp ht]
  cases bank with
  | trim =>
    have hset := valueAt_withHalf s.trimHalves
      (dacTrimOffsetHalf afeChannel value gain false) hafe hchannel
    rw [hhalf] at hset
    simp only [readings, Readings.set, Bank.setOp, storeHalves, Bank.halves, hset]
  | offset =>
    have hset := valueAt_withHalf s.offsetHalves
      (dacTrimOffsetHalf afeChannel value gain false) hafe hchannel
    rw [hhalf] at hset
    simp only [readings, Readings.set, Bank.setOp, storeHalves, Bank.halves, hset]

/-- The readings after a channel record. -/
def afterChannel (before : Readings) (config : RpuWireChannelConfig) : Readings :=
  let channel := (config.afePl.toNat, config.afeChannel.toNat)
  (before.set .trim channel config.trim.toNat).set .offset channel config.offset.toNat

theorem wp_applyStagedChannel_readings {config : RpuWireChannelConfig}
    (hvalid : ValidChannel config) (s : AfeMmioBackend I) :
    wp (applyStagedChannel config) (fun _ t ↦ readings t = afterChannel (readings s) config)
      (fun _ _ ↦ True) s := by
  obtain ⟨hafe, hchannel, -⟩ := hvalid
  unfold applyStagedChannel
  rw [wp_bind, wp_ofResult]
  refine ⟨fun trim htrim ↦ ?_, fun _ _ ↦ trivial⟩
  obtain ⟨htrim_lt, rfl⟩ := require12bit_eq_ok_iff.mp htrim
  rw [wp_bind, wp_ofResult]
  refine ⟨fun offset hoffset ↦ ?_, fun _ _ ↦ trivial⟩
  obtain ⟨hoffset_lt, rfl⟩ := require12bit_eq_ok_iff.mp hoffset
  rw [UInt16.toNat_toUInt32] at htrim_lt hoffset_lt
  rw [UInt16.toUInt16_toUInt32, UInt16.toUInt16_toUInt32, wp_bind]
  refine wp_mono (wp_writeTrimOrOffsetChannel_readings .trim hafe hchannel htrim_lt false s)
    (fun _ t ht ↦ ?_) fun _ _ h ↦ h
  refine wp_mono (wp_writeTrimOrOffsetChannel_readings .offset hafe hchannel hoffset_lt false t)
    (fun _ t' ht' ↦ ?_) fun _ _ h ↦ h
  rw [ht', ht]
  rfl

/-- The readings after an AFE record. -/
def afterAfe (before : Readings) (config : RpuWireAfeConfig) : Readings :=
  { before with
    attenuation := Function.update before.attenuation config.afePl.toNat config.attenuation.toNat
    bias :=
      if config.bias ≠ 0 then Function.update before.bias config.afePl.toNat config.bias.toNat
      else before.bias }

omit [RegisterIo I ε] in
theorem wp_cacheAttenuation_readings {afePl : UInt8} (hafe : afePl.toNat < afeCount)
    (value : UInt16) (s : AfeMmioBackend I) :
    wp (cacheAttenuation afePl value : BackendProg I ε Unit)
      (fun _ t ↦ readings t = { readings s with
        attenuation := Function.update (readings s).attenuation afePl.toNat value.toNat })
      (fun _ _ ↦ True) s := by
  unfold cacheAttenuation
  rw [wp_bind, wp_get, setAt_of_lt _ hafe, pure_bind, wp_modify]
  simp only [readings, scalarAt_set]

omit [RegisterIo I ε] in
theorem wp_cacheBias_readings {afePl : UInt8} (hafe : afePl.toNat < afeCount)
    (value : UInt16) (s : AfeMmioBackend I) :
    wp (cacheBias afePl value : BackendProg I ε Unit)
      (fun _ t ↦ readings t = { readings s with
        bias := Function.update (readings s).bias afePl.toNat value.toNat })
      (fun _ _ ↦ True) s := by
  unfold cacheBias
  rw [wp_bind, wp_get, setAt_of_lt _ hafe, pure_bind, wp_modify]
  simp only [readings, scalarAt_set]

theorem wp_applyStagedBias_readings {config : RpuWireAfeConfig}
    (hafe : config.afePl.toNat < afeCount) (s : AfeMmioBackend I) :
    wp (applyStagedBias config) (fun _ t ↦ readings t = { readings s with
      bias := if config.bias ≠ 0 then
        Function.update (readings s).bias config.afePl.toNat config.bias.toNat
        else (readings s).bias }) (fun _ _ ↦ True) s := by
  unfold applyStagedBias
  by_cases hzero : config.bias ≠ 0
  · rw [if_pos hzero, if_pos hzero, wp_bind, wp_ofResult]
    refine ⟨fun bias hbias ↦ ?_, fun _ _ ↦ trivial⟩
    obtain ⟨-, rfl⟩ := require12bit_eq_ok_iff.mp hbias
    rw [index_of_lt _ hafe, pure_bind, UInt16.toUInt16_toUInt32]
    refine wp_bind_of_within (admitsIo_keepsReadings.within_writeDacRoute _ _)
      (fun _ t ht ↦ ?_) fun _ _ _ ↦ trivial
    rw [← Bound.keeps_rel.mp ht]
    exact wp_cacheBias_readings hafe _ t
  · rw [if_neg hzero, if_neg hzero]
    rfl

theorem wp_applyStagedAfe_readings {config : RpuWireAfeConfig}
    (hafe : config.afePl.toNat < afeCount) (s : AfeMmioBackend I) :
    wp (applyStagedAfe config) (fun _ t ↦ readings t = afterAfe (readings s) config)
      (fun _ _ ↦ True) s := by
  have hfunctions : Within (keepsReadings : Bound (AfeMmioBackend I))
      ((stagedFunctions config).forM fun function ↦ do
        let _ ← writeAfeFunction config.afePl function.1 function.2) :=
    within_forM (fun _ ↦ within_bind (admitsIo_keepsReadings.within_writeAfeFunction _ _ _)
      fun _ ↦ within_pure _) _
  unfold applyStagedAfe
  rw [wp_bind, wp_ofResult]
  refine ⟨fun attenuation hattenuation ↦ ?_, fun _ _ ↦ trivial⟩
  obtain ⟨-, rfl⟩ := require12bit_eq_ok_iff.mp hattenuation
  rw [index_of_lt _ hafe, pure_bind, UInt16.toUInt16_toUInt32]
  refine wp_bind_of_within (admitsIo_keepsReadings.within_writeDacRoute _ _)
    (fun _ t₁ h₁ ↦ ?_) fun _ _ _ ↦ trivial
  rw [wp_bind, ← Bound.keeps_rel.mp h₁]
  refine wp_mono (wp_cacheAttenuation_readings hafe _ t₁) (fun _ t₂ h₂ ↦ ?_) fun _ _ h ↦ h
  rw [wp_bind]
  refine wp_mono (wp_applyStagedBias_readings hafe t₂) (fun _ t₃ h₃ ↦ ?_) fun _ _ h ↦ h
  refine wp_mono (hfunctions t₃) (fun _ t₄ h₄ ↦ ?_) fun _ _ _ ↦ trivial
  rw [Bound.keeps_rel.mp h₄, h₃, h₂]
  rfl

/-! ## Configurations -/

theorem wp_writeVbiasControl_readings (value : UInt16) (enable : Bool) (s : AfeMmioBackend I) :
    wp (writeVbiasControl value.toUInt32 enable)
      (fun _ t ↦ readings t = { readings s with vbiasControl := value.toNat })
      (fun _ _ ↦ True) s := by
  unfold writeVbiasControl
  rw [wp_bind, wp_ofResult]
  refine ⟨fun value12 hvalue ↦ ?_, fun _ _ ↦ trivial⟩
  obtain ⟨-, rfl⟩ := require12bit_eq_ok_iff.mp hvalue
  rw [UInt16.toUInt16_toUInt32]
  refine wp_bind_of_within (admitsIo_keepsReadings.within_writeDacRoute _ _)
    (fun _ t₁ h₁ ↦ ?_) fun _ _ _ ↦ trivial
  refine wp_bind_of_within (admitsIo_keepsReadings.write _ _) (fun _ t₂ h₂ ↦ ?_)
    fun _ _ _ ↦ trivial
  rw [← Bound.keeps_rel.mp h₁, ← Bound.keeps_rel.mp h₂]
  rfl

omit [RegisterIo I ε] in
/-- A loop whose body updates the readings by its element folds the updates. -/
theorem wp_forM_readings {ι : Type} {f : ι → BackendProg I ε PUnit} {g : Readings → ι → Readings}
    (is : List ι) (h : ∀ i ∈ is, ∀ s, wp (f i) (fun _ t ↦ readings t = g (readings s) i)
      (fun _ _ ↦ True) s) (s : AfeMmioBackend I) :
    wp (is.forM f) (fun _ t ↦ readings t = is.foldl g (readings s)) (fun _ _ ↦ True) s := by
  refine wp_forM (fun visited t ↦ readings t = visited.foldl g (readings s)) is
    (fun visited i rest t hsplit ht ↦ ?_) rfl
  refine wp_mono (h i (by simp [hsplit]) t) (fun _ t₁ h₁ ↦ ?_) fun _ _ h ↦ h
  rw [h₁, ht, List.foldl_append]
  rfl

/-- The readings after a configuration: its channels, its bias control and its AFEs. -/
def afterConfiguration (before : Readings) (staged : StagedConfig) : Readings :=
  (filled staged.afes).foldl afterAfe
    { (filled staged.channels).foldl afterChannel before with
      vbiasControl := staged.counts.biasControl.toNat }

theorem wp_applyConfigureFrontend_readings (s : AfeMmioBackend I)
    (hchannels : ∀ config ∈ filled s.stagedConfig.channels, ValidChannel config)
    (hafes : ∀ config ∈ filled s.stagedConfig.afes, config.afePl.toNat < afeCount) :
    wp applyConfigureFrontend
      (fun _ t ↦ readings t = afterConfiguration (readings s) s.stagedConfig)
      (fun _ _ ↦ True) s := by
  have hkeeps : AdmitsIo (keepsReadings : Bound (AfeMmioBackend I)) := admitsIo_keepsReadings
  unfold applyConfigureFrontend
  rw [wp_bind, wp_get, wp_bind, wp_failIf]
  refine ⟨fun _ ↦ ?_, fun _ ↦ trivial⟩
  rw [wp_bind, wp_ofResult]
  refine ⟨fun _ _ ↦ ?_, fun _ _ ↦ trivial⟩
  suffices hprogram : wp (programStaged s.stagedConfig)
      (fun _ t ↦ readings t = afterConfiguration (readings s) s.stagedConfig)
      (fun _ _ ↦ True) s by
    rw [wp_bind]
    exact wp_mono hprogram (fun _ _ ht ↦ ht) fun _ _ h ↦ h
  unfold programStaged
  refine wp_bind_of_within hkeeps.within_doReset (fun _ t₁ h₁ ↦ ?_) fun _ _ _ ↦ trivial
  refine wp_bind_of_within (hkeeps.within_setBit _ _ _) (fun _ t₂ h₂ ↦ ?_) fun _ _ _ ↦ trivial
  rw [wp_bind]
  refine wp_mono (wp_forM_readings _ (fun config hmem ↦
    wp_applyStagedChannel_readings (hchannels config hmem)) t₂) (fun _ t₃ h₃ ↦ ?_) fun _ _ h ↦ h
  rw [wp_bind]
  refine wp_mono (wp_writeVbiasControl_readings _ true t₃) (fun _ t₄ h₄ ↦ ?_) fun _ _ h ↦ h
  rw [wp_bind]
  refine wp_mono (wp_forM_readings _ (fun config hmem ↦
    wp_applyStagedAfe_readings (hafes config hmem)) t₄) (fun _ t₅ h₅ ↦ ?_) fun _ _ h ↦ h
  refine wp_mono (hkeeps.within_setBit _ _ _ t₅) (fun _ t₆ h₆ ↦ ?_) fun _ _ _ ↦ trivial
  rw [Bound.keeps_rel.mp h₆, h₅, h₄, h₃, Bound.keeps_rel.mp h₂, Bound.keeps_rel.mp h₁]
  rfl

end Records

/-! ## Readings of single channels and AFEs -/

theorem foldl_afterChannel (records : List RpuWireChannelConfig) (before : Readings) :
    records.foldl afterChannel before = { before with
      trim := updates (fun config ↦ (config.afePl.toNat, config.afeChannel.toNat))
        (fun config ↦ config.trim.toNat) records before.trim
      offset := updates (fun config ↦ (config.afePl.toNat, config.afeChannel.toNat))
        (fun config ↦ config.offset.toNat) records before.offset } := by
  induction records generalizing before with
  | nil => rfl
  | cons config records ih => exact ih (afterChannel before config)

theorem foldl_afterAfe (records : List RpuWireAfeConfig) (before : Readings) :
    records.foldl afterAfe before = { before with
      attenuation := updates (fun config ↦ config.afePl.toNat)
        (fun config ↦ config.attenuation.toNat) records before.attenuation
      bias := updates (fun config ↦ config.afePl.toNat) (fun config ↦ config.bias.toNat)
        (records.filter fun config ↦ config.bias ≠ 0) before.bias } := by
  induction records generalizing before with
  | nil => rfl
  | cons config records ih =>
    have hrest := ih (afterAfe before config)
    rw [List.foldl_cons, hrest]
    by_cases hzero : config.bias = 0
    · simp [afterAfe, updates, hzero]
    · simp [afterAfe, updates, hzero]

end DaphneSc.Rpu.Readback
