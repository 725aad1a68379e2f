import DaphneSc.Rpu.Dispatch
import DaphneSc.Rpu.Mmio

/-!
# What the backend's operations leave alone

Most operations of the backend only access registers. The others change, besides the registers, the
caches, and only the configuration operations touch the staged records. So a bound that admits the
register accesses bounds the operations of the first kind, and one that admits the caches as well
bounds those of the second.
-/

namespace DaphneSc.Rpu.Mmio

open Core.Afe Core.AfeHw Core.AfeFunctions Core.RpuWire Rpu.Runtime Program Slots

namespace AfeMmioBackend

variable {I ε α β : Type}

/-! ## Bounds -/

section Bounds

variable [RegisterIo I ε]

/-- A bound that admits every register access. -/
structure AdmitsIo (B : Bound (AfeMmioBackend I)) : Prop where
  read (offset : UInt32) : Within B (read offset)
  write (offset value : UInt32) : Within B (write offset value)

/-- A bound that admits every change of the caches as well. -/
structure AdmitsCaches (B : Bound (AfeMmioBackend I)) : Prop extends AdmitsIo B where
  storeHalves (op : RpuWireOp) (cache : Halves) (s : AfeMmioBackend I) :
    B.rel s (storeHalves op cache s)
  attenuation (attenuation : Vector UInt16 afeCount) (s : AfeMmioBackend I) :
    B.rel s { s with attenuation := attenuation }
  bias (bias : Vector UInt16 afeCount) (s : AfeMmioBackend I) : B.rel s { s with bias := bias }
  vbias (control : UInt16) (enabled : Bool) (s : AfeMmioBackend I) :
    B.rel s { s with vbiasControl := control, vbiasEnabled := enabled }

end Bounds

/-- Only the register window may change. -/
def ioOnly : Bound (AfeMmioBackend I) where
  rel s t := t = { s with io := t.io }
  refl _ := rfl
  trans {s t r} h h' := by
    rw [h', h]

/-- The staged records stay as they are. -/
def keepsStaged : Bound (AfeMmioBackend I) := .keeps stagedConfig

/-- An access moves the register window, in any way, and nothing else. -/
theorem within_access {B : Bound (AfeMmioBackend I)} (hB : ∀ io s, B.rel s { s with io := io })
    (m : Prog ε I α) : Within B (mapError MmioAfeError.io (zoom ioLens m)) :=
  within_mapError (within_zoom (within_top m) fun s t _ ↦ hB t s)

section Offsets

variable {B : Bound (AfeMmioBackend I)}

theorem within_trimOrOffsetRegister (op : RpuWireOp) (afePl : UInt8) :
    Within B (trimOrOffsetRegister op afePl : BackendProg I ε UInt32) := by
  rw [trimOrOffsetRegister_eq]
  split
  · exact within_okOr _ _
  · exact within_okOr _ _
  · exact within_fail _

theorem within_companionChannel (afeChannel : UInt8) :
    Within B (companionChannel afeChannel : BackendProg I ε UInt8) := by
  rw [companionChannel_eq]
  exact within_okOr _ _

theorem within_controlRegister (afePl : UInt8) :
    Within B (controlRegister afePl : BackendProg I ε UInt32) := by
  rw [controlRegister_eq]
  exact within_okOr _ _

theorem within_delayOffset (afeBoard : UInt8) :
    Within B (delayOffset afeBoard : BackendProg I ε UInt32) := by
  rw [delayOffset_eq]
  exact within_okOr _ _

theorem within_bitslipOffset (afeBoard : UInt8) :
    Within B (bitslipOffset afeBoard : BackendProg I ε UInt32) := by
  rw [bitslipOffset_eq]
  exact within_okOr _ _

theorem within_frameClockOffset (afeBoard : UInt8) :
    Within B (frameClockOffset afeBoard : BackendProg I ε UInt32) := by
  rw [frameClockOffset_eq]
  exact within_okOr _ _

end Offsets

theorem within_readTrimOrOffsetChannel {B : Bound (AfeMmioBackend I)} (op : RpuWireOp)
    (afePl afeChannel : UInt8) :
    Within B (readTrimOrOffsetChannel op afePl afeChannel : BackendProg I ε UInt32) := by
  refine within_bind (within_ofResult _) fun _ ↦ within_bind (within_failIf _ _) fun _ ↦
    within_bind within_get fun backend ↦ within_bind ?_ fun _ ↦
    within_bind (within_index _ _) fun _ ↦ within_pure _
  unfold readHalves
  split
  · exact within_index _ _
  · exact within_index _ _
  · exact within_fail _

variable [RegisterIo I ε]

theorem admitsIo_ioOnly : AdmitsIo (ioOnly : Bound (AfeMmioBackend I)) where
  read _ := within_access (fun _ _ ↦ rfl) _
  write _ _ := within_access (fun _ _ ↦ rfl) _

theorem admitsCaches_keepsStaged : AdmitsCaches (keepsStaged : Bound (AfeMmioBackend I)) where
  read _ := within_access (fun _ _ ↦ rfl) _
  write _ _ := within_access (fun _ _ ↦ rfl) _
  storeHalves op cache s := by
    change (AfeMmioBackend.storeHalves op cache s).stagedConfig = s.stagedConfig
    unfold AfeMmioBackend.storeHalves
    split <;> rfl
  attenuation _ _ := rfl
  bias _ _ := rfl
  vbias _ _ _ := rfl

variable {B : Bound (AfeMmioBackend I)}

/-! ## Operations on the registers -/

theorem AdmitsIo.within_poll (h : AdmitsIo B) (offset : UInt32) (accept : UInt32 → Bool)
    (limit : ℕ) : Within B (poll offset accept limit) := by
  induction limit with
  | zero => exact within_fail _
  | succ limit ih =>
    rw [poll_succ]
    exact within_bind (h.read offset) fun _ ↦ within_ite (within_pure _) ih

theorem AdmitsIo.within_waitAfeReady (h : AdmitsIo B) : Within B waitAfeReady := by
  rw [waitAfeReady_eq]
  exact within_bind within_get fun _ ↦ h.within_poll _ _ _

theorem AdmitsIo.within_waitDacReady (h : AdmitsIo B) : Within B waitDacReady := by
  rw [waitDacReady_eq]
  exact within_bind within_get fun _ ↦ h.within_poll _ _ _

theorem AdmitsIo.within_waitFrontendDelayctrlReady (h : AdmitsIo B) :
    Within B waitFrontendDelayctrlReady := by
  rw [waitFrontendDelayctrlReady_eq]
  exact within_bind within_get fun _ ↦ h.within_poll _ _ _

theorem AdmitsIo.within_setBit (h : AdmitsIo B) (offset : UInt32) (bitIndex : UInt8)
    (asserted : Bool) : Within B (setBit offset bitIndex asserted) :=
  within_bind (h.read offset) fun _ ↦ within_bind (within_checkedShl _ _) fun _ ↦ h.write _ _

theorem AdmitsIo.within_writeDacRoute (h : AdmitsIo B) (route : DacRoute) (value : UInt16) :
    Within B (writeDacRoute route value) :=
  within_bind h.within_waitDacReady fun _ ↦
    within_bind (h.write _ _) fun _ ↦
    within_bind h.within_waitDacReady fun _ ↦
    within_bind (h.within_setBit _ _ _) fun _ ↦
    within_bind h.within_waitDacReady fun _ ↦
    within_bind (h.within_setBit _ _ _) fun _ ↦ h.within_waitDacReady

theorem AdmitsIo.within_doReset (h : AdmitsIo B) : Within B doReset :=
  within_bind (h.within_setBit _ _ _) fun _ ↦ h.within_setBit _ _ _

theorem AdmitsIo.within_readRegister (h : AdmitsIo B) (afePl : UInt8) (register : UInt16) :
    Within B (readRegister afePl register) :=
  within_bind (within_controlRegister _) fun _ ↦
    within_bind h.within_waitAfeReady fun _ ↦
    within_bind (h.write _ _) fun _ ↦
    within_bind h.within_waitAfeReady fun _ ↦
    within_bind (h.write _ _) fun _ ↦
    within_bind h.within_waitAfeReady fun _ ↦
    within_bind (h.read _) fun _ ↦
    within_bind (h.write _ _) fun _ ↦ within_pure _

theorem AdmitsIo.within_writeRegister (h : AdmitsIo B) (afePl : UInt8) (register : UInt16)
    (value : UInt32) : Within B (writeRegister afePl register value) :=
  within_bind (within_ofResult _) fun _ ↦
    within_bind (within_controlRegister _) fun _ ↦
    within_bind h.within_waitAfeReady fun _ ↦
    within_bind (h.write _ _) fun _ ↦
    within_bind h.within_waitAfeReady fun _ ↦
    within_bind (h.write _ _) fun _ ↦
    within_bind h.within_waitAfeReady fun _ ↦
    within_bind (h.write _ _) fun _ ↦
    within_bind h.within_waitAfeReady fun _ ↦
    within_bind (h.read _) fun _ ↦
    within_bind (h.write _ _) fun _ ↦ within_pure _

theorem AdmitsIo.within_writeAfeFunction (h : AdmitsIo B) (afePl : UInt8) (name : String)
    (value : UInt16) : Within B (writeAfeFunction afePl name value) := by
  rw [writeAfeFunction_eq]
  exact within_bind (within_ofResult _) fun _ ↦
    within_bind (within_ofResult _) fun _ ↦
    within_bind (within_ofResult _) fun _ ↦
    within_bind (h.within_readRegister _ _) fun _ ↦
    within_bind (within_ofResult _) fun _ ↦
    within_bind (h.within_writeRegister _ _ _) fun _ ↦
    within_bind (h.within_readRegister _ _) fun _ ↦
    within_bind (within_ofResult _) fun _ ↦ within_pure _

theorem AdmitsIo.within_setFrontendDelay (h : AdmitsIo B) (afeBoard : UInt8) (value : UInt32) :
    Within B (setFrontendDelay afeBoard value) :=
  within_bind (within_delayOffset _) fun _ ↦
    within_bind (within_failIf _ _) fun _ ↦ h.write _ _

theorem AdmitsIo.within_setFrontendBitslip (h : AdmitsIo B) (afeBoard : UInt8) (value : UInt32) :
    Within B (setFrontendBitslip afeBoard value) :=
  within_bind (within_bitslipOffset _) fun _ ↦
    within_bind (within_failIf _ _) fun _ ↦ h.write _ _

theorem AdmitsIo.within_scanFrontendWordAfterWrite (h : AdmitsIo B) (afeBoard : UInt8) :
    Within B (scanFrontendWordAfterWrite afeBoard) :=
  within_bind (h.write _ _) fun _ ↦
    within_bind (within_frameClockOffset _) fun _ ↦ h.read _

theorem AdmitsIo.within_setBestFrontendDelay (h : AdmitsIo B) (afeBoard : UInt8) :
    Within B (setBestFrontendDelay afeBoard) := by
  have hscan (scan : DelayScan) (tap : UInt32) :
      Within B (scanDelayTap afeBoard scan tap) :=
    within_bind (h.within_setFrontendDelay _ _) fun _ ↦
      within_bind (h.within_scanFrontendWordAfterWrite _) fun _ ↦
      within_ite (within_bind (within_checkedAdd _ _) fun _ ↦ within_pure _) (within_pure _)
  exact within_bind (within_foldlM hscan _ _) fun _ ↦ within_bind (within_failIf _ _) fun _ ↦
    within_bind (within_checkedSub _ _) fun _ ↦
    within_bind (within_checkedAdd _ _) fun _ ↦ h.within_setFrontendDelay _ _

theorem AdmitsIo.within_chosenBitslip (h : AdmitsIo B) (afeBoard : UInt8) (initialBitslip : UInt32)
    (found : Option UInt32) :
    Within B (chosenBitslip afeBoard initialBitslip found) := by
  cases found with
  | some tap => exact within_pure _
  | none => exact within_bind (h.within_setFrontendBitslip _ _) fun _ ↦ within_fail _

theorem AdmitsIo.within_setBestFrontendBitslip (h : AdmitsIo B) (afeBoard : UInt8) :
    Within B (setBestFrontendBitslip afeBoard) := by
  have hscan (found : Option UInt32) (tap : UInt32) :
      Within B (scanBitslipTap afeBoard found tap) :=
    within_bind (h.within_setFrontendBitslip _ _) fun _ ↦
      within_bind (h.within_scanFrontendWordAfterWrite _) fun _ ↦ within_pure _
  have hverify (_ : UInt32) : Within B
      (scanFrontendWordAfterWrite afeBoard >>= fun word ↦
        failIf (word ≠ frontendExpectedFclkWord) MmioAfeError.alignmentFailed) :=
    within_bind (h.within_scanFrontendWordAfterWrite _) fun _ ↦ within_failIf _ _
  have hinitial : Within B (readFrontendBitslip afeBoard) :=
    within_bind (within_bitslipOffset _) fun _ ↦ within_bind (h.read _) fun _ ↦ within_pure _
  exact within_bind hinitial fun _ ↦ within_bind (within_foldlM hscan _ _) fun _ ↦
    within_bind (h.within_chosenBitslip _ _ _) fun _ ↦
    within_bind (h.within_setFrontendBitslip _ _) fun _ ↦
    within_bind (h.within_scanFrontendWordAfterWrite _) fun _ ↦
    within_bind (within_failIf _ _) fun _ ↦ within_forM hverify _

theorem AdmitsIo.within_alignFrontend (h : AdmitsIo B) : Within B alignFrontend := by
  have hreset : Within B resetFrontendDelayValues :=
    within_forM (fun _ ↦ within_bind (h.within_setFrontendBitslip _ _) fun _ ↦
      h.within_setFrontendDelay _ _) _
  have hpulse (bitIndex : UInt8) :
      Within B (pulseFrontendControlBit bitIndex) :=
    within_bind (h.within_setBit _ _ _) fun _ ↦ h.within_setBit _ _ _
  have hready : Within B waitFrontendDelayctrlReady := h.within_waitFrontendDelayctrlReady
  have hsearch (afeBoard : UInt8) : Within B
      (setBestFrontendDelay afeBoard >>= fun _ ↦ setBestFrontendBitslip afeBoard) :=
    within_bind (h.within_setBestFrontendDelay _) fun _ ↦ h.within_setBestFrontendBitslip _
  exact within_bind hreset fun _ ↦ within_bind (hpulse _) fun _ ↦ within_bind (hpulse _) fun _ ↦
    within_bind (h.within_setBit _ _ _) fun _ ↦ within_bind hready fun _ ↦
    within_bind (within_attempt (within_forM hsearch _)) fun _ ↦
    within_bind (within_attempt (h.within_setBit _ _ _)) fun _ ↦
    within_bind (within_ofResult _) fun _ ↦ within_ofResult _

/-! ## Operations that also change the caches -/

theorem AdmitsCaches.within_writeTrimOrOffsetChannel (h : AdmitsCaches B) (op : RpuWireOp)
    (afePl afeChannel : UInt8) (value : UInt16) (gain : Bool) :
    Within B (writeTrimOrOffsetChannel op afePl afeChannel value gain) := by
  have hwait := h.within_waitAfeReady
  refine within_bind (within_trimOrOffsetRegister _ _) fun offset ↦
    within_bind (within_companionChannel _) fun companion ↦
    within_bind within_get fun backend ↦ within_bind ?_ fun cache ↦
    within_bind (within_index _ _) fun halves ↦ within_bind (within_setAt _ _ _) fun halves ↦
    within_bind (within_setAt _ _ _) fun cache ↦ within_bind (within_modify fun s ↦ ?_) fun _ ↦
    within_bind (within_index _ _) fun companionHalf ↦ within_bind hwait fun _ ↦
    within_bind (h.write _ _) fun _ ↦ hwait
  · unfold writtenHalves
    split
    · exact within_pure _
    · exact within_pure _
    · exact within_stop
  · exact h.storeHalves op cache s

theorem AdmitsCaches.within_cacheAttenuation (h : AdmitsCaches B) (afePl : UInt8) (value : UInt16) :
    Within B (cacheAttenuation afePl value : BackendProg I ε Unit) :=
  within_bind within_get fun _ ↦ within_bind (within_setAt _ _ _) fun _ ↦
    within_modify fun _ ↦ h.attenuation _ _

theorem AdmitsCaches.within_cacheBias (h : AdmitsCaches B) (afePl : UInt8) (value : UInt16) :
    Within B (cacheBias afePl value : BackendProg I ε Unit) :=
  within_bind within_get fun _ ↦ within_bind (within_setAt _ _ _) fun _ ↦
    within_modify fun _ ↦ h.bias _ _

theorem AdmitsCaches.within_writeScalar (h : AdmitsCaches B) (op : RpuWireOp) (afePl : UInt8)
    (value : UInt32) :
    Within B (writeScalar op afePl value) := by
  refine within_bind (within_ofResult _) fun _ ↦ within_bind (within_ofResult _) fun value ↦ ?_
  have hroute (route : DacRoute) : Within B
      (writeDacRoute route value) := (h.within_writeDacRoute route value)
  split
  · exact within_bind (within_index _ _) fun route ↦ within_bind (hroute route) fun _ ↦
      within_bind (h.within_cacheAttenuation _ _) fun _ ↦ within_pure _
  · exact within_bind (within_index _ _) fun route ↦ within_bind (hroute route) fun _ ↦
      within_bind (h.within_cacheBias _ _) fun _ ↦ within_pure _
  · exact within_fail _

theorem AdmitsCaches.within_writeChannelScalar (h : AdmitsCaches B) (command : RpuWireCommand) :
    Within B (writeChannelScalar command) := by
  refine within_bind (within_ofResult _) fun value ↦ within_bind ?_ fun _ ↦ within_pure _
  unfold writeTargets
  split
  · exact h.within_writeTrimOrOffsetChannel _ _ _ _ _
  · exact within_bind (within_ofResult _) fun _ ↦
      within_forM (fun _ ↦ h.within_writeTrimOrOffsetChannel _ _ _ _ _) _
  · exact within_forM (fun _ ↦
      within_forM (fun _ ↦ h.within_writeTrimOrOffsetChannel _ _ _ _ _) _) _
  · exact within_fail _

theorem AdmitsCaches.within_writeVbiasControl (h : AdmitsCaches B) (value : UInt32)
    (enable : Bool) :
    Within B (writeVbiasControl value enable) :=
  within_bind (within_ofResult _) fun _ ↦
    within_bind (h.within_writeDacRoute _ _) fun _ ↦
    within_bind (h.write _ _) fun _ ↦
    within_bind (within_modify fun _ ↦ h.vbias _ _ _) fun _ ↦ within_pure _

theorem AdmitsCaches.within_applyStagedChannel (h : AdmitsCaches B)
    (config : RpuWireChannelConfig) :
    Within B (applyStagedChannel config) :=
  within_bind (within_ofResult _) fun _ ↦ within_bind (within_ofResult _) fun _ ↦
    within_bind (h.within_writeTrimOrOffsetChannel _ _ _ _ _) fun _ ↦
    h.within_writeTrimOrOffsetChannel _ _ _ _ _

theorem AdmitsCaches.within_applyStagedAfe (h : AdmitsCaches B) (config : RpuWireAfeConfig) :
    Within B (applyStagedAfe config) := by
  have hbias : Within B (applyStagedBias config) :=
    within_ite (within_bind (within_ofResult _) fun _ ↦ within_bind (within_index _ _) fun _ ↦
      within_bind (h.within_writeDacRoute _ _) fun _ ↦
      h.within_cacheBias _ _) (within_pure _)
  exact within_bind (within_ofResult _) fun _ ↦ within_bind (within_index _ _) fun _ ↦
    within_bind (h.within_writeDacRoute _ _) fun _ ↦
    within_bind (h.within_cacheAttenuation _ _) fun _ ↦ within_bind hbias fun _ ↦
    within_forM (fun _ ↦ within_bind (h.within_writeAfeFunction _ _ _)
      fun _ ↦ within_pure _) _

theorem AdmitsCaches.within_programStaged (h : AdmitsCaches B) (staged : StagedConfig) :
    Within B (programStaged staged) := by
  have hpower : Within B (setPowerState true) := h.within_setBit _ _ _
  exact within_bind h.within_doReset fun _ ↦ within_bind hpower fun _ ↦
    within_bind (within_forM h.within_applyStagedChannel _) fun _ ↦
    within_bind (h.within_writeVbiasControl _ _) fun _ ↦
    within_bind (within_forM h.within_applyStagedAfe _) fun _ ↦ hpower

/-! ## The configuration operations -/

/-- The slot of an AFE record. -/
def afeSlot (config : RpuWireAfeConfig) : ℕ := config.afePl.toNat

/-- The slot of a channel record. -/
def channelSlot (config : RpuWireChannelConfig) : ℕ := config.channel.toNat

/-- A channel record that staging accepts. -/
def ValidChannel (config : RpuWireChannelConfig) : Prop :=
  config.afePl.toNat < afeCount ∧ config.afeChannel.toNat < channelsPerAfe ∧
    config.channel.toNat < channelCount

section Configure

omit [RegisterIo I ε]

/-- Staging an AFE record stores it in its slot, or changes nothing. -/
theorem wp_configureAfe (config : RpuWireAfeConfig) (s : AfeMmioBackend I) :
    wp (configureAfe config : BackendProg I ε Unit)
      (fun _ s' ↦ s.stagedConfig.active = true ∧ config.afePl.toNat < afeCount ∧
        s' = { s with stagedConfig :=
          { s.stagedConfig with afes := store afeSlot s.stagedConfig.afes config } })
      (fun _ s' ↦ s' = s) s := by
  unfold configureAfe validateAfe
  by_cases hafe : config.afePl.toNat < afeCount
  · have hstore : s.stagedConfig.afes.set config.afePl.toNat (some config) hafe =
        store afeSlot s.stagedConfig.afes config := by
      rw [store]
      exact (dif_pos hafe).symm
    simp [hafe, hstore]
  · simp [hafe]

theorem wp_configureChannel (config : RpuWireChannelConfig) (s : AfeMmioBackend I) :
    wp (configureChannel config : BackendProg I ε Unit)
      (fun _ s' ↦ s.stagedConfig.active = true ∧ ValidChannel config ∧
        s' = { s with stagedConfig :=
          { s.stagedConfig with
            channels := store channelSlot s.stagedConfig.channels config } })
      (fun _ s' ↦ s' = s) s := by
  unfold configureChannel validateAfe
  by_cases hafe : config.afePl.toNat < afeCount
  · by_cases hchannel : config.afeChannel.toNat ≥ channelsPerAfe ∨
        config.channel.toNat ≥ channelCount
    · simp [hafe, hchannel]
    · obtain ⟨hafeChannel, hslot⟩ := not_or.mp hchannel
      have hslot : config.channel.toNat < channelCount := Nat.lt_of_not_ge hslot
      have hvalid : ValidChannel config := ⟨hafe, Nat.lt_of_not_ge hafeChannel, hslot⟩
      have hstore : s.stagedConfig.channels.set config.channel.toNat (some config) hslot =
          store channelSlot s.stagedConfig.channels config := by
        rw [store]
        exact (dif_pos hslot).symm
      simp [hafe, hchannel, hslot, hvalid, hstore]
  · simp [hafe]

end Configure

/-- A completed apply closes the sequence; one that fails leaves it staged. -/
theorem wp_applyConfigureFrontend_staged (s : AfeMmioBackend I) :
    wp (applyConfigureFrontend : BackendProg I ε Unit)
      (fun _ s' ↦ s.stagedConfig.active = true ∧ s'.stagedConfig = .default)
      (fun _ s' ↦ s'.stagedConfig = s.stagedConfig) s := by
  unfold applyConfigureFrontend
  rw [wp_bind, wp_get, wp_bind, wp_failIf]
  refine ⟨fun hactive ↦ ?_, fun _ ↦ rfl⟩
  rw [wp_bind, wp_ofResult]
  refine ⟨fun _ _ ↦ ?_, fun _ _ ↦ rfl⟩
  exact wp_bind_of_within (admitsCaches_keepsStaged.within_programStaged _)
    (fun _ _ _ ↦ ⟨by simpa using hactive, rfl⟩) (fun _ _ h ↦ h)

/-- The calls outside a configuration sequence leave the staged records alone. -/
theorem keepsStaged_perform {call : HardwareCall} (h : ¬ call.configures) :
    Within (keepsStaged : Bound (AfeMmioBackend I)) call.perform := by
  have hcaches : AdmitsCaches (keepsStaged : Bound (AfeMmioBackend I)) := admitsCaches_keepsStaged
  cases call with
  | readRegister => exact within_map (hcaches.within_readRegister _ _)
  | writeRegister => exact within_map (hcaches.within_writeRegister _ _ _)
  | readScalar op afePl =>
    refine within_map (within_bind (within_ofResult _) fun _ ↦ within_bind within_get fun _ ↦ ?_)
    split
    · exact within_bind (within_index _ _) fun _ ↦ within_pure _
    · exact within_bind (within_index _ _) fun _ ↦ within_pure _
    · exact within_fail _
  | writeScalar => exact within_map (hcaches.within_writeScalar _ _ _)
  | readChannelScalar =>
    exact within_map (within_bind (within_failIf _ _) fun _ ↦
      within_readTrimOrOffsetChannel _ _ _)
  | writeChannelScalar => exact within_map (hcaches.within_writeChannelScalar _)
  | readVbiasControl =>
    apply within_map
    intro s
    rfl
  | writeVbiasControl => exact within_map (hcaches.within_writeVbiasControl _ _)
  | setReset => exact within_map (hcaches.within_setBit _ _ _)
  | doReset => exact within_map hcaches.within_doReset
  | setPowerState => exact within_map (hcaches.within_setBit _ _ _)
  | align => exact within_map hcaches.within_alignFrontend
  | writeFunction => exact within_map (hcaches.within_writeAfeFunction _ _ _)
  | beginConfigureFrontend | configureAfe | configureChannel | applyConfigureFrontend =>
    exact absurd trivial h

end AfeMmioBackend

end DaphneSc.Rpu.Mmio
