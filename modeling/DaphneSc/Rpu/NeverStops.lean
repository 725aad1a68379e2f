import DaphneSc.Program.Safe
import DaphneSc.Rpu.CommandFrames
import DaphneSc.Rpu.MmioFrame

/-!
# No frame stops the runtime

Whatever the frames of a run say, whatever the registers read as and whichever accesses fail, every
index of the backend is in bounds and every checked operation in range, so every frame is answered.
Some indices are checked where a record is staged and used where it is applied, so this rests on an
invariant of the staged records.
-/

namespace DaphneSc.Rpu.Mmio

open Core.Afe Core.AfeHw Core.AfeFunctions Core.RpuWire Rpu.Runtime Program Slots

namespace AfeMmioBackend

variable {I ε α : Type}

/-! ## Arithmetic of the scans -/

theorem safe_checkedAdd {a b : UInt32} (h : a.toNat + b.toNat < 2 ^ 32) :
    Safe (fun c ↦ c.toNat = a.toNat + b.toNat) (checkedAdd a b : BackendProg I ε UInt32) :=
  safe_checked h (by rw [UInt32.toNat_add, Nat.mod_eq_of_lt h])

theorem safe_checkedSub {a b : UInt32} (h : b ≤ a) :
    Safe (fun c ↦ c.toNat = a.toNat - b.toNat) (checkedSub a b : BackendProg I ε UInt32) :=
  safe_checked (UInt32.le_iff_toNat_le.mp h) (UInt32.toNat_sub_of_le _ _ h)

/-- The taps of a scan are counted from zero. -/
theorem toNat_of_taps {count tap : UInt32} {passes : ℕ} (h : (taps count)[passes]? = some tap) :
    passes < count.toNat ∧ tap.toNat = passes := by
  unfold taps at h
  rw [List.getElem?_map, Option.map_eq_some_iff] at h
  obtain ⟨k, hk, rfl⟩ := h
  obtain ⟨hlt, hrange⟩ := List.getElem?_eq_some_iff.mp hk
  rw [List.length_range] at hlt
  rw [List.getElem_range] at hrange
  refine ⟨hlt, ?_⟩
  rw [← hrange, UInt32.toNat_ofNat', Nat.mod_eq_of_lt (hlt.trans count.toNat_lt)]

theorem length_taps (count : UInt32) : (taps count).length = count.toNat := by
  simp [taps]

/-- After some passes both runs lie among the taps seen. -/
structure DelayScan.Within (passes : ℕ) (scan : DelayScan) : Prop where
  best : scan.bestStart.toNat + scan.bestLen.toNat ≤ passes
  current : scan.currentStart.toNat + scan.currentLen.toNat ≤ passes

theorem DelayScan.Within.keepBest {passes : ℕ} {scan : DelayScan} (h : scan.Within passes) :
    scan.keepBest.Within passes := by
  unfold DelayScan.keepBest
  split
  · exact ⟨h.current, h.current⟩
  · exact h

/-! ## Operations on the caches -/

theorem safe_validateAfe (afePl : UInt8) :
    Safe (fun _ ↦ afePl.toNat < afeCount) (ofResult (validateAfe afePl) :
      BackendProg I ε Unit) := by
  apply safe_ofResult
  intro _ hvalid
  unfold validateAfe at hvalid
  split at hvalid
  · assumption
  · cases hvalid

theorem safely_cacheAttenuation {afePl : UInt8} (h : afePl.toNat < afeCount) (value : UInt16) :
    Safely (cacheAttenuation afePl value : BackendProg I ε Unit) :=
  safe_bind_of_safely safely_get fun _ ↦ safe_bind_of_safely (safely_setAt _ h _) fun _ ↦
    safely_modify _

theorem safely_cacheBias {afePl : UInt8} (h : afePl.toNat < afeCount) (value : UInt16) :
    Safely (cacheBias afePl value : BackendProg I ε Unit) :=
  safe_bind_of_safely safely_get fun _ ↦ safe_bind_of_safely (safely_setAt _ h _) fun _ ↦
    safely_modify _

theorem safely_readScalar (op : RpuWireOp) (afePl : UInt8) :
    Safely (readScalar op afePl : BackendProg I ε UInt32) := by
  apply safe_bind (safe_validateAfe afePl)
  intro _ hafe
  apply safe_bind_of_safely safely_get
  intro backend
  split
  · exact safe_bind_of_safely (safely_index _ hafe) fun _ ↦ safe_pure trivial
  · exact safe_bind_of_safely (safely_index _ hafe) fun _ ↦ safe_pure trivial
  · exact safe_fail _

theorem safely_readTrimOrOffsetChannel (op : RpuWireOp) (afePl afeChannel : UInt8) :
    Safely (readTrimOrOffsetChannel op afePl afeChannel : BackendProg I ε UInt32) := by
  apply safe_bind (safe_validateAfe afePl)
  intro _ hafe
  apply safe_bind (safe_failIf _ _)
  intro _ hchannel
  apply safe_bind_of_safely safely_get
  intro backend
  apply safe_bind_of_safely
  · unfold readHalves
    split
    · exact safely_index _ hafe
    · exact safely_index _ hafe
    · exact safe_fail _
  · exact fun halves ↦ safe_bind_of_safely (safely_index halves (Nat.lt_of_not_ge hchannel))
      fun _ ↦ safe_pure trivial

/-- Only the trim and offset operations have a register, and only for an AFE. -/
theorem safe_trimOrOffsetRegister (op : RpuWireOp) (afePl : UInt8) :
    Safe (fun _ ↦ afePl.toNat < afeCount ∧ (op = .setTrim ∨ op = .setOffset))
      (trimOrOffsetRegister op afePl : BackendProg I ε UInt32) := by
  rw [trimOrOffsetRegister_eq]
  split
  · exact safe_okOr _ fun _ h ↦ ⟨(afeRegisterOffset_eq_some_iff.mp h).1, Or.inl rfl⟩
  · exact safe_okOr _ fun _ h ↦ ⟨(afeRegisterOffset_eq_some_iff.mp h).1, Or.inr rfl⟩
  · exact safe_fail _

/-- A channel with a companion is a channel of an AFE, and so is the companion. -/
theorem dacCompanionChannel_lt {afeChannel companion : UInt8}
    (h : dacCompanionChannel afeChannel = some companion) :
    afeChannel.toNat < channelsPerAfe ∧ companion.toNat < channelsPerAfe := by
  have hfour : (4 : UInt8).toNat = 4 := rfl
  unfold dacCompanionChannel at h
  split at h
  · rename_i hlow
    cases h
    have hlt : afeChannel.toNat < 4 := UInt8.lt_iff_toNat_lt.mp hlow
    rw [UInt8.toNat_add]
    exact ⟨by change _ < 8; omega, by change _ < 8; omega⟩
  · rename_i hlow
    split at h
    · rename_i hhigh
      cases h
      have hlt : afeChannel.toNat < 8 := UInt8.lt_iff_toNat_lt.mp hhigh
      have hle : (4 : UInt8) ≤ afeChannel := UInt8.not_lt.mp hlow
      rw [UInt8.toNat_sub_of_le _ _ hle]
      exact ⟨hlt, by change _ < 8; omega⟩
    · cases h

theorem safe_companionChannel (afeChannel : UInt8) :
    Safe (fun companion : UInt8 ↦ afeChannel.toNat < channelsPerAfe ∧
      companion.toNat < channelsPerAfe)
      (companionChannel afeChannel : BackendProg I ε UInt8) := by
  rw [companionChannel_eq]
  exact safe_okOr _ fun _ h ↦ dacCompanionChannel_lt h

theorem safely_controlRegister (afePl : UInt8) :
    Safely (controlRegister afePl : BackendProg I ε UInt32) := by
  rw [controlRegister_eq]
  exact safe_okOr _ fun _ _ ↦ trivial

theorem safely_delayOffset (afeBoard : UInt8) :
    Safely (delayOffset afeBoard : BackendProg I ε UInt32) := by
  rw [delayOffset_eq]
  exact safe_okOr _ fun _ _ ↦ trivial

theorem safely_bitslipOffset (afeBoard : UInt8) :
    Safely (bitslipOffset afeBoard : BackendProg I ε UInt32) := by
  rw [bitslipOffset_eq]
  exact safe_okOr _ fun _ _ ↦ trivial

theorem safely_frameClockOffset (afeBoard : UInt8) :
    Safely (frameClockOffset afeBoard : BackendProg I ε UInt32) := by
  rw [frameClockOffset_eq]
  exact safe_okOr _ fun _ _ ↦ trivial

/-! ## Operations on the registers -/

variable [RegisterIo I ε]

/-- The register window answers or fails; an access of it never stops the program. -/
structure IoAnswers (I : Type) {ε : Type} [RegisterIo I ε] : Prop where
  read32 (offset : UInt32) : Safely (RegisterIo.read32 offset : Prog ε I UInt32)
  write32 (offset value : UInt32) : Safely (RegisterIo.write32 offset value : Prog ε I Unit)

namespace IoAnswers

variable (hio : IoAnswers I)

include hio

theorem safely_read (offset : UInt32) : Safely (read offset : BackendProg I ε UInt32) :=
  safe_mapError (safe_zoom (hio.read32 offset))

theorem safely_write (offset value : UInt32) :
    Safely (write offset value : BackendProg I ε Unit) :=
  safe_mapError (safe_zoom (hio.write32 offset value))

theorem safely_poll (offset : UInt32) (accept : UInt32 → Bool) (limit : ℕ) :
    Safely (poll offset accept limit : BackendProg I ε Unit) := by
  induction limit with
  | zero => exact safe_fail _
  | succ limit ih =>
    rw [poll_succ]
    apply safe_bind_of_safely (hio.safely_read offset)
    exact fun _ ↦ safe_ite (fun _ ↦ safe_pure trivial) fun _ ↦ ih

theorem safely_waitAfeReady : Safely (waitAfeReady : BackendProg I ε Unit) := by
  rw [waitAfeReady_eq]
  exact safe_bind_of_safely safely_get fun _ ↦ hio.safely_poll _ _ _

theorem safely_waitDacReady : Safely (waitDacReady : BackendProg I ε Unit) := by
  rw [waitDacReady_eq]
  exact safe_bind_of_safely safely_get fun _ ↦ hio.safely_poll _ _ _

theorem safely_waitFrontendDelayctrlReady :
    Safely (waitFrontendDelayctrlReady : BackendProg I ε Unit) := by
  rw [waitFrontendDelayctrlReady_eq]
  exact safe_bind_of_safely safely_get fun _ ↦ hio.safely_poll _ _ _

/-- A bit of the register can be set, any other number overflows the shift. -/
theorem safely_setBit (offset : UInt32) {bitIndex : UInt8} (h : bitIndex.toNat < 32)
    (asserted : Bool) : Safely (setBit offset bitIndex asserted : BackendProg I ε Unit) := by
  rw [setBit_eq offset h]
  exact safe_bind_of_safely (hio.safely_read offset) fun _ ↦ hio.safely_write _ _

theorem safely_setReset (asserted : Bool) :
    Safely (setReset asserted : BackendProg I ε Unit) :=
  hio.safely_setBit _ (show afeGlobalResetBit.toNat < 32 by decide) _

theorem safely_setPowerState (enabled : Bool) :
    Safely (setPowerState enabled : BackendProg I ε Unit) :=
  hio.safely_setBit _ (show afeGlobalPowerstateBit.toNat < 32 by decide) _

theorem safely_doReset : Safely (doReset : BackendProg I ε Unit) :=
  safe_bind_of_safely (hio.safely_setReset _) fun _ ↦ hio.safely_setReset _

theorem safely_writeDacRoute (route : DacRoute) (value : UInt16) :
    Safely (writeDacRoute route value : BackendProg I ε Unit) := by
  have hgo : dacGoBit.toNat < 32 := by decide
  exact safe_bind_of_safely hio.safely_waitDacReady fun _ ↦
    safe_bind_of_safely (hio.safely_write _ _) fun _ ↦
    safe_bind_of_safely hio.safely_waitDacReady fun _ ↦
    safe_bind_of_safely (hio.safely_setBit _ hgo _) fun _ ↦
    safe_bind_of_safely hio.safely_waitDacReady fun _ ↦
    safe_bind_of_safely (hio.safely_setBit _ hgo _) fun _ ↦ hio.safely_waitDacReady

theorem safely_readRegister (afePl : UInt8) (register : UInt16) :
    Safely (readRegister afePl register : BackendProg I ε UInt32) :=
  safe_bind_of_safely (safely_controlRegister _) fun _ ↦
    safe_bind_of_safely hio.safely_waitAfeReady fun _ ↦
    safe_bind_of_safely (hio.safely_write _ _) fun _ ↦
    safe_bind_of_safely hio.safely_waitAfeReady fun _ ↦
    safe_bind_of_safely (hio.safely_write _ _) fun _ ↦
    safe_bind_of_safely hio.safely_waitAfeReady fun _ ↦
    safe_bind_of_safely (hio.safely_read _) fun _ ↦
    safe_bind_of_safely (hio.safely_write _ _) fun _ ↦ safe_pure trivial

theorem safely_writeRegister (afePl : UInt8) (register : UInt16) (value : UInt32) :
    Safely (writeRegister afePl register value : BackendProg I ε UInt32) :=
  safe_bind_of_safely (safe_ofResult fun _ _ ↦ trivial) fun _ ↦
    safe_bind_of_safely (safely_controlRegister _) fun _ ↦
    safe_bind_of_safely hio.safely_waitAfeReady fun _ ↦
    safe_bind_of_safely (hio.safely_write _ _) fun _ ↦
    safe_bind_of_safely hio.safely_waitAfeReady fun _ ↦
    safe_bind_of_safely (hio.safely_write _ _) fun _ ↦
    safe_bind_of_safely hio.safely_waitAfeReady fun _ ↦
    safe_bind_of_safely (hio.safely_write _ _) fun _ ↦
    safe_bind_of_safely hio.safely_waitAfeReady fun _ ↦
    safe_bind_of_safely (hio.safely_read _) fun _ ↦
    safe_bind_of_safely (hio.safely_write _ _) fun _ ↦ safe_pure trivial

theorem safely_writeAfeFunction (afePl : UInt8) (name : String) (value : UInt16) :
    Safely (writeAfeFunction afePl name value : BackendProg I ε UInt32) := by
  have hresult {β : Type} (result : Except AfeFunctionError β) :
      Safely (orFunctionError result value : BackendProg I ε β) :=
    safe_ofResult fun _ _ ↦ trivial
  rw [writeAfeFunction_eq]
  exact safe_bind_of_safely (safe_ofResult fun _ _ ↦ trivial) fun _ ↦
    safe_bind_of_safely (hresult _) fun _ ↦
    safe_bind_of_safely (hresult _) fun _ ↦
    safe_bind_of_safely (hio.safely_readRegister _ _) fun _ ↦
    safe_bind_of_safely (hresult _) fun _ ↦
    safe_bind_of_safely (hio.safely_writeRegister _ _ _) fun _ ↦
    safe_bind_of_safely (hio.safely_readRegister _ _) fun _ ↦
    safe_bind_of_safely (hresult _) fun _ ↦ safe_pure trivial

/-! ## Alignment -/

theorem safely_setFrontendDelay (afeBoard : UInt8) (value : UInt32) :
    Safely (setFrontendDelay afeBoard value : BackendProg I ε Unit) :=
  safe_bind_of_safely (safely_delayOffset _) fun _ ↦
    safe_bind (safe_failIf _ _) fun _ _ ↦ hio.safely_write _ _

theorem safely_setFrontendBitslip (afeBoard : UInt8) (value : UInt32) :
    Safely (setFrontendBitslip afeBoard value : BackendProg I ε Unit) :=
  safe_bind_of_safely (safely_bitslipOffset _) fun _ ↦
    safe_bind (safe_failIf _ _) fun _ _ ↦ hio.safely_write _ _

theorem safely_scanFrontendWordAfterWrite (afeBoard : UInt8) :
    Safely (scanFrontendWordAfterWrite afeBoard : BackendProg I ε UInt32) :=
  safe_bind_of_safely (hio.safely_write _ _) fun _ ↦
    safe_bind_of_safely (safely_frameClockOffset _) fun _ ↦ hio.safely_read _

/-- A pass of the delay scan extends the run in progress by its tap or starts a new one there. -/
theorem safe_scanDelayTap (afeBoard : UInt8) {passes : ℕ} {scan : DelayScan} {tap : UInt32}
    (htap : (taps frontendDelayTaps)[passes]? = some tap) (hscan : scan.Within passes) :
    Safe (DelayScan.Within (passes + 1)) (scanDelayTap afeBoard scan tap :
      BackendProg I ε DelayScan) := by
  obtain ⟨hpasses, hcount⟩ := toNat_of_taps htap
  have hlimit : passes < 512 := hpasses
  have hbest := hscan.keepBest.best
  have hcurrent := hscan.current
  apply safe_bind_of_safely (hio.safely_setFrontendDelay _ _)
  intro _
  apply safe_bind_of_safely (hio.safely_scanFrontendWordAfterWrite _)
  intro word
  apply safe_ite
  · intro _
    have hone : (1 : UInt32).toNat = 1 := rfl
    apply safe_bind (safe_checkedAdd (by omega))
    intro currentLen hlen
    exact safe_pure ⟨Nat.le_succ_of_le hscan.best, by dsimp only; omega⟩
  · intro _
    have hone : (1 : UInt32).toNat = 1 := rfl
    exact safe_pure ⟨Nat.le_succ_of_le hbest, by dsimp only; omega⟩

theorem safely_setBestFrontendDelay (afeBoard : UInt8) :
    Safely (setBestFrontendDelay afeBoard : BackendProg I ε Unit) := by
  have hloop : Safe (DelayScan.Within 512) ((taps frontendDelayTaps).foldlM
      (scanDelayTap afeBoard) DelayScan.start : BackendProg I ε DelayScan) := by
    have hstart : DelayScan.start.Within 0 := ⟨le_rfl, le_rfl⟩
    have h := safe_foldlM DelayScan.Within (taps frontendDelayTaps)
      (fun passes tap scan htap hscan ↦ hio.safe_scanDelayTap afeBoard htap hscan) hstart
    rwa [length_taps] at h
  apply safe_bind hloop
  intro scan hscan
  have hbest := hscan.keepBest.best
  apply safe_bind (safe_failIf _ _)
  intro _ hfound
  have hone : (1 : UInt32).toNat = 1 := rfl
  have hpositive : 1 ≤ scan.keepBest.bestLen.toNat :=
    Nat.one_le_iff_ne_zero.mpr fun hzero ↦ hfound (UInt32.toNat_inj.mp hzero)
  have hle : (1 : UInt32) ≤ scan.keepBest.bestLen := UInt32.le_iff_toNat_le.mpr hpositive
  apply safe_bind (safe_checkedSub hle)
  intro last hlast
  have hhalf : (last / 2).toNat = last.toNat / 2 := UInt32.toNat_div last 2
  apply safe_bind (safe_checkedAdd (by omega))
  exact fun delay _ ↦ hio.safely_setFrontendDelay _ _

theorem safely_chosenBitslip (afeBoard : UInt8) (initialBitslip : UInt32)
    (found : Option UInt32) :
    Safely (chosenBitslip afeBoard initialBitslip found : BackendProg I ε UInt32) := by
  cases found with
  | some tap => exact safe_pure trivial
  | none =>
    exact safe_bind_of_safely (hio.safely_setFrontendBitslip _ _) fun _ ↦ safe_fail _

theorem safely_setBestFrontendBitslip (afeBoard : UInt8) :
    Safely (setBestFrontendBitslip afeBoard : BackendProg I ε Unit) := by
  have hinitial : Safely (readFrontendBitslip afeBoard : BackendProg I ε UInt32) :=
    safe_bind_of_safely (safely_bitslipOffset _) fun _ ↦
      safe_bind_of_safely (hio.safely_read _) fun _ ↦ safe_pure trivial
  have hscan (found : Option UInt32) (tap : UInt32) :
      Safely (scanBitslipTap afeBoard found tap : BackendProg I ε (Option UInt32)) :=
    safe_bind_of_safely (hio.safely_setFrontendBitslip _ _) fun _ ↦
      safe_bind_of_safely (hio.safely_scanFrontendWordAfterWrite _) fun _ ↦ safe_pure trivial
  have hverify (_ : UInt32) : Safely (scanFrontendWordAfterWrite afeBoard >>= fun word ↦
      failIf (word ≠ frontendExpectedFclkWord) .alignmentFailed : BackendProg I ε Unit) :=
    safe_bind_of_safely (hio.safely_scanFrontendWordAfterWrite _) fun _ ↦ (safe_failIf _ _).safely
  exact safe_bind_of_safely hinitial fun initialBitslip ↦
    safe_bind_of_safely (safe_foldlM (fun _ _ ↦ True) _
      (fun _ tap found _ _ ↦ hscan found tap) trivial) fun found ↦
    safe_bind_of_safely (hio.safely_chosenBitslip _ _ found) fun _ ↦
    safe_bind_of_safely (hio.safely_setFrontendBitslip _ _) fun _ ↦
    safe_bind_of_safely (hio.safely_scanFrontendWordAfterWrite _) fun _ ↦
    safe_bind (safe_failIf _ _) fun _ _ ↦ safely_forM _ fun tap _ ↦ hverify tap

theorem safely_alignFrontend : Safely (alignFrontend : BackendProg I ε Unit) := by
  have hreset : Safely (resetFrontendDelayValues : BackendProg I ε Unit) :=
    safely_forM _ fun _ _ ↦ safe_bind_of_safely (hio.safely_setFrontendBitslip _ _) fun _ ↦
      hio.safely_setFrontendDelay _ _
  have hpulse {bitIndex : UInt8} (h : bitIndex.toNat < 32) :
      Safely (pulseFrontendControlBit bitIndex : BackendProg I ε Unit) :=
    safe_bind_of_safely (hio.safely_setBit _ h _) fun _ ↦ hio.safely_setBit _ h _
  have hvtc (enabled : Bool) : Safely (setFrontendDelayVtc enabled : BackendProg I ε Unit) :=
    hio.safely_setBit _ (show frontendDelayEnVtcBit.toNat < 32 by decide) _
  have hsearch (afeBoard : UInt8) : Safely
      (setBestFrontendDelay afeBoard >>= fun _ ↦ setBestFrontendBitslip afeBoard :
        BackendProg I ε Unit) :=
    safe_bind_of_safely (hio.safely_setBestFrontendDelay _) fun _ ↦
      hio.safely_setBestFrontendBitslip _
  exact safe_bind_of_safely hreset fun _ ↦ safe_bind_of_safely (hpulse (by decide)) fun _ ↦
    safe_bind_of_safely (hpulse (by decide)) fun _ ↦
    safe_bind_of_safely (hvtc _) fun _ ↦
    safe_bind_of_safely hio.safely_waitFrontendDelayctrlReady fun _ ↦
    safe_bind_of_safely (safely_attempt (safely_forM _ fun afeBoard _ ↦ hsearch afeBoard))
      fun _ ↦ safe_bind_of_safely (safely_attempt (hvtc _)) fun _ ↦
    safe_bind_of_safely (safe_ofResult fun _ _ ↦ trivial) fun _ ↦
    safe_ofResult fun _ _ ↦ trivial

/-! ## Trim, offset and scalars -/

/-- The checks made before the caches are indexed: the register exists only for an AFE, the
companion only for a channel of it, and no third operation has a register. -/
theorem safely_writeTrimOrOffsetChannel (op : RpuWireOp) (afePl afeChannel : UInt8)
    (value : UInt16) (gain : Bool) :
    Safely (writeTrimOrOffsetChannel op afePl afeChannel value gain : BackendProg I ε Unit) := by
  apply safe_bind (safe_trimOrOffsetRegister op afePl)
  intro offset hregister
  obtain ⟨hafe, hop⟩ := hregister
  apply safe_bind (safe_companionChannel afeChannel)
  intro companion hcompanion
  apply safe_bind_of_safely safely_get
  intro backend
  have hcache : Safely (writtenHalves op backend : BackendProg I ε Halves) := by
    rcases hop with rfl | rfl <;> exact safe_pure trivial
  exact safe_bind_of_safely hcache fun cache ↦
    safe_bind_of_safely (safely_index cache hafe) fun halves ↦
    safe_bind_of_safely (safely_setAt halves hcompanion.1 _) fun halves ↦
    safe_bind_of_safely (safely_setAt cache hafe _) fun cache ↦
    safe_bind_of_safely (safely_modify _) fun _ ↦
    safe_bind_of_safely (safely_index halves hcompanion.2) fun _ ↦
    safe_bind_of_safely hio.safely_waitAfeReady fun _ ↦
    safe_bind_of_safely (hio.safely_write _ _) fun _ ↦ hio.safely_waitAfeReady

theorem safely_writeChannelScalar (command : RpuWireCommand) :
    Safely (writeChannelScalar command : BackendProg I ε UInt32) := by
  apply safe_bind_of_safely (safe_ofResult fun _ _ ↦ trivial)
  intro value
  have hwrite (afePl afeChannel : UInt8) : Safely (writeTrimOrOffsetChannel command.op afePl
      afeChannel value (command.flags != 0) : BackendProg I ε Unit) :=
    hio.safely_writeTrimOrOffsetChannel _ _ _ _ _
  apply safe_bind_of_safely
  · unfold writeTargets
    split
    · exact hwrite _ _
    · exact safe_bind_of_safely (safe_ofResult fun _ _ ↦ trivial) fun _ ↦
        safely_forM _ fun _ _ ↦ hwrite _ _
    · exact safely_forM _ fun _ _ ↦ safely_forM _ fun _ _ ↦ hwrite _ _
    · exact safe_fail _
  · exact fun _ ↦ safe_pure trivial

theorem safely_writeScalar (op : RpuWireOp) (afePl : UInt8) (value : UInt32) :
    Safely (writeScalar op afePl value : BackendProg I ε UInt32) := by
  apply safe_bind (safe_validateAfe afePl)
  intro _ hafe
  apply safe_bind_of_safely (safe_ofResult fun _ _ ↦ trivial)
  intro value
  split
  · exact safe_bind_of_safely (safely_index _ hafe) fun _ ↦
      safe_bind_of_safely (hio.safely_writeDacRoute _ _) fun _ ↦
      safe_bind_of_safely (safely_cacheAttenuation hafe _) fun _ ↦ safe_pure trivial
  · exact safe_bind_of_safely (safely_index _ hafe) fun _ ↦
      safe_bind_of_safely (hio.safely_writeDacRoute _ _) fun _ ↦
      safe_bind_of_safely (safely_cacheBias hafe _) fun _ ↦ safe_pure trivial
  · exact safe_fail _

theorem safely_writeVbiasControl (value : UInt32) (enable : Bool) :
    Safely (writeVbiasControl value enable : BackendProg I ε UInt32) :=
  safe_bind_of_safely (safe_ofResult fun _ _ ↦ trivial) fun _ ↦
    safe_bind_of_safely (hio.safely_writeDacRoute _ _) fun _ ↦
    safe_bind_of_safely (hio.safely_write _ _) fun _ ↦
    safe_bind_of_safely (safely_modify _) fun _ ↦ safe_pure trivial

/-! ## Staged records -/

theorem safely_applyStagedChannel (config : RpuWireChannelConfig) :
    Safely (applyStagedChannel config : BackendProg I ε Unit) :=
  safe_bind_of_safely (safe_ofResult fun _ _ ↦ trivial) fun _ ↦
    safe_bind_of_safely (safe_ofResult fun _ _ ↦ trivial) fun _ ↦
    safe_bind_of_safely (hio.safely_writeTrimOrOffsetChannel _ _ _ _ _) fun _ ↦
    hio.safely_writeTrimOrOffsetChannel _ _ _ _ _

/-- Applying an AFE record indexes with the AFE it was staged for, without a check. -/
theorem safely_applyStagedAfe {config : RpuWireAfeConfig} (h : config.afePl.toNat < afeCount) :
    Safely (applyStagedAfe config : BackendProg I ε Unit) := by
  have hbias : Safely (applyStagedBias config : BackendProg I ε Unit) :=
    safe_ite (fun _ ↦ safe_bind_of_safely (safe_ofResult fun _ _ ↦ trivial) fun _ ↦
      safe_bind_of_safely (safely_index _ h) fun _ ↦
      safe_bind_of_safely (hio.safely_writeDacRoute _ _) fun _ ↦ safely_cacheBias h _)
      fun _ ↦ safe_pure trivial
  exact safe_bind_of_safely (safe_ofResult fun _ _ ↦ trivial) fun _ ↦
    safe_bind_of_safely (safely_index _ h) fun _ ↦
    safe_bind_of_safely (hio.safely_writeDacRoute _ _) fun _ ↦
    safe_bind_of_safely (safely_cacheAttenuation h _) fun _ ↦
    safe_bind_of_safely hbias fun _ ↦
    safely_forM _ fun _ _ ↦ safe_bind_of_safely (hio.safely_writeAfeFunction _ _ _)
      fun _ ↦ safe_pure trivial

theorem safely_programStaged {staged : StagedConfig}
    (h : ∀ record ∈ filled staged.afes, record.afePl.toNat < afeCount) :
    Safely (programStaged staged : BackendProg I ε Unit) := by
  have hpower : Safely (setPowerState true : BackendProg I ε Unit) := hio.safely_setPowerState _
  exact safe_bind_of_safely hio.safely_doReset fun _ ↦ safe_bind_of_safely hpower fun _ ↦
    safe_bind_of_safely (safely_forM _ fun record _ ↦ hio.safely_applyStagedChannel record)
      fun _ ↦ safe_bind_of_safely (hio.safely_writeVbiasControl _ _) fun _ ↦
    safe_bind_of_safely (safely_forM _ fun record hrecord ↦
      hio.safely_applyStagedAfe (h record hrecord)) fun _ ↦ hpower

end IoAnswers

end AfeMmioBackend

/-! ## The invariant -/

open AfeMmioBackend

/-- What staging has checked of the records it holds. -/
structure StagedValid (staged : StagedConfig) : Prop where
  afes : ∀ record ∈ filled staged.afes, record.afePl.toNat < afeCount
  channels : ∀ record ∈ filled staged.channels, ValidChannel record

theorem stagedValid_new (counts : RpuWireConfigCounts) : StagedValid (.new counts) where
  afes := by simp [StagedConfig.new]
  channels := by simp [StagedConfig.new]

theorem stagedValid_default : StagedValid .default where
  afes := by simp [StagedConfig.default]
  channels := by simp [StagedConfig.default]

theorem StagedValid.afe {staged : StagedConfig} (h : StagedValid staged)
    {record : RpuWireAfeConfig} (hrecord : record.afePl.toNat < afeCount) :
    StagedValid { staged with afes := store afeSlot staged.afes record } where
  afes other hother := by
    rcases mem_filled_of_store hother with rfl | hother
    · exact hrecord
    · exact h.afes other hother
  channels := h.channels

theorem StagedValid.channel {staged : StagedConfig} (h : StagedValid staged)
    {record : RpuWireChannelConfig} (hrecord : ValidChannel record) :
    StagedValid { staged with channels := store channelSlot staged.channels record } where
  afes := h.afes
  channels other hother := by
    rcases mem_filled_of_store hother with rfl | hother
    · exact hrecord
    · exact h.channels other hother

section Steps

variable {I ε : Type} [RegisterIo I ε]

/-- Whatever a call does and however it ends, what is staged then has been checked. -/
theorem within_stagedValid (call : HardwareCall) :
    Within (.invariant fun backend : AfeMmioBackend I ↦ StagedValid backend.stagedConfig)
      call.perform := by
  intro backend
  by_cases hconfigures : call.configures
  · cases call with
    | beginConfigureFrontend counts => exact fun _ ↦ stagedValid_new counts
    | configureAfe record =>
      apply (wp_map _ _).mpr
      apply wp_mono (wp_configureAfe record backend)
      · rintro _ backend' ⟨-, hrecord, rfl⟩ h
        exact h.afe hrecord
      · rintro _ backend' rfl h
        exact h
    | configureChannel record =>
      apply (wp_map _ _).mpr
      apply wp_mono (wp_configureChannel record backend)
      · rintro _ backend' ⟨-, hrecord, rfl⟩ h
        exact h.channel hrecord
      · rintro _ backend' rfl h
        exact h
    | applyConfigureFrontend =>
      apply (wp_map _ _).mpr
      apply wp_mono (wp_applyConfigureFrontend_staged backend)
      · intro _ backend' hstaged _
        rw [hstaged.2]
        exact stagedValid_default
      · intro _ backend' hstaged h
        rwa [hstaged]
    | _ => exact absurd hconfigures fun h ↦ h
  · have hkeeps {backend' : AfeMmioBackend I} (hrel : keepsStaged.rel backend backend')
        (h : StagedValid backend.stagedConfig) : StagedValid backend'.stagedConfig := by
      rw [show backend'.stagedConfig = backend.stagedConfig from hrel]
      exact h
    exact wp_mono (keepsStaged_perform hconfigures backend) (fun _ _ ↦ hkeeps) fun _ _ ↦ hkeeps

theorem stagedValid_step {runtime : RpuRuntime (AfeMmioBackend I)}
    (h : StagedValid runtime.hardware.stagedConfig) (event : RuntimeEvent) :
    StagedValid (step runtime event).hardware.stagedConfig := by
  cases event with
  | setInterlock interlock => exact h
  | frame input =>
    rcases step_frame_cases runtime input with
      ⟨hstep, -⟩ | ⟨_, call, _, -, ⟨_, _, hperform, hstep, -⟩ | ⟨_, _, hperform, hstep, -⟩⟩
    · rwa [hstep]
    · rw [hstep]
      exact (within_stagedValid call).ok hperform h
    · rw [hstep]
      exact (within_stagedValid call).error hperform h

/-- A call never stops as long as the staged records have been checked. -/
theorem perform_safely (hio : IoAnswers I) (call : HardwareCall) {backend : AfeMmioBackend I}
    (h : StagedValid backend.stagedConfig) :
    wp call.perform (fun _ _ ↦ True) (fun abort _ ↦ abort ≠ .panic) backend := by
  cases call with
  | readRegister => exact safely_map (hio.safely_readRegister _ _) backend
  | writeRegister => exact safely_map (hio.safely_writeRegister _ _ _) backend
  | readScalar => exact safely_map (safely_readScalar _ _) backend
  | writeScalar => exact safely_map (hio.safely_writeScalar _ _ _) backend
  | readChannelScalar =>
    exact safely_map (safe_bind (safe_failIf _ _) fun _ _ ↦
      safely_readTrimOrOffsetChannel _ _ _) backend
  | writeChannelScalar => exact safely_map (hio.safely_writeChannelScalar _) backend
  | readVbiasControl =>
    have hread : Safely (readVbiasControl : BackendProg I ε UInt32) :=
      safe_bind_of_safely safely_get fun _ ↦ safe_pure trivial
    exact safely_map hread backend
  | writeVbiasControl => exact safely_map (hio.safely_writeVbiasControl _ _) backend
  | setReset => exact safely_map (hio.safely_setReset _) backend
  | doReset => exact safely_map hio.safely_doReset backend
  | setPowerState => exact safely_map (hio.safely_setPowerState _) backend
  | align => exact safely_map hio.safely_alignFrontend backend
  | writeFunction => exact safely_map (hio.safely_writeAfeFunction _ _ _) backend
  | beginConfigureFrontend => exact safely_map (safely_modify _) backend
  | configureAfe record =>
    apply safely_map
    apply safe_bind (safe_validateAfe _)
    intro _ hafe
    exact safe_bind_of_safely safely_get fun _ ↦ safe_bind (safe_failIf _ _) fun _ _ ↦
      safe_bind_of_safely (safely_setAt _ hafe _) fun _ ↦ safely_modify _
  | configureChannel record =>
    apply safely_map
    apply safe_bind (safe_validateAfe _)
    intro _ _
    apply safe_bind (safe_failIf _ _)
    intro _ hchannel
    have hslot := Nat.lt_of_not_ge (not_or.mp hchannel).2
    exact safe_bind_of_safely safely_get fun _ ↦ safe_bind (safe_failIf _ _) fun _ _ ↦
      safe_bind_of_safely (safely_setAt _ hslot _) fun _ ↦ safely_modify _
  | applyConfigureFrontend =>
    apply (wp_map _ _).mpr
    -- The only call that relies on what an earlier frame has checked.
    have happly : Safely (failIf (backend.stagedConfig.active = false) MmioAfeError.unsupported >>=
        fun _ ↦ ofResult backend.stagedConfig.validateCounts >>= fun _ ↦
        programStaged backend.stagedConfig >>= fun _ ↦
        modify fun backend ↦ { backend with stagedConfig := .default } :
          BackendProg I ε PUnit) :=
      safe_bind (safe_failIf _ _) fun _ _ ↦
        safe_bind_of_safely (safe_ofResult fun _ _ ↦ trivial) fun _ ↦
        safe_bind_of_safely (hio.safely_programStaged h.afes) fun _ ↦ safely_modify _
    exact happly backend

end Steps

/-! ## Runs -/

/-- After every run, what is staged has been checked, and every further frame is answered: no step
of a run stops at a check. -/
theorem frames_never_stop {I ε : Type} [RegisterIo I ε] (hio : IoAnswers I) (io : I)
    (config : MmioAfeConfig) (events : List RuntimeEvent) :
    let runtime : RpuRuntime (AfeMmioBackend I) := run (.new (withConfig io config)) events
    StagedValid runtime.hardware.stagedConfig ∧
    ∀ input : HandledFrame, ∃ bytes runtime',
      RpuRuntime.handleFrame input.bytes runtime = .ok bytes runtime' := by
  intro runtime
  have hstaged : StagedValid runtime.hardware.stagedConfig :=
    run_invariant
      (I := fun runtime : RpuRuntime (AfeMmioBackend I) ↦ StagedValid runtime.hardware.stagedConfig)
      (fun _ event h ↦ stagedValid_step h event) stagedValid_default events
  refine ⟨hstaged, fun input ↦ ?_⟩
  have hhandles := RpuRuntime.handles input.bytes runtime
  cases hresult : RpuRuntime.handleFrame input.bytes runtime with
  | ok bytes runtime' => exact ⟨bytes, runtime', rfl⟩
  | error abort runtime' =>
    rw [hresult] at hhandles
    cases hhandles with
    | panicked _ _ _ _ hperform =>
      exact absurd rfl (post_of_error (perform_safely hio _ hstaged) hperform)

/-- The last AFE with the last of its channels, which is the last channel of all. -/
def lastChannel : ChannelFrontendConfig := ⟨⟨39, ⟨4, 1, rfl⟩, 7, rfl, rfl⟩, 300, 400, 0⟩

def lastAfe : AfeFrontendConfig :=
  ⟨lastChannel.channel.afe, 100, 0, ⟨false, false, false⟩, ⟨0, false, false⟩, ⟨0, 0, false⟩⟩

def lnaGainCommand : RpuWireCommand :=
  { (RpuWireCommand.status 4).setAfe lastAfe.afe with
    op := .writeFunction
    value := 2
    payload := Bytes.put (Vector.replicate _ 0) 0 (8 :: "LNA_GAIN".toUTF8.data.toList) }

/-- Frames that stage a record for the last slots. -/
def stagingEvents : List RuntimeEvent :=
  [.setInterlock .ready,
    .frame (.ofCommand (RpuWireCommand.beginFrame [lastAfe] [lastChannel] 600 1) nofun),
    .frame (.ofCommand (RpuWireCommand.afeFrame lastAfe 2) nofun),
    .frame (.ofCommand (RpuWireCommand.channelFrame lastChannel 3) nofun)]

theorem run_stagingEvents (runtime : RpuRuntime (AfeMmioBackend ZeroIo)) :
    run runtime stagingEvents =
      [RpuWireCommand.beginFrame [lastAfe] [lastChannel] 600 1, RpuWireCommand.afeFrame lastAfe 2,
        RpuWireCommand.channelFrame lastChannel 3].foldl stepFrame
        (runtime.setInterlock .ready) := by
  rw [stagingEvents, run_cons, run_cons, run_cons, run_cons, run_nil, step_setInterlock,
    ← stepFrame_eq_step, ← stepFrame_eq_step, ← stepFrame_eq_step, List.foldl_cons,
    List.foldl_cons, List.foldl_cons, List.foldl_nil]

/-- After these frames the slots are filled and the staged records valid, a function is written,
and the frame that applies the records is answered. -/
theorem frames_never_stop_staged :
    let runtime : RpuRuntime (AfeMmioBackend ZeroIo) :=
      run (.new (withConfig ZeroIo.mk .default)) stagingEvents
    ((filled runtime.hardware.stagedConfig.afes).map (·.afePl) = [1] ∧
      (filled runtime.hardware.stagedConfig.channels).map
        (fun record ↦ (record.channel, record.afeChannel)) = [(39, 7)] ∧
      applied runtime lnaGainCommand = true) ∧
    StagedValid runtime.hardware.stagedConfig ∧
    ∃ bytes runtime', RpuRuntime.handleFrame
      (RpuWireCommand.applyFrame [lastAfe] [lastChannel] 5).encode runtime =
        .ok bytes runtime' := by
  intro runtime
  have hio : IoAnswers ZeroIo := ⟨fun _ ↦ safe_pure trivial, fun _ _ ↦ safe_pure trivial⟩
  obtain ⟨hstaged, hanswers⟩ := frames_never_stop hio ZeroIo.mk .default stagingEvents
  refine ⟨?_, hstaged,
    hanswers (.ofCommand (RpuWireCommand.applyFrame [lastAfe] [lastChannel] 5) nofun)⟩
  rw [show runtime = _ from run_stagingEvents _]
  simp only [List.foldl_cons, List.foldl_nil, stepFrame_eq, applied, replyTo_eq]
  decide +kernel

end DaphneSc.Rpu.Mmio
