import DaphneSc.Rpu.Hardware
import DaphneSc.Rpu.RegisterFile

/-!
# The delay VTC after an alignment

An alignment disables the delay VTC, waits for the delay controller, searches the boards, and then
enables the delay VTC again whether or not the search went well. The wait has an exit of its own
before that: the delay VTC is left disabled exactly when the delay controller is never ready.
-/

namespace DaphneSc.Rpu.Mmio.AfeMmioBackend

open Core.Afe Core.AfeHw Program RegisterFile

/-! ## The parts of an alignment -/

section Parts

variable {I ε : Type} [RegisterIo I ε]

/-- The part before the wait. -/
def prepareAlignment : BackendProg I ε Unit := do
  resetFrontendDelayValues
  pulseFrontendControlBit frontendDelayctrlResetBit
  pulseFrontendControlBit frontendSerdesResetBit
  setFrontendDelayVtc false

def searchBoard (afeBoard : UInt8) : BackendProg I ε Unit := do
  setBestFrontendDelay afeBoard
  setBestFrontendBitslip afeBoard

/-- The part after the wait. -/
def searchBoards : BackendProg I ε Unit := do
  let result ← attempt ((upTo afeCount).forM searchBoard)
  let vtcResult ← attempt (setFrontendDelayVtc true)
  ofResult result
  ofResult vtcResult

theorem alignFrontend_eq : (alignFrontend : BackendProg I ε Unit) =
    prepareAlignment >>= fun _ ↦ waitFrontendDelayctrlReady >>= fun _ ↦ searchBoards := by
  unfold alignFrontend prepareAlignment searchBoards searchBoard
  simp only [bind_assoc]

end Parts

/-! ## The delay VTC bit -/

/-- The delay VTC bit of the value last written to the control register. -/
def vtcBit (s : AfeMmioBackend HardwareIo) : Option UInt32 :=
  (lastWritten frontendControlOffset s.io.history).map fun value ↦ bit value frontendDelayEnVtcBit

theorem bit_vtc_withBit (value : UInt32) (asserted : Bool) :
    bit (withBit value frontendDelayEnVtcBit asserted) frontendDelayEnVtcBit =
      asserted.toUInt32 := by
  calc bit (withBit value frontendDelayEnVtcBit asserted) frontendDelayEnVtcBit
      = (withBit value frontendDelayEnVtcBit asserted &&& bitMask frontendDelayEnVtcBit) >>> 2 :=
        shiftRight_and_eq (by decide) _
    _ = (if asserted then bitMask frontendDelayEnVtcBit else 0) >>> 2 := by
        rw [withBit_and_self]
    _ = asserted.toUInt32 := by
        cases asserted with
        | false => rfl
        | true => rfl

theorem wp_setFrontendDelayVtc (enabled : Bool) (s : AfeMmioBackend HardwareIo) :
    wp (setFrontendDelayVtc enabled) (fun _ t ↦ vtcBit t = some enabled.toUInt32)
      (fun _ _ ↦ False) s := by
  have hlast : ∀ value read : UInt32,
      lastWritten frontendControlOffset (s.io.history ++
        [.read frontendControlOffset read, .write frontendControlOffset value]) = some value := by
    intro value read
    simp [lastWritten, Access.writtenTo]
  unfold wp setFrontendDelayVtc
  rw [run_setBit _ (by decide)]
  change (lastWritten frontendControlOffset (s.io.history ++ _)).map _ = _
  rw [hlast, Option.map_some]
  exact congrArg some (bit_vtc_withBit _ enabled)

/-! ## Before the wait -/

theorem returns_setBit (offset : UInt32) {bitIndex : UInt8} (h : bitIndex.toNat < 32)
    (asserted : Bool) (s : AfeMmioBackend HardwareIo) :
    wp (setBit offset bitIndex asserted) (fun _ _ ↦ True) (fun _ _ ↦ False) s := by
  unfold wp
  rw [run_setBit offset h]
  trivial

theorem returns_pulseFrontendControlBit {bitIndex : UInt8} (h : bitIndex.toNat < 32)
    (s : AfeMmioBackend HardwareIo) :
    wp (pulseFrontendControlBit bitIndex) (fun _ _ ↦ True) (fun _ _ ↦ False) s := by
  unfold pulseFrontendControlBit
  rw [wp_bind]
  exact wp_mono (returns_setBit _ h _ s) (fun _ t _ ↦ returns_setBit _ h _ t) fun _ _ h ↦ h

theorem returns_resetFrontendDelayValues (s : AfeMmioBackend HardwareIo) :
    wp resetFrontendDelayValues (fun _ _ ↦ True) (fun _ _ ↦ False) s := by
  apply wp_forM (fun _ _ ↦ True)
  · intro visited afeBoard rest t hsplit _
    have hboard : afeBoard.toNat < afeCount := by
      apply toNat_lt_of_mem_upTo
      rw [hsplit]
      exact List.mem_append_right _ List.mem_cons_self
    unfold wp
    rw [run_bind, run_setFrontendBitslip hboard (by decide)]
    dsimp only
    rw [run_setFrontendDelay hboard (by decide)]
    trivial
  · trivial

/-- The delay VTC is disabled when the wait begins. -/
theorem wp_prepareAlignment (s : AfeMmioBackend HardwareIo) :
    wp prepareAlignment (fun _ t ↦ vtcBit t = some 0) (fun _ _ ↦ False) s := by
  unfold prepareAlignment
  rw [wp_bind]
  apply wp_mono (returns_resetFrontendDelayValues s) _ fun _ _ h ↦ h
  intro _ s₁ _
  rw [wp_bind]
  apply wp_mono (returns_pulseFrontendControlBit (by decide) s₁) _ fun _ _ h ↦ h
  intro _ s₂ _
  rw [wp_bind]
  apply wp_mono (returns_pulseFrontendControlBit (by decide) s₂) _ fun _ _ h ↦ h
  intro _ s₃ _
  exact wp_setFrontendDelayVtc false s₃

/-! ## After the wait -/

/-- The delay VTC is enabled however the search ends. -/
theorem wp_searchBoards (s : AfeMmioBackend HardwareIo) :
    wp searchBoards (fun _ t ↦ vtcBit t = some 1) (fun _ t ↦ vtcBit t = some 1) s := by
  have hsearch : Safely ((upTo afeCount).forM searchBoard : BackendProg HardwareIo Empty Unit) :=
    safely_forM _ fun afeBoard _ ↦
      safe_bind_of_safely (ioAnswers_hardware.safely_setBestFrontendDelay afeBoard) fun _ ↦
        ioAnswers_hardware.safely_setBestFrontendBitslip afeBoard
  have henable : ∀ (result : Except (MmioAfeError Empty) Unit) (t : AfeMmioBackend HardwareIo),
      wp (attempt (setFrontendDelayVtc true) >>= fun vtcResult ↦
          ofResult result >>= fun _ ↦ ofResult vtcResult)
        (fun _ t ↦ vtcBit t = some 1) (fun _ t ↦ vtcBit t = some 1) t := by
    intro result t
    rw [wp_bind, wp_attempt]
    apply wp_mono (wp_setFrontendDelayVtc true t) _ fun _ _ h ↦ absurd h id
    intro value t' ht'
    rw [wp_bind, wp_ofResult]
    exact ⟨fun _ _ ↦ ht', fun _ _ ↦ ht'⟩
  unfold searchBoards
  rw [wp_bind, wp_attempt]
  apply wp_mono (hsearch s)
  · exact fun _ t _ ↦ henable _ t
  · intro abort t hpanic
    cases abort with
    | error err => exact henable _ t
    | panic => exact absurd rfl hpanic

/-! ## The wait -/

/-- The delay controller is ready in one of the readings the wait takes. -/
def DelayctrlReady (s : AfeMmioBackend HardwareIo) : Prop :=
  ∃ count < s.config.spinLimit.toNat,
    bit (reading frontendStatusOffset s count) frontendDelayctrlReadyBit ≠ 0

theorem waitFrontendDelayctrlReady_ready {s : AfeMmioBackend HardwareIo} (h : DelayctrlReady s) :
    ∃ t, waitFrontendDelayctrlReady s = .ok () t := by
  rw [waitFrontendDelayctrlReady_eq, run_get_bind]
  apply poll_of_accepted frontendStatusOffset
  obtain ⟨count, hlt, hready⟩ := h
  exact ⟨count, hlt, bne_iff_ne.mpr hready⟩

/-- Without the delay controller the wait times out and the delay VTC is left as it was. -/
theorem waitFrontendDelayctrlReady_timeout {s : AfeMmioBackend HardwareIo}
    (h : ¬ DelayctrlReady s) :
    ∃ t, waitFrontendDelayctrlReady s = .error (.error .timeout) t ∧ vtcBit t = vtcBit s := by
  rw [waitFrontendDelayctrlReady_eq, run_get_bind]
  have hnot : ¬ ∃ count < s.config.spinLimit.toNat,
      (bit (reading frontendStatusOffset s count) frontendDelayctrlReadyBit != 0) = true := by
    rintro ⟨count, hlt, hready⟩
    exact h ⟨count, hlt, bne_iff_ne.mp hready⟩
  obtain ⟨t, ht⟩ := poll_of_not_accepted frontendStatusOffset
    (fun value ↦ bit value frontendDelayctrlReadyBit != 0) hnot
  have hkept := (lastWritten_poll frontendStatusOffset frontendControlOffset _ _).error ht
  refine ⟨t, ht, ?_⟩
  rw [vtcBit, vtcBit, Bound.keeps_rel.mp hkept]

/-- The part before the wait returns with the delay VTC disabled. -/
theorem prepareAlignment_returns (s : AfeMmioBackend HardwareIo) :
    prepareAlignment s = .ok () (final prepareAlignment s) ∧
      vtcBit (final prepareAlignment s) = some 0 := by
  have hprepared := wp_prepareAlignment s
  unfold wp at hprepared
  unfold final
  cases hprepare : prepareAlignment s with
  | error abort t =>
    rw [hprepare] at hprepared
    exact hprepared.elim
  | ok value t =>
    rw [hprepare] at hprepared
    exact ⟨rfl, hprepared⟩

theorem alignFrontend_of_prepared (s : AfeMmioBackend HardwareIo) :
    alignFrontend s = (waitFrontendDelayctrlReady >>= fun _ ↦ searchBoards :
      BackendProg HardwareIo Empty Unit) (final prepareAlignment s) := by
  rw [alignFrontend_eq, run_bind, (prepareAlignment_returns s).1]

/-- When the delay controller does not get ready, an alignment times out and leaves the delay VTC
disabled. -/
theorem alignFrontend_timeout {s : AfeMmioBackend HardwareIo}
    (h : ¬ DelayctrlReady (final prepareAlignment s)) :
    ∃ t, alignFrontend s = .error (.error .timeout) t ∧ vtcBit t = some 0 := by
  obtain ⟨t, hwait, hkept⟩ := waitFrontendDelayctrlReady_timeout h
  refine ⟨t, ?_, hkept.trans (prepareAlignment_returns s).2⟩
  rw [alignFrontend_of_prepared, run_bind, hwait]

/-- Whatever the hardware answers, an alignment leaves the delay VTC enabled exactly when the delay
controller gets ready after the delay VTC was disabled, within the readings the wait takes. -/
theorem vtc_enabled_iff (s : AfeMmioBackend HardwareIo) :
    vtcBit (final alignFrontend s) = some 1 ↔ DelayctrlReady (final prepareAlignment s) := by
  by_cases hready : DelayctrlReady (final prepareAlignment s)
  · obtain ⟨u, hwait⟩ := waitFrontendDelayctrlReady_ready hready
    have hsearch : final alignFrontend s = final searchBoards u := by
      unfold final
      rw [alignFrontend_of_prepared, run_bind, hwait]
    rw [hsearch]
    exact iff_of_true (final_of_wp (wp_searchBoards u)) hready
  · obtain ⟨t, halign, hdisabled⟩ := alignFrontend_timeout hready
    rw [final_of_error halign, hdisabled]
    exact iff_of_false (by decide) hready

/-! ## A delay controller that never gets ready -/

/-- The control register reads back what was last written to it. -/
def ReadsBackControl (s : AfeMmioBackend HardwareIo) : Prop :=
  ∀ history value, lastWritten frontendControlOffset history = some value →
    s.io.answer history frontendControlOffset = value

/-- Hardware whose control register reads back and whose other registers read as zero, waited for
once. -/
def neverReady : AfeMmioBackend HardwareIo :=
  AfeMmioBackend.withConfig ⟨fun history offset ↦
    if offset = frontendControlOffset then (lastWritten offset history).getD 0 else 0, []⟩ ⟨1⟩

/-- The alignment times out and leaves the delay VTC disabled. -/
theorem neverReady_left_disabled :
    ReadsBackControl neverReady ∧
      ∃ t, alignFrontend neverReady = .error (.error .timeout) t ∧ vtcBit t = some 0 := by
  constructor
  · intro history value hlast
    change (lastWritten frontendControlOffset history).getD 0 = value
    rw [hlast, Option.getD_some]
  · apply alignFrontend_timeout
    rintro ⟨count, hlt, hready⟩
    obtain rfl : count = 0 := Nat.lt_one_iff.mp hlt
    exact hready rfl

end DaphneSc.Rpu.Mmio.AfeMmioBackend
