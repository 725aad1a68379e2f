import DaphneSc.Rpu.Hardware
import DaphneSc.Runs.Longest

/-!
# The search for the delay of a board

All delay taps are tried in order, and the frame-clock word is read at each of them. The search
keeps the first of the longest runs of equal words and writes the tap in its middle.
-/

namespace DaphneSc.Rpu.Mmio.AfeMmioBackend

open Core.Afe Core.AfeHw Program Runs

/-! ## Snapshots -/

/-- The register of a board's frame-clock word. -/
def frameClockRegister (afeBoard : UInt8) : UInt32 :=
  spyBufferBaseOffset + spyBufferAfeStride * afeBoard.toUInt32 +
    spyBufferChannelStride * spyBufferFrameClockChannel.toUInt32 + 0 * 4

/-- The accesses of a snapshot that reads a word. -/
def snapshot (afeBoard : UInt8) (word : UInt32) : List Access :=
  [.write frontendTriggerOffset frontendTriggerWord, .read (frameClockRegister afeBoard) word]

theorem run_scanFrontendWordAfterWrite {afeBoard : UInt8} (hboard : afeBoard.toNat < afeCount)
    (s : AfeMmioBackend HardwareIo) :
    ∃ word, scanFrontendWordAfterWrite afeBoard s =
      .ok word (s.after (snapshot afeBoard word)) := by
  have hoffset : spyBufferFrameClockOffset afeBoard 0 = some (frameClockRegister afeBoard) :=
    if_pos ⟨hboard, UInt8.le_refl _⟩
  refine ⟨(s.after [.write frontendTriggerOffset frontendTriggerWord]).io.next
    (frameClockRegister afeBoard), ?_⟩
  unfold scanFrontendWordAfterWrite triggerFrontendSnapshot readFrameClock
  rw [run_bind, run_write, frameClockOffset_eq, hoffset, okOr_some, pure_bind]
  dsimp only
  rw [run_read, after_after]
  rfl

/-! ## The scan -/

/-- The accesses of one tap of a scan of a register. -/
def tapAccesses (register : UInt32) (afeBoard : UInt8) (word : UInt32) (tap : ℕ) : List Access :=
  .write register (UInt32.ofNat tap) :: snapshot afeBoard word

/-- The accesses of a scan that reads the given words, tap by tap. -/
def scanAccesses (register : UInt32) (afeBoard : UInt8) (words : List UInt32) : List Access :=
  words.zipIdx.flatMap fun (word, tap) ↦ tapAccesses register afeBoard word tap

theorem scanAccesses_append (register : UInt32) (afeBoard : UInt8) (words : List UInt32)
    (word : UInt32) :
    scanAccesses register afeBoard (words ++ [word]) = scanAccesses register afeBoard words ++
      tapAccesses register afeBoard word words.length := by
  simp [scanAccesses, List.zipIdx_append]

/-- What a scan knows of the words seen so far: the run in progress and the best run before it. -/
structure Scanned (words : List UInt32) (scan : DelayScan) : Prop where
  havePrevious : scan.havePrevious = true
  previous : words[scan.currentStart.toNat]? = some scan.previousWord
  current : InProgress words scan.currentStart.toNat scan.currentLen.toNat
  best : BestUpTo words scan.currentStart.toNat scan.bestStart.toNat scan.bestLen.toNat

/-- What a scan knows after some words, also before the first one. -/
def Knows (words : List UInt32) (scan : DelayScan) : Prop :=
  (words = [] ∧ scan = DelayScan.start) ∨ Scanned words scan

theorem Knows.length_le {words : List UInt32} {scan : DelayScan} (h : Knows words scan) :
    scan.currentLen.toNat ≤ words.length := by
  rcases h with ⟨-, rfl⟩ | hscanned
  · exact Nat.zero_le _
  · have hstop := hscanned.current.stop
    omega

theorem keepBest_eq (scan : DelayScan) :
    (scan.keepBest.bestStart.toNat, scan.keepBest.bestLen.toNat) =
      better (scan.bestStart.toNat, scan.bestLen.toNat)
        (scan.currentStart.toNat, scan.currentLen.toNat) := by
  unfold DelayScan.keepBest better
  by_cases hlonger : scan.currentLen > scan.bestLen
  · rw [if_pos hlonger, if_pos (UInt32.lt_iff_toNat_lt.mp hlonger)]
  · rw [if_neg hlonger, if_neg (fun h ↦ hlonger (UInt32.lt_iff_toNat_lt.mpr h))]

/-- A word equal to the one before extends the run in progress. -/
theorem Scanned.extend {words : List UInt32} {scan : DelayScan} (h : Scanned words scan)
    (hlen : words.length < 2 ^ 32 - 1) :
    Scanned (words ++ [scan.previousWord])
      { scan with currentLen := scan.currentLen + 1 } := by
  have hstop := h.current.stop
  have hpos := h.current.pos
  have hsucc : (scan.currentLen + 1).toNat = scan.currentLen.toNat + 1 := by
    rw [UInt32.toNat_add]
    change (scan.currentLen.toNat + 1) % 2 ^ 32 = _
    omega
  have hlt : scan.currentStart.toNat < words.length := h.current.start_lt
  refine ⟨h.havePrevious, ?_, ?_, ?_⟩
  · dsimp only
    rw [getElem?_append_of_lt hlt]
    exact h.previous
  · dsimp only
    rw [hsucc]
    exact h.current.extend h.previous
  · exact h.best.append hlt _

/-- A different word starts a run of its own. -/
theorem Scanned.break {words : List UInt32} {scan : DelayScan} (h : Scanned words scan)
    {tap word : UInt32} (htap : tap.toNat = words.length) (hne : word ≠ scan.previousWord) :
    Scanned (words ++ [word])
      { scan.keepBest with
        currentStart := tap
        currentLen := 1
        previousWord := word
        havePrevious := true } := by
  have hne' : words[scan.currentStart.toNat]? ≠ some word := by
    rw [h.previous]
    exact fun heq ↦ hne (Option.some.inj heq).symm
  have hbest := bestUpTo_better (scan.bestStart.toNat, scan.bestLen.toNat)
    (scan.currentStart.toNat, scan.currentLen.toNat) h.best h.current hne'
  rw [← keepBest_eq] at hbest
  refine ⟨rfl, ?_, ?_, ?_⟩
  · dsimp only
    rw [htap, List.getElem?_concat_length]
  · dsimp only
    rw [htap]
    exact h.current.break hne'
  · dsimp only
    rw [htap]
    exact hbest

/-- The first word starts the first run. -/
theorem scanned_singleton {tap : UInt32} (htap : tap.toNat = 0) (word : UInt32) :
    Scanned [word]
      { DelayScan.start.keepBest with
        currentStart := tap
        currentLen := 1
        previousWord := word
        havePrevious := true } := by
  refine ⟨rfl, ?_, ?_, ?_⟩
  · dsimp only
    rw [htap]
    rfl
  · dsimp only
    rw [htap]
    exact inProgress_singleton word
  · dsimp only
    rw [htap]
    exact bestUpTo_zero _

/-- One tap of the scan. -/
theorem run_scanDelayTap {afeBoard : UInt8} (hboard : afeBoard.toNat < afeCount)
    {words : List UInt32} {scan : DelayScan} (hknows : Knows words scan) {tap : UInt32}
    (htap : tap.toNat = words.length) (hlimit : words.length < 512)
    (s : AfeMmioBackend HardwareIo) :
    ∃ word scan', scanDelayTap afeBoard scan tap s =
        .ok scan' (s.after (tapAccesses (delayRegister afeBoard) afeBoard word words.length)) ∧
      Knows (words ++ [word]) scan' := by
  have hvalue : tap < frontendDelayTaps := UInt32.lt_iff_toNat_lt.mpr (htap ▸ hlimit)
  have htap' : tap = UInt32.ofNat words.length := by
    rw [← htap, UInt32.ofNat_toNat]
  obtain ⟨word, hword⟩ := run_scanFrontendWordAfterWrite hboard
    (s.after [.write (delayRegister afeBoard) tap])
  rw [after_after] at hword
  unfold scanDelayTap
  rw [run_bind, run_setFrontendDelay hboard hvalue]
  dsimp only
  rw [run_bind, hword]
  dsimp only
  rw [htap']
  rcases hknows with ⟨rfl, rfl⟩ | hscanned
  · exact ⟨word, _, rfl, Or.inr (scanned_singleton (htap'.symm ▸ htap) word)⟩
  · by_cases hsame : word = scan.previousWord
    · subst hsame
      have hcontinues : (scan.havePrevious && scan.previousWord == scan.previousWord) = true := by
        rw [hscanned.havePrevious, beq_self_eq_true, Bool.and_self]
      have hstop := hscanned.current.stop
      have hone : (1 : UInt32).toNat = 1 := rfl
      have hlen : scan.currentLen.toNat + (1 : UInt32).toNat < 2 ^ 32 := by omega
      have hadd : (checkedAdd scan.currentLen 1 : BackendProg HardwareIo Empty UInt32) =
          pure (scan.currentLen + 1) := checkedAdd_of_lt _ _ hlen
      rw [if_pos hcontinues, hadd, pure_bind]
      exact ⟨_, _, rfl, Or.inr (hscanned.extend (by omega))⟩
    · have hbreaks : ¬ (scan.havePrevious && word == scan.previousWord) = true := fun h ↦
        hsame (eq_of_beq (Bool.and_elim_right h))
      rw [if_neg hbreaks]
      exact ⟨word, _, rfl, Or.inr (hscanned.break (htap'.symm ▸ htap) hsame)⟩

/-- The whole scan. -/
theorem run_delayScan {afeBoard : UInt8} (hboard : afeBoard.toNat < afeCount)
    (s : AfeMmioBackend HardwareIo) :
    ∃ words scan, words.length = 512 ∧ Knows words scan ∧
      (taps frontendDelayTaps).foldlM (scanDelayTap afeBoard) DelayScan.start s =
        .ok scan (s.after (scanAccesses (delayRegister afeBoard) afeBoard words)) := by
  have hloop := wp_foldlM (f := scanDelayTap afeBoard) (E := fun _ _ ↦ False)
    (fun visited scan t ↦ ∃ words, words.length = visited.length ∧ Knows words scan ∧
      t = s.after (scanAccesses (delayRegister afeBoard) afeBoard words))
    (taps frontendDelayTaps) ?_ (b := DelayScan.start) (s := s) ⟨[], rfl, Or.inl ⟨rfl, rfl⟩, ?_⟩
  · obtain ⟨scan, t, hrun, words, hlength, hknows, rfl⟩ := ok_of_wp hloop
    rw [length_taps] at hlength
    exact ⟨words, scan, hlength, hknows, hrun⟩
  · rintro visited tap rest scan t hsplit ⟨words, hlength, hknows, rfl⟩
    have hget : (taps frontendDelayTaps)[words.length]? = some tap := by
      rw [hsplit, hlength]
      simp
    obtain ⟨hlt, htap⟩ := toNat_of_taps hget
    obtain ⟨word, scan', hrun, hknows'⟩ := run_scanDelayTap hboard hknows htap hlt
      (s.after (scanAccesses (delayRegister afeBoard) afeBoard words))
    unfold wp
    rw [hrun, after_after, ← scanAccesses_append]
    exact ⟨words ++ [word], by simp [hlength], hknows', rfl⟩
  · exact (after_nil s).symm

/-! ## The delay written -/

/-- The search returns, and the last delay it writes is in the middle of the first of the longest
runs of equal words. -/
theorem run_setBestFrontendDelay {afeBoard : UInt8} (hboard : afeBoard.toNat < afeCount)
    (s : AfeMmioBackend HardwareIo) :
    ∃ words start length, words.length = 512 ∧ IsFirstLongestRun words start length ∧
      setBestFrontendDelay afeBoard s = .ok () (s.after
        (scanAccesses (delayRegister afeBoard) afeBoard words ++
          [.write (delayRegister afeBoard) (UInt32.ofNat (start + (length - 1) / 2))])) := by
  obtain ⟨words, scan, hlength, hknows, hscan⟩ := run_delayScan hboard s
  rcases hknows with ⟨rfl, -⟩ | hscanned
  · exact absurd hlength (by decide)
  · have hbest := isFirstLongestRun_better (scan.bestStart.toNat, scan.bestLen.toNat)
      (scan.currentStart.toNat, scan.currentLen.toNat) hscanned.best hscanned.current
    rw [← keepBest_eq] at hbest
    have hpos : 1 ≤ scan.keepBest.bestLen.toNat := hbest.pos
    have hle : scan.keepBest.bestStart.toNat + scan.keepBest.bestLen.toNat ≤ words.length :=
      hbest.le
    refine ⟨words, _, _, hlength, hbest, ?_⟩
    have hfound : ¬ scan.keepBest.bestLen = 0 := by
      intro hzero
      rw [hzero] at hpos
      exact absurd hpos (by decide)
    have hone : (1 : UInt32) ≤ scan.keepBest.bestLen := UInt32.le_iff_toNat_le.mpr hpos
    have hlast : (scan.keepBest.bestLen - 1).toNat = scan.keepBest.bestLen.toNat - 1 :=
      UInt32.toNat_sub_of_le _ _ hone
    have hhalf : ((scan.keepBest.bestLen - 1) / 2).toNat =
        (scan.keepBest.bestLen.toNat - 1) / 2 := by
      rw [UInt32.toNat_div, hlast]
      rfl
    have hsub : (checkedSub scan.keepBest.bestLen 1 : BackendProg HardwareIo Empty UInt32) =
        pure (scan.keepBest.bestLen - 1) := checkedSub_of_le _ _ hpos
    have hcentre : scan.keepBest.bestStart.toNat + ((scan.keepBest.bestLen - 1) / 2).toNat <
        2 ^ 32 := by omega
    have hadd : (checkedAdd scan.keepBest.bestStart ((scan.keepBest.bestLen - 1) / 2) :
        BackendProg HardwareIo Empty UInt32) =
          pure (scan.keepBest.bestStart + (scan.keepBest.bestLen - 1) / 2) :=
      checkedAdd_of_lt _ _ hcentre
    have hdelay : (scan.keepBest.bestStart + (scan.keepBest.bestLen - 1) / 2).toNat =
        scan.keepBest.bestStart.toNat + (scan.keepBest.bestLen.toNat - 1) / 2 := by
      rw [UInt32.toNat_add, hhalf]
      omega
    have hvalue : scan.keepBest.bestStart + (scan.keepBest.bestLen - 1) / 2 <
        frontendDelayTaps := by
      apply UInt32.lt_iff_toNat_lt.mpr
      change _ < 512
      omega
    unfold setBestFrontendDelay
    rw [run_bind, hscan]
    dsimp only
    rw [failIf, if_neg hfound, pure_bind, hsub, pure_bind, hadd, pure_bind,
      run_setFrontendDelay hboard hvalue, after_after, ← hdelay, UInt32.ofNat_toNat]

end DaphneSc.Rpu.Mmio.AfeMmioBackend
