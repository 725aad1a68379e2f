import DaphneSc.Rpu.DelaySearch

/-!
# The search for the bitslip of a board

All bitslip taps are tried in order, and the first one at which the expected frame-clock word is
read is chosen and checked by further snapshots. Without such a tap the bitslip read before the
search is written back. A check that fails leaves the chosen tap in place.
-/

namespace DaphneSc.Rpu.Mmio.AfeMmioBackend

open Core.Afe Core.AfeHw Program Runs

/-! ## The scan -/

/-- The tap a scan has matched after reading some words. -/
def matchedTap (words : List UInt32) : Option UInt32 :=
  (words.findIdx? (· == frontendExpectedFclkWord)).map UInt32.ofNat

theorem matchedTap_append (words : List UInt32) (word : UInt32) :
    matchedTap (words ++ [word]) =
      if (matchedTap words).isNone && word == frontendExpectedFclkWord then
        some (UInt32.ofNat words.length)
      else
        matchedTap words := by
  unfold matchedTap
  rw [List.findIdx?_append]
  cases words.findIdx? (· == frontendExpectedFclkWord) with
  | some tap => rfl
  | none =>
    cases hword : word == frontendExpectedFclkWord with
    | false => simp [List.findIdx?_cons, hword]
    | true => simp [List.findIdx?_cons, hword]

/-- One tap of the scan. -/
theorem run_scanBitslipTap {afeBoard : UInt8} (hboard : afeBoard.toNat < afeCount)
    {words : List UInt32} {tap : UInt32} (htap : tap.toNat = words.length)
    (hlimit : words.length < 16) (s : AfeMmioBackend HardwareIo) :
    ∃ word, scanBitslipTap afeBoard (matchedTap words) tap s =
      .ok (matchedTap (words ++ [word]))
        (s.after (tapAccesses (bitslipRegister afeBoard) afeBoard word words.length)) := by
  have hvalue : tap < frontendBitslipTaps := UInt32.lt_iff_toNat_lt.mpr (htap ▸ hlimit)
  have htap' : UInt32.ofNat words.length = tap := by
    rw [← htap, UInt32.ofNat_toNat]
  obtain ⟨word, hword⟩ := run_scanFrontendWordAfterWrite hboard
    (s.after [.write (bitslipRegister afeBoard) tap])
  rw [after_after] at hword
  refine ⟨word, ?_⟩
  unfold scanBitslipTap
  rw [run_bind, run_setFrontendBitslip hboard hvalue]
  dsimp only
  rw [run_bind, hword]
  dsimp only
  rw [matchedTap_append, htap', tapAccesses, htap']
  rfl

/-- The whole scan. -/
theorem run_bitslipScan {afeBoard : UInt8} (hboard : afeBoard.toNat < afeCount)
    (s : AfeMmioBackend HardwareIo) :
    ∃ words, words.length = 16 ∧
      (taps frontendBitslipTaps).foldlM (scanBitslipTap afeBoard) none s =
        .ok (matchedTap words)
          (s.after (scanAccesses (bitslipRegister afeBoard) afeBoard words)) := by
  have hloop := wp_foldlM (f := scanBitslipTap afeBoard) (E := fun _ _ ↦ False)
    (fun visited matched t ↦ ∃ words, words.length = visited.length ∧ matched = matchedTap words ∧
      t = s.after (scanAccesses (bitslipRegister afeBoard) afeBoard words))
    (taps frontendBitslipTaps) ?_ (b := none) (s := s) ⟨[], rfl, rfl, (after_nil s).symm⟩
  · obtain ⟨matched, t, hrun, words, hlength, rfl, rfl⟩ := ok_of_wp hloop
    rw [length_taps] at hlength
    exact ⟨words, hlength, hrun⟩
  · rintro visited tap rest matched t hsplit ⟨words, hlength, rfl, rfl⟩
    have hget : (taps frontendBitslipTaps)[words.length]? = some tap := by
      rw [hsplit, hlength]
      simp
    obtain ⟨hlt, htap⟩ := toNat_of_taps hget
    obtain ⟨word, hrun⟩ := run_scanBitslipTap hboard htap hlt
      (s.after (scanAccesses (bitslipRegister afeBoard) afeBoard words))
    unfold wp
    rw [hrun, after_after, ← scanAccesses_append]
    exact ⟨words ++ [word], by simp [hlength], rfl, rfl⟩

/-! ## The checks -/

/-- A snapshot that has to read the expected word. -/
def checkSnapshot (afeBoard : UInt8) : BackendProg HardwareIo Empty Unit := do
  let word ← scanFrontendWordAfterWrite afeBoard
  failIf (word ≠ frontendExpectedFclkWord) .alignmentFailed

/-- Checks go on until one of them fails. -/
theorem run_checkSnapshots {ι : Type} {afeBoard : UInt8} (hboard : afeBoard.toNat < afeCount)
    (is : List ι) (s : AfeMmioBackend HardwareIo) :
    ∃ words, (is.forM (fun _ ↦ checkSnapshot afeBoard) s =
          .ok () (s.after (words.flatMap (snapshot afeBoard))) ∧
        words = List.replicate is.length frontendExpectedFclkWord) ∨
      (is.forM (fun _ ↦ checkSnapshot afeBoard) s =
          .error (.error .alignmentFailed) (s.after (words.flatMap (snapshot afeBoard))) ∧
        words ≠ List.replicate is.length frontendExpectedFclkWord) := by
  induction is generalizing s with
  | nil => exact ⟨[], Or.inl ⟨(congrArg _ (after_nil s)).symm, rfl⟩⟩
  | cons i is ih =>
    obtain ⟨word, hword⟩ := run_scanFrontendWordAfterWrite hboard s
    have hstep : (i :: is).forM (fun _ ↦ checkSnapshot afeBoard) s =
        (failIf (word ≠ frontendExpectedFclkWord) .alignmentFailed >>= fun _ ↦
          is.forM fun _ ↦ checkSnapshot afeBoard) (s.after (snapshot afeBoard word)) := by
      change (checkSnapshot afeBoard >>= fun _ ↦ is.forM fun _ ↦ checkSnapshot afeBoard) s = _
      unfold checkSnapshot
      rw [bind_assoc, run_bind, hword]
    by_cases hexpected : word = frontendExpectedFclkWord
    · obtain ⟨words, hrest⟩ := ih (s.after (snapshot afeBoard word))
      refine ⟨word :: words, ?_⟩
      rw [hstep, failIf, if_neg (not_not_intro hexpected), pure_bind, List.flatMap_cons,
        ← after_after, List.length_cons, List.replicate_succ]
      apply hrest.imp
      · exact fun h ↦ ⟨h.1, by rw [hexpected, h.2]⟩
      · exact fun h ↦ ⟨h.1, fun heq ↦ h.2 (List.cons.inj heq).2⟩
    · refine ⟨[word], Or.inr ?_⟩
      rw [hstep, failIf, if_pos hexpected, List.flatMap_singleton]
      refine ⟨rfl, fun heq ↦ hexpected ?_⟩
      rw [List.length_cons, List.replicate_succ] at heq
      exact (List.cons.inj heq).1

/-! ## The search -/

/-- The accesses of the scan, with the bitslip read before it. -/
def searchAccesses (afeBoard : UInt8) (s : AfeMmioBackend HardwareIo) (words : List UInt32) :
    List Access :=
  .read (bitslipRegister afeBoard) (s.io.next (bitslipRegister afeBoard)) ::
    scanAccesses (bitslipRegister afeBoard) afeBoard words

/-- The bitslip a board has before the search. -/
def initialBitslip (afeBoard : UInt8) (s : AfeMmioBackend HardwareIo) : UInt32 :=
  s.io.next (bitslipRegister afeBoard) &&& 0x0F

/-- Without a matching tap the bitslip read before the search is written back. Otherwise the
smallest matching tap is written and checked by five snapshots. -/
theorem run_setBestFrontendBitslip {afeBoard : UInt8} (hboard : afeBoard.toNat < afeCount)
    (s : AfeMmioBackend HardwareIo) :
    ∃ words, words.length = 16 ∧
      ((frontendExpectedFclkWord ∉ words ∧ setBestFrontendBitslip afeBoard s =
          .error (.error .alignmentFailed) (s.after (searchAccesses afeBoard s words ++
            [.write (bitslipRegister afeBoard) (initialBitslip afeBoard s)]))) ∨
      ∃ tap checks, words.findIdx? (· == frontendExpectedFclkWord) = some tap ∧
        let t := s.after (searchAccesses afeBoard s words ++
          .write (bitslipRegister afeBoard) (UInt32.ofNat tap) ::
            checks.flatMap (snapshot afeBoard))
        ((setBestFrontendBitslip afeBoard s = .ok () t ∧
            checks = List.replicate 5 frontendExpectedFclkWord) ∨
          (setBestFrontendBitslip afeBoard s = .error (.error .alignmentFailed) t ∧
            checks ≠ List.replicate 5 frontendExpectedFclkWord))) := by
  have hoffset : frontendBitslipOffset afeBoard = some (bitslipRegister afeBoard) := if_pos hboard
  have hinitial : readFrontendBitslip afeBoard s = .ok (initialBitslip afeBoard s)
      (s.after [.read (bitslipRegister afeBoard) (s.io.next (bitslipRegister afeBoard))]) := by
    unfold readFrontendBitslip
    rw [bitslipOffset_eq, hoffset, okOr_some, pure_bind, run_bind, run_read]
    rfl
  have hinitial_lt : initialBitslip afeBoard s < frontendBitslipTaps := by
    apply UInt32.lt_iff_toNat_lt.mpr
    rw [initialBitslip, UInt32.toNat_and]
    exact Nat.lt_succ_of_le Nat.and_le_right
  obtain ⟨words, hlength, hscan⟩ := run_bitslipScan hboard
    (s.after [.read (bitslipRegister afeBoard) (s.io.next (bitslipRegister afeBoard))])
  rw [after_after, List.singleton_append] at hscan
  refine ⟨words, hlength, ?_⟩
  unfold setBestFrontendBitslip
  rw [run_bind, hinitial]
  dsimp only
  rw [run_bind, hscan]
  dsimp only
  cases htap : words.findIdx? (· == frontendExpectedFclkWord) with
  | none =>
    have hmatched : matchedTap words = none := by
      rw [matchedTap, htap, Option.map_none]
    left
    constructor
    · intro hmem
      have hnone := List.findIdx?_eq_none_iff.mp htap _ hmem
      exact absurd hnone (by simp)
    · rw [hmatched, run_bind]
      unfold chosenBitslip
      dsimp only
      rw [run_bind, run_setFrontendBitslip hboard hinitial_lt, after_after]
      rfl
  | some tap =>
    have hmatched : matchedTap words = some (UInt32.ofNat tap) := by
      rw [matchedTap, htap, Option.map_some]
    have htap_lt : tap < 16 := by
      rw [← hlength]
      exact (List.findIdx?_eq_some_iff_getElem.mp htap).1
    have hvalue : UInt32.ofNat tap < frontendBitslipTaps := by
      apply UInt32.lt_iff_toNat_lt.mpr
      rw [UInt32.toNat_ofNat']
      exact lt_of_le_of_lt (Nat.mod_le _ _) htap_lt
    right
    obtain ⟨checks, hchecks⟩ := run_checkSnapshots hboard (0 :: taps frontendVerifyReads)
      (s.after (searchAccesses afeBoard s words ++
        [.write (bitslipRegister afeBoard) (UInt32.ofNat tap)]))
    refine ⟨tap, checks, rfl, ?_⟩
    rw [hmatched]
    unfold chosenBitslip
    dsimp only
    rw [pure_bind, run_bind, run_setFrontendBitslip hboard hvalue, after_after]
    dsimp only
    have hfive : (0 :: taps frontendVerifyReads).length = 5 := by
      rw [List.length_cons, length_taps]
      rfl
    rw [after_after, List.append_assoc, List.singleton_append, hfive] at hchecks
    have hparts : (scanFrontendWordAfterWrite afeBoard >>= fun alignedWord ↦
        failIf (alignedWord ≠ frontendExpectedFclkWord) .alignmentFailed >>= fun _ ↦
          (taps frontendVerifyReads).forM fun _ ↦
            scanFrontendWordAfterWrite afeBoard >>= fun verifyWord ↦
              failIf (verifyWord ≠ frontendExpectedFclkWord) .alignmentFailed :
          BackendProg HardwareIo Empty Unit) =
        (0 :: taps frontendVerifyReads).forM fun _ ↦ checkSnapshot afeBoard := by
      change _ = (checkSnapshot afeBoard >>= fun _ ↦
        (taps frontendVerifyReads).forM fun _ ↦ checkSnapshot afeBoard)
      unfold checkSnapshot
      rw [bind_assoc]
    rw [hparts]
    exact hchecks

/-! ## Reading a search off its accesses -/

/-- The frame-clock words of a board read in some accesses. -/
def frameWords (afeBoard : UInt8) (accesses : List Access) : List UInt32 :=
  accesses.filterMap (Access.readFrom (frameClockRegister afeBoard))

theorem frameWords_append (afeBoard : UInt8) (accesses accesses' : List Access) :
    frameWords afeBoard (accesses ++ accesses') =
      frameWords afeBoard accesses ++ frameWords afeBoard accesses' :=
  List.filterMap_append

theorem frameWords_snapshot (afeBoard : UInt8) (word : UInt32) :
    frameWords afeBoard (snapshot afeBoard word) = [word] := by
  simp [frameWords, snapshot, List.filterMap_cons, Access.readFrom]

theorem frameWords_tapAccesses (register : UInt32) (afeBoard : UInt8) (word : UInt32) (tap : ℕ) :
    frameWords afeBoard (tapAccesses register afeBoard word tap) = [word] := by
  rw [tapAccesses, ← List.singleton_append, frameWords_append, frameWords_snapshot]
  simp [frameWords, Access.readFrom]

theorem frameWords_snapshots (afeBoard : UInt8) (words : List UInt32) :
    frameWords afeBoard (words.flatMap (snapshot afeBoard)) = words := by
  induction words with
  | nil => rfl
  | cons word words ih =>
    rw [List.flatMap_cons, frameWords_append, frameWords_snapshot, ih, List.singleton_append]

theorem frameWords_scanAccesses (register : UInt32) (afeBoard : UInt8) (words : List UInt32) :
    frameWords afeBoard (scanAccesses register afeBoard words) = words := by
  induction words using List.reverseRecOn with
  | nil => rfl
  | append_singleton words word ih =>
    rw [scanAccesses_append, frameWords_append, ih, frameWords_tapAccesses]

/-- The word at a position was read while the register held that position as its tap. -/
def ReadAtTap (register : UInt32) (afeBoard : UInt8) (accesses : List Access) (tap : ℕ) : Prop :=
  ∃ before word after, accesses = before ++ .read (frameClockRegister afeBoard) word :: after ∧
    (frameWords afeBoard before).length = tap ∧
    lastWritten register before = some (UInt32.ofNat tap)

/-- A scan that goes on begins like one that stops. -/
theorem scanAccesses_append_words (register : UInt32) (afeBoard : UInt8)
    (words words' : List UInt32) : ∃ accesses, scanAccesses register afeBoard (words ++ words') =
      scanAccesses register afeBoard words ++ accesses := by
  unfold scanAccesses
  rw [List.zipIdx_append, List.flatMap_append]
  exact ⟨_, rfl⟩

/-- A scan reads each of its words at the tap of the word's position. -/
theorem readAtTap_scan {register : UInt32} {afeBoard : UInt8}
    (htrigger : frontendTriggerOffset ≠ register) {earlier : List Access}
    (hearlier : frameWords afeBoard earlier = []) {words : List UInt32} {tap : ℕ}
    (htap : tap < words.length) (later : List Access) :
    ReadAtTap register afeBoard (earlier ++ scanAccesses register afeBoard words ++ later) tap := by
  have hlength : (words.take tap).length = tap := List.length_take_of_le htap.le
  have hwords : words = words.take tap ++ [words[tap]] ++ words.drop (tap + 1) := by
    rw [List.append_assoc, List.singleton_append, List.getElem_cons_drop, List.take_append_drop]
  obtain ⟨accesses, hscan⟩ := scanAccesses_append_words register afeBoard
    (words.take tap ++ [words[tap]]) (words.drop (tap + 1))
  rw [← hwords, scanAccesses_append, hlength] at hscan
  refine ⟨earlier ++ scanAccesses register afeBoard (words.take tap) ++
    [.write register (UInt32.ofNat tap)] ++ [.write frontendTriggerOffset frontendTriggerWord],
    words[tap], accesses ++ later, ?_, ?_, ?_⟩
  · rw [hscan]
    simp [tapAccesses, snapshot]
  · have hwrites (offset value : UInt32) : frameWords afeBoard [.write offset value] = [] := rfl
    rw [frameWords_append, frameWords_append, frameWords_append, hearlier, hwrites, hwrites,
      frameWords_scanAccesses, List.append_nil, List.append_nil, List.nil_append, hlength]
  · have hnone : [Access.write frontendTriggerOffset frontendTriggerWord].filterMap
        (Access.writtenTo register) = [] := by
      simp [Access.writtenTo, htrigger]
    rw [lastWritten_append_of_none hnone, lastWritten_append_write]

/-- The registers a search of a board accesses are different. -/
theorem registers_ne {afeBoard : UInt8} (hboard : afeBoard.toNat < afeCount) :
    bitslipRegister afeBoard ≠ frameClockRegister afeBoard ∧
      frontendTriggerOffset ≠ bitslipRegister afeBoard ∧
      frontendTriggerOffset ≠ delayRegister afeBoard := by
  have hall : ∀ board < afeCount,
      bitslipRegister (UInt8.ofNat board) ≠ frameClockRegister (UInt8.ofNat board) ∧
        frontendTriggerOffset ≠ bitslipRegister (UInt8.ofNat board) ∧
        frontendTriggerOffset ≠ delayRegister (UInt8.ofNat board) := by decide
  have hregisters := hall afeBoard.toNat hboard
  rwa [UInt8.ofNat_toNat] at hregisters

theorem frameWords_readBitslip {afeBoard : UInt8} (hboard : afeBoard.toNat < afeCount)
    (value : UInt32) : frameWords afeBoard [.read (bitslipRegister afeBoard) value] = [] := by
  have hnone : Access.readFrom (frameClockRegister afeBoard)
      (.read (bitslipRegister afeBoard) value) = none := if_neg (registers_ne hboard).1
  rw [frameWords, List.filterMap_cons_none hnone, List.filterMap_nil]

theorem frameWords_searchAccesses {afeBoard : UInt8} (hboard : afeBoard.toNat < afeCount)
    (s : AfeMmioBackend HardwareIo) (words : List UInt32) :
    frameWords afeBoard (searchAccesses afeBoard s words) = words := by
  rw [searchAccesses, ← List.singleton_append, frameWords_append, frameWords_readBitslip hboard,
    frameWords_scanAccesses, List.nil_append]

/-- A search reads the words of its scan at their taps. -/
theorem readAtTap_search {afeBoard : UInt8} (hboard : afeBoard.toNat < afeCount)
    (s : AfeMmioBackend HardwareIo) {words : List UInt32} {tap : ℕ} (htap : tap < words.length)
    (later : List Access) :
    ReadAtTap (bitslipRegister afeBoard) afeBoard (searchAccesses afeBoard s words ++ later)
      tap := by
  rw [searchAccesses, ← List.singleton_append]
  exact readAtTap_scan (registers_ne hboard).2.1 (frameWords_readBitslip hboard _) htap later

/-- Snapshots do not write the bitslip. -/
theorem writtenTo_snapshots {afeBoard : UInt8} (hboard : afeBoard.toNat < afeCount)
    (words : List UInt32) : (words.flatMap (snapshot afeBoard)).filterMap
      (Access.writtenTo (bitslipRegister afeBoard)) = [] := by
  induction words with
  | nil => rfl
  | cons word words ih =>
    rw [List.flatMap_cons, List.filterMap_append, ih]
    simp [snapshot, Access.writtenTo, (registers_ne hboard).2.1]

/-- What a search of the bitslip did: the words of the scan with their taps, the words of the checks
after it, and the bitslip written last. -/
structure BitslipSearched (afeBoard : UInt8) (s : AfeMmioBackend HardwareIo)
    (accesses : List Access) (scanned checks : List UInt32) : Prop where
  run : final (setBestFrontendBitslip afeBoard) s = s.after accesses
  words : frameWords afeBoard accesses = scanned ++ checks
  length : scanned.length = 16
  taps : ∀ tap < 16, ReadAtTap (bitslipRegister afeBoard) afeBoard accesses tap
  outcome :
    (frontendExpectedFclkWord ∉ scanned ∧ checks = [] ∧
      setBestFrontendBitslip afeBoard s = .error (.error .alignmentFailed) (s.after accesses) ∧
      lastWritten (bitslipRegister afeBoard) accesses = some (initialBitslip afeBoard s)) ∨
    ∃ tap, scanned.findIdx? (· == frontendExpectedFclkWord) = some tap ∧
      lastWritten (bitslipRegister afeBoard) accesses = some (UInt32.ofNat tap) ∧
      ((setBestFrontendBitslip afeBoard s = .ok () (s.after accesses) ∧
          checks = List.replicate 5 frontendExpectedFclkWord) ∨
        (setBestFrontendBitslip afeBoard s = .error (.error .alignmentFailed) (s.after accesses) ∧
          checks ≠ List.replicate 5 frontendExpectedFclkWord))

theorem bitslipSearched {afeBoard : UInt8} (hboard : afeBoard.toNat < afeCount)
    (s : AfeMmioBackend HardwareIo) :
    ∃ accesses scanned checks, BitslipSearched afeBoard s accesses scanned checks := by
  obtain ⟨words, hlength, ⟨hnone, hrun⟩ | ⟨tap, checks, htap, hrun⟩⟩ :=
    run_setBestFrontendBitslip hboard s
  · refine ⟨_, words, [], ?_, ?_, hlength, fun tap htap ↦ ?_, Or.inl ⟨hnone, rfl, hrun, ?_⟩⟩
    · exact final_of_error hrun
    · rw [frameWords_append, frameWords_searchAccesses hboard]
      rfl
    · exact readAtTap_search hboard s (hlength ▸ htap) _
    · exact lastWritten_append_write _ _ _
  · have hlast : lastWritten (bitslipRegister afeBoard) (searchAccesses afeBoard s words ++
        .write (bitslipRegister afeBoard) (UInt32.ofNat tap) ::
          checks.flatMap (snapshot afeBoard)) =
          some (UInt32.ofNat tap) := by
      rw [List.append_cons, lastWritten_append_of_none (writtenTo_snapshots hboard checks),
        lastWritten_append_write]
    refine ⟨_, words, checks, ?_, ?_, hlength, fun tap htap ↦ ?_,
      Or.inr ⟨tap, htap, hlast, hrun⟩⟩
    · rcases hrun with ⟨hrun, -⟩ | ⟨hrun, -⟩
      · exact final_of_ok hrun
      · exact final_of_error hrun
    · rw [List.append_cons, frameWords_append, frameWords_append,
        frameWords_searchAccesses hboard, frameWords_snapshots]
      exact congrArg (· ++ checks) (List.append_nil words)
    · exact readAtTap_search hboard s (hlength ▸ htap) _

/-! ## What the searches find -/

/-- The tap is the first one at which the expected word was read. -/
def IsSmallestMatch (scanned : List UInt32) (tap : ℕ) : Prop :=
  scanned[tap]? = some frontendExpectedFclkWord ∧
    ∀ earlier < tap, scanned[earlier]? ≠ some frontendExpectedFclkWord

theorem isSmallestMatch_of_findIdx? {scanned : List UInt32} {tap : ℕ}
    (h : scanned.findIdx? (· == frontendExpectedFclkWord) = some tap) :
    IsSmallestMatch scanned tap := by
  obtain ⟨hlt, hmatch, hearlier⟩ := List.findIdx?_eq_some_iff_getElem.mp h
  constructor
  · rw [List.getElem?_eq_getElem hlt, eq_of_beq hmatch]
  · intro earlier hearlier_lt hget
    obtain ⟨hlt', heq⟩ := List.getElem?_eq_some_iff.mp hget
    exact hearlier earlier hearlier_lt (beq_iff_eq.mpr heq)

theorem IsSmallestMatch.unique {scanned : List UInt32} {tap tap' : ℕ}
    (h : IsSmallestMatch scanned tap) (h' : IsSmallestMatch scanned tap') : tap = tap' := by
  rcases Nat.lt_trichotomy tap tap' with hlt | heq | hgt
  · exact absurd h.1 (h'.2 tap hlt)
  · exact heq
  · exact absurd h'.1 (h.2 tap' hgt)

theorem mem_of_findIdx? {scanned : List UInt32} {tap : ℕ}
    (h : scanned.findIdx? (· == frontendExpectedFclkWord) = some tap) :
    frontendExpectedFclkWord ∈ scanned :=
  List.mem_of_getElem? (isSmallestMatch_of_findIdx? h).1

/-- The search for the delay reads 512 words, each at the tap of its position, returns, and writes
last the tap in the middle of the first of the longest runs of equal words. -/
def FindsDelay (afeBoard : UInt8) (s : AfeMmioBackend HardwareIo) : Prop :=
  ∃ accesses, setBestFrontendDelay afeBoard s = .ok () (s.after accesses) ∧
    (frameWords afeBoard accesses).length = 512 ∧
    (∀ tap < 512, ReadAtTap (delayRegister afeBoard) afeBoard accesses tap) ∧
    ∃ start length, IsFirstLongestRun (frameWords afeBoard accesses) start length ∧
      lastWritten (delayRegister afeBoard) accesses =
        some (UInt32.ofNat (start + (length - 1) / 2))

/-- The search for the bitslip reads a word at each of the 16 taps, and returns exactly when one of
these words is the expected one and five snapshots after the scan read it. Then it writes last the
smallest of these taps. -/
def FindsBitslip (afeBoard : UInt8) (s : AfeMmioBackend HardwareIo) : Prop :=
  ∃ accesses scanned checks, final (setBestFrontendBitslip afeBoard) s = s.after accesses ∧
    frameWords afeBoard accesses = scanned ++ checks ∧ scanned.length = 16 ∧
    (∀ tap < 16, ReadAtTap (bitslipRegister afeBoard) afeBoard accesses tap) ∧
    (returns (setBestFrontendBitslip afeBoard) s = true ↔
      frontendExpectedFclkWord ∈ scanned ∧ checks = List.replicate 5 frontendExpectedFclkWord) ∧
    (returns (setBestFrontendBitslip afeBoard) s = true →
      ∃ tap, IsSmallestMatch scanned tap ∧
        lastWritten (bitslipRegister afeBoard) accesses = some (UInt32.ofNat tap))

theorem findsDelay {afeBoard : UInt8} (hboard : afeBoard.toNat < afeCount)
    (s : AfeMmioBackend HardwareIo) : FindsDelay afeBoard s := by
  obtain ⟨words, start, length, hlength, hrun, hsearch⟩ := run_setBestFrontendDelay hboard s
  have hwords : frameWords afeBoard (scanAccesses (delayRegister afeBoard) afeBoard words ++
      [.write (delayRegister afeBoard) (UInt32.ofNat (start + (length - 1) / 2))]) = words := by
    rw [frameWords_append, frameWords_scanAccesses]
    exact List.append_nil words
  refine ⟨_, hsearch, ?_, fun tap htap ↦ ?_, start, length, ?_, lastWritten_append_write _ _ _⟩
  · rw [hwords, hlength]
  · have hnone : frameWords afeBoard [] = [] := rfl
    exact readAtTap_scan (registers_ne hboard).2.2 hnone (hlength ▸ htap) _
  · rw [hwords]
    exact hrun

theorem findsBitslip {afeBoard : UInt8} (hboard : afeBoard.toNat < afeCount)
    (s : AfeMmioBackend HardwareIo) : FindsBitslip afeBoard s := by
  obtain ⟨accesses, scanned, checks, hsearched⟩ := bitslipSearched hboard s
  refine ⟨accesses, scanned, checks, hsearched.run, hsearched.words, hsearched.length,
    hsearched.taps, ?_⟩
  rcases hsearched.outcome with ⟨hnone, -, hrun, -⟩ | ⟨tap, htap, hlast,
    ⟨hrun, hchecks⟩ | ⟨hrun, hchecks⟩⟩
  · have hfails : returns (setBestFrontendBitslip afeBoard) s = false := by rw [returns, hrun]
    rw [hfails]
    exact ⟨iff_of_false Bool.false_ne_true fun h ↦ hnone h.1, nofun⟩
  · have hreturns : returns (setBestFrontendBitslip afeBoard) s = true := by rw [returns, hrun]
    rw [hreturns]
    exact ⟨iff_of_true rfl ⟨mem_of_findIdx? htap, hchecks⟩,
      fun _ ↦ ⟨tap, isSmallestMatch_of_findIdx? htap, hlast⟩⟩
  · have hfails : returns (setBestFrontendBitslip afeBoard) s = false := by rw [returns, hrun]
    rw [hfails]
    exact ⟨iff_of_false Bool.false_ne_true fun h ↦ hchecks h.2, nofun⟩

/-- Both searches of a board find what they look for, whatever the hardware answers. -/
theorem finds_delay_and_bitslip {afeBoard : UInt8} (hboard : afeBoard.toNat < afeCount)
    (s : AfeMmioBackend HardwareIo) : FindsDelay afeBoard s ∧ FindsBitslip afeBoard s :=
  ⟨findsDelay hboard s, findsBitslip hboard s⟩

/-- Hardware that reads one word at the first taps of a delay and another one at the later taps, and
the expected word when the bitslip is 5. -/
def eyeHardware : AfeMmioBackend HardwareIo :=
  AfeMmioBackend.new ⟨fun history offset ↦
    if offset = bitslipRegister 4 then 0
    else if lastWritten (bitslipRegister 4) history = some 5 then frontendExpectedFclkWord
    else if history.length < 600 then 1 else 2, []⟩

theorem eyeHardware_finds :
    (FindsDelay 4 eyeHardware ∧ FindsBitslip 4 eyeHardware) ∧
      returns (setBestFrontendBitslip 4) eyeHardware = true ∧
      lastWritten (bitslipRegister 4)
        (final (setBestFrontendBitslip 4) eyeHardware).io.history = some 5 := by
  have hreturns : returns (setBestFrontendBitslip 4) eyeHardware = true := by decide +kernel
  have hlast : lastWritten (bitslipRegister 4)
      (final (setBestFrontendBitslip 4) eyeHardware).io.history = some 5 := by decide +kernel
  exact ⟨finds_delay_and_bitslip (by decide) eyeHardware, hreturns, hlast⟩

/-! ## A failed search of the bitslip -/

/-- A search that fails leaves the bitslip read before it. -/
def RestoresBitslip (afeBoard : UInt8) (s : AfeMmioBackend HardwareIo)
    (accesses : List Access) : Prop :=
  setBestFrontendBitslip afeBoard s = .error (.error .alignmentFailed) (s.after accesses) →
    lastWritten (bitslipRegister afeBoard) accesses = some (initialBitslip afeBoard s)

/-- A search that fails leaves the bitslip read before it exactly when no tap matched, the checks
went well, so that it did not fail, or the smallest tap that matched is that bitslip. -/
theorem restoresBitslip_iff {afeBoard : UInt8} (hboard : afeBoard.toNat < afeCount)
    (s : AfeMmioBackend HardwareIo) :
    ∃ accesses scanned checks, final (setBestFrontendBitslip afeBoard) s = s.after accesses ∧
      frameWords afeBoard accesses = scanned ++ checks ∧ scanned.length = 16 ∧
      (RestoresBitslip afeBoard s accesses ↔
        frontendExpectedFclkWord ∉ scanned ∨
          checks = List.replicate 5 frontendExpectedFclkWord ∨
          IsSmallestMatch scanned (initialBitslip afeBoard s).toNat) := by
  obtain ⟨accesses, scanned, checks, hsearched⟩ := bitslipSearched hboard s
  refine ⟨accesses, scanned, checks, hsearched.run, hsearched.words, hsearched.length, ?_⟩
  unfold RestoresBitslip
  rcases hsearched.outcome with ⟨hnone, -, -, hlast⟩ | ⟨tap, htap, hlast,
    ⟨hrun, hchecks⟩ | ⟨hrun, hchecks⟩⟩
  · exact iff_of_true (fun _ ↦ hlast) (Or.inl hnone)
  · apply iff_of_true _ (Or.inr (Or.inl hchecks))
    intro hfails
    rw [hrun] at hfails
    cases hfails
  · have hsmallest := isSmallestMatch_of_findIdx? htap
    have hlt : tap < 16 := by
      rw [← hsearched.length]
      exact (List.getElem?_eq_some_iff.mp hsmallest.1).1
    have htoNat : (UInt32.ofNat tap).toNat = tap := by
      rw [UInt32.toNat_ofNat', Nat.mod_eq_of_lt (by omega)]
    rw [hlast, or_iff_right (fun h ↦ h (mem_of_findIdx? htap)), or_iff_right hchecks]
    constructor
    · intro hrestored
      rw [← Option.some.inj (hrestored hrun), htoNat]
      exact hsmallest
    · intro hinitial _
      rw [hsmallest.unique hinitial, UInt32.ofNat_toNat]

/-- Hardware that always reads the expected word. -/
def steadyHardware : AfeMmioBackend HardwareIo :=
  AfeMmioBackend.new ⟨fun _ _ ↦ frontendExpectedFclkWord, []⟩

/-- On hardware that always reads the expected word the search goes well. -/
theorem steadyHardware_restoresBitslip :
    ∃ accesses scanned checks,
      final (setBestFrontendBitslip 0) steadyHardware = steadyHardware.after accesses ∧
      frameWords 0 accesses = scanned ++ checks ∧ scanned.length = 16 ∧
      (RestoresBitslip 0 steadyHardware accesses ↔
        frontendExpectedFclkWord ∉ scanned ∨
          checks = List.replicate 5 frontendExpectedFclkWord ∨
          IsSmallestMatch scanned (initialBitslip 0 steadyHardware).toNat) :=
  restoresBitslip_iff (by decide) steadyHardware

/-- Hardware whose bitslip is 7, and which reads the expected word once, at tap 3. -/
def unsteadyHardware : AfeMmioBackend HardwareIo :=
  AfeMmioBackend.new ⟨fun history offset ↦
    if offset = bitslipRegister 0 then 7
    else if history.length = 12 then frontendExpectedFclkWord else 0, []⟩

/-- The check fails and the bitslip is left at 3. -/
theorem unsteadyHardware_not_restored :
    ∃ accesses, initialBitslip 0 unsteadyHardware = 7 ∧
      setBestFrontendBitslip 0 unsteadyHardware =
        .error (.error .alignmentFailed) (unsteadyHardware.after accesses) ∧
      lastWritten (bitslipRegister 0) accesses = some 3 ∧
      ¬ RestoresBitslip 0 unsteadyHardware accesses := by
  have hfails : returns (setBestFrontendBitslip 0) unsteadyHardware = false := by decide +kernel
  have hlast : lastWritten (bitslipRegister 0)
      (final (setBestFrontendBitslip 0) unsteadyHardware).io.history = some 3 := by decide +kernel
  obtain ⟨accesses, scanned, checks, hsearched⟩ :=
    bitslipSearched (by decide : (0 : UInt8).toNat < afeCount) unsteadyHardware
  rw [hsearched.run] at hlast
  have hlast' : lastWritten (bitslipRegister 0) accesses = some 3 := hlast
  have hrun : setBestFrontendBitslip 0 unsteadyHardware =
      .error (.error .alignmentFailed) (unsteadyHardware.after accesses) := by
    rcases hsearched.outcome with ⟨-, -, hrun, -⟩ | ⟨tap, -, -, ⟨hrun, -⟩ | ⟨hrun, -⟩⟩
    · exact hrun
    · rw [returns, hrun] at hfails
      cases hfails
    · exact hrun
  refine ⟨accesses, rfl, hrun, hlast', fun hrestores ↦ ?_⟩
  have hinitial : some (3 : UInt32) = some 7 := hlast'.symm.trans (hrestores hrun)
  exact absurd hinitial (by decide)

end DaphneSc.Rpu.Mmio.AfeMmioBackend
