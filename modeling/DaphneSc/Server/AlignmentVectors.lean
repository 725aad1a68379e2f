import DaphneSc.Server.HandlerCommands
import DaphneSc.Slots.Gaps

/-!
# Delays and bitslips of an alignment

After an alignment the delay and the bitslip of every board are read back, and the readings are
returned in two lists. A board without a valid reading adds nothing to them, so the boards after it
move forward: the entries are at the positions of their boards exactly when no board without a
reading comes before one with a reading.
-/

namespace DaphneSc.Server.Handlers

open DaphneSc.Core Core.Afe Core.Rpu Core.Transport Pb Program Slots

variable {T : Type} [RpuAfeTransport T]

/-! ## The response -/

/-- What an alignment request is answered with. -/
def alignedResponse : Prog Empty T CmdAlignAfEsResponse := do
  let outcome ← submit .align
  let vectors ← (if outcome.transportError then pure ([], []) else readAlignmentVectors)
  return {
    success := outcome.success
    message := alignmentMessage outcome
    delay := vectors.1
    bitslip := vectors.2 }

theorem handleAlignAfe_eq {prost : Prost} {payload : List UInt8} {req : CmdAlignAfEs}
    (h : prost.decode payload = .ok req) :
    (handleAlignAfe prost payload : Prog Empty T (List UInt8)) =
      prost.encodeToVec <$> alignedResponse := by
  unfold handleAlignAfe alignedResponse
  rw [h]
  simp only [map_bind, map_pure]

/-! ## The readings -/

/-- What a transport answers to commands submitted one after the other, up to where it stops. -/
def answers : List AfeCommand → T → List (Except RpuError AfeCommandReply)
  | [], _ => []
  | command :: commands, transport =>
    match RpuAfeTransport.submitAfeCommand command transport with
    | .ok reply transport => .ok reply :: answers commands transport
    | .error (.error err) transport => .error err :: answers commands transport
    | .error .panic _ => []

theorem answers_cons (command : AfeCommand) (commands : List AfeCommand) (transport : T) :
    answers (command :: commands) transport =
      match RpuAfeTransport.submitAfeCommand command transport with
      | .ok reply after => .ok reply :: answers commands after
      | .error (.error err) after => .error err :: answers commands after
      | .error .panic _ => [] :=
  rfl

/-- The commands that read the boards, in order. -/
def readAlignmentCommands (boards : List ℕ) : List AfeCommand :=
  boards.filterMap fun board ↦
    (AfeId.fromBoard (UInt8.ofNat board)).toOption.map AfeCommand.readAlignment

/-- The answer to an alignment, and the answers for the boards after it. -/
def alignmentAnswers (transport : T) : List (Except RpuError AfeCommandReply) :=
  answers (.align :: readAlignmentCommands (List.range afeCount)) transport

/-- A word read back is valid. -/
def marked (word : UInt32) : Bool := word &&& 0x80000000 ≠ 0

/-- The valid word read back for a board. -/
def reading : Except RpuError AfeCommandReply → Option UInt32
  | .ok reply => reply.readback.filter marked
  | .error _ => none

/-- The readings by board. -/
def readings (transport : T) : List (Option UInt32) := (alignmentAnswers transport).tail.map reading

/-- The alignment got no answer. -/
def AlignUnanswered (transport : T) : Prop :=
  ∃ err, (alignmentAnswers transport).head? = some (.error err)

/-- Every entry is what was read back for the board of its index. -/
def Attributed (response : CmdAlignAfEsResponse) (readings : List (Option UInt32)) : Prop :=
  ∀ i < response.delay.length, ∃ word, readings[i]? = some (some word) ∧
    response.delay[i]? = some (word &&& 0xFFFF) ∧
    response.bitslip[i]? = some ((word >>> 16) &&& 0x0F)

/-! ## One board -/

/-- The vectors of a list of readings. -/
def vectorsOf (readings : List (Option UInt32)) : List UInt32 × List UInt32 :=
  ((readings.filterMap id).map fun word : UInt32 ↦ word &&& 0xFFFF,
    (readings.filterMap id).map fun word : UInt32 ↦ (word >>> 16) &&& 0x0F)

/-- The vectors with one more reading. -/
def addReading (vectors : List UInt32 × List UInt32) : Option UInt32 → List UInt32 × List UInt32
  | some word => (vectors.1 ++ [word &&& 0xFFFF], vectors.2 ++ [(word >>> 16) &&& 0x0F])
  | none => vectors

theorem vectorsOf_append (readings : List (Option UInt32)) (entry : Option UInt32) :
    vectorsOf (readings ++ [entry]) = addReading (vectorsOf readings) entry := by
  cases entry with
  | none => simp [vectorsOf, addReading]
  | some word => simp [vectorsOf, addReading]

theorem run_submit {command : AfeCommand} (h : command.validate = .ok ()) (transport : T) :
    (submit command : Prog Empty T SubmitOutcome) transport =
      match RpuAfeTransport.submitAfeCommand command transport with
      | .ok reply after => .ok (submitOutcome (.ok reply)) after
      | .error (.error err) after => .ok (submitOutcome (.error err)) after
      | .error .panic after => .error .panic after := by
  unfold submit
  rw [h]
  dsimp only
  rw [run_map]
  unfold attempt
  rcases RpuAfeTransport.submitAfeCommand command transport with _ | ⟨_ | _, _⟩ <;> rfl

/-- A board adds what was read back for it. -/
theorem readAlignmentVector_eq {board : ℕ} {afe : AfeId}
    (hafe : AfeId.fromBoard (UInt8.ofNat board) = .ok afe) (vectors : List UInt32 × List UInt32) :
    (readAlignmentVector vectors board : Prog Empty T (List UInt32 × List UInt32)) =
      (fun outcome ↦ addReading vectors (outcome.readback.filter marked)) <$>
        submit (.readAlignment afe) := by
  unfold readAlignmentVector
  rw [hafe, map_eq_pure_bind]
  dsimp only
  congr 1
  funext outcome
  cases outcome.readback with
  | none => rfl
  | some word =>
    dsimp only
    by_cases hmark : word &&& 0x80000000 = 0
    · rw [if_pos hmark, Option.filter_some_neg (by simpa [marked] using hmark)]
      rfl
    · rw [if_neg hmark, Option.filter_some_pos (by simpa [marked] using hmark)]
      rfl

theorem readback_filter (answer : Except RpuError AfeCommandReply) :
    (submitOutcome answer).readback.filter marked = reading answer := by
  cases answer with
  | error err => rfl
  | ok reply => rfl

/-- The reading of a board is that of the first answer. -/
theorem readAlignmentVector_ok {board : ℕ} {afe : AfeId} {transport after : T}
    {vectors vectors' : List UInt32 × List UInt32}
    (hafe : AfeId.fromBoard (UInt8.ofNat board) = .ok afe)
    (hrun : readAlignmentVector vectors board transport = .ok vectors' after)
    (commands : List AfeCommand) :
    ∃ answer, answers (.readAlignment afe :: commands) transport =
      answer :: answers commands after ∧
      vectors' = addReading vectors (reading answer) := by
  rw [readAlignmentVector_eq hafe, run_map, run_submit rfl] at hrun
  rw [answers_cons]
  cases hsubmit : RpuAfeTransport.submitAfeCommand (.readAlignment afe) transport with
  | ok reply after' =>
    rw [hsubmit] at hrun
    cases hrun
    exact ⟨.ok reply, rfl, by rw [readback_filter]⟩
  | error abort after' =>
    rw [hsubmit] at hrun
    cases abort with
    | panic => cases hrun
    | error err =>
      cases hrun
      exact ⟨.error err, rfl, by rw [readback_filter]⟩

/-! ## All boards -/

/-- The vectors read are those of the readings of the boards. -/
theorem foldlM_readAlignmentVector {boards : List ℕ} (hboards : ∀ board ∈ boards, board < afeCount)
    {earlier : List (Option UInt32)} {transport after : T} {vectors : List UInt32 × List UInt32}
    (hrun : boards.foldlM readAlignmentVector (vectorsOf earlier) transport =
      .ok vectors after) :
    vectors = vectorsOf
      (earlier ++ (answers (readAlignmentCommands boards) transport).map reading) := by
  induction boards generalizing earlier transport with
  | nil =>
    cases hrun
    simp [readAlignmentCommands, answers]
  | cons board boards ih =>
    obtain ⟨afe, hafe, -⟩ := fromBoard_of_lt (hboards board List.mem_cons_self)
    rw [List.foldlM_cons, bind_eq_ok_iff] at hrun
    obtain ⟨vectors', between, hboard, hrest⟩ := hrun
    obtain ⟨answer, hanswers, hvectors⟩ :=
      readAlignmentVector_ok hafe hboard (readAlignmentCommands boards)
    have hcommands : readAlignmentCommands (board :: boards) =
        .readAlignment afe :: readAlignmentCommands boards := by
      simp [readAlignmentCommands, hafe, Except.toOption]
    rw [hvectors, ← vectorsOf_append] at hrest
    rw [ih (fun other hmem ↦ hboards other (List.mem_cons_of_mem board hmem)) hrest, hcommands,
      hanswers, List.map_cons, List.append_assoc, List.singleton_append]

theorem foldlM_readAlignmentVector_nil {boards : List ℕ}
    (hboards : ∀ board ∈ boards, board < afeCount) {transport after : T}
    {vectors : List UInt32 × List UInt32}
    (hrun : boards.foldlM readAlignmentVector ([], []) transport = .ok vectors after) :
    vectors = vectorsOf ((answers (readAlignmentCommands boards) transport).map reading) := by
  have hnil : (([], []) : List UInt32 × List UInt32) = vectorsOf [] := rfl
  rw [hnil] at hrun
  rw [foldlM_readAlignmentVector hboards hrun, List.nil_append]

/-- The lists of a response are those of the readings, or empty without an answer. -/
theorem alignedResponse_vectors {transport after : T} {response : CmdAlignAfEsResponse}
    (hrun : alignedResponse transport = .ok response after) :
    (AlignUnanswered transport ∧ response.delay = [] ∧ response.bitslip = []) ∨
      (¬ AlignUnanswered transport ∧ (response.delay, response.bitslip) =
        vectorsOf (readings transport)) := by
  unfold alignedResponse at hrun
  rw [run_bind, run_submit rfl] at hrun
  unfold AlignUnanswered readings alignmentAnswers answers
  cases hsubmit : RpuAfeTransport.submitAfeCommand .align transport with
  | error abort between =>
    rw [hsubmit] at hrun
    cases abort with
    | panic => cases hrun
    | error err =>
      cases hrun
      exact Or.inl ⟨⟨err, rfl⟩, rfl, rfl⟩
  | ok reply between =>
    rw [hsubmit] at hrun
    simp only [submitOutcome, Bool.false_eq_true, if_false] at hrun
    obtain ⟨vectors, last, hvectors, hresponse⟩ := bind_eq_ok_iff.mp hrun
    cases hresponse
    refine Or.inr ⟨by simp, ?_⟩
    exact foldlM_readAlignmentVector_nil (fun board hmem ↦ List.mem_range.mp hmem) hvectors

/-! ## Attribution -/

/-- The vectors of readings are attributed exactly when there is no gap. -/
theorem attributed_vectorsOf_iff {response : CmdAlignAfEsResponse} {readings : List (Option UInt32)}
    (h : (response.delay, response.bitslip) = vectorsOf readings) :
    Attributed response readings ↔ NoGaps readings := by
  obtain ⟨hdelay, hbitslip⟩ := Prod.mk.inj h
  have hlength : response.delay.length = (readings.filterMap id).length := by
    rw [hdelay, List.length_map]
  unfold Attributed
  rw [hlength]
  constructor
  · intro hattributed
    apply noGaps_iff_present.mpr
    intro i hi
    obtain ⟨word, hword, -⟩ := hattributed i hi
    exact ⟨word, hword⟩
  · intro hgaps i hi
    have hplace := filterMap_at_places_iff.mpr hgaps i _ (List.getElem?_eq_getElem hi)
    refine ⟨_, hplace, ?_, ?_⟩
    · rw [hdelay, List.getElem?_map, List.getElem?_eq_getElem hi, Option.map_some]
    · rw [hbitslip, List.getElem?_map, List.getElem?_eq_getElem hi, Option.map_some]

/-- The two lists of a response have the same length. Their entries are those of the boards they
stand for exactly when the alignment got no answer, or no board without a valid reading comes before
one with a valid reading. -/
theorem aligned_attributed_iff {transport after : T} {response : CmdAlignAfEsResponse}
    (hrun : alignedResponse transport = .ok response after) :
    (∀ (prost : Prost) (payload : List UInt8) (req : CmdAlignAfEs),
        prost.decode payload = .ok req → handleAlignAfe prost payload transport =
          .ok (prost.encodeToVec response) after) ∧
      response.delay.length = response.bitslip.length ∧
      (Attributed response (readings transport) ↔
        AlignUnanswered transport ∨ NoGaps (readings transport)) := by
  refine ⟨?_, ?_⟩
  · intro prost payload req hdecode
    rw [handleAlignAfe_eq hdecode, run_map, hrun]
  · rcases alignedResponse_vectors hrun with ⟨hunanswered, hdelay, hbitslip⟩ | ⟨hanswered, hvectors⟩
    · refine ⟨by rw [hdelay, hbitslip], fun _ ↦ Or.inl hunanswered, fun _ i hi ↦ ?_⟩
      rw [hdelay] at hi
      exact absurd hi (Nat.not_lt_zero i)
    · constructor
      · have hlengths := Prod.mk.inj hvectors
        rw [hlengths.1, hlengths.2, List.length_map, List.length_map]
      · rw [attributed_vectorsOf_iff hvectors, or_iff_right hanswered]

/-! ## A board without a reading -/

/-- A transport that answers from a script, and is unavailable after its end. -/
structure ScriptedAfeTransport where
  script : List (Except RpuError AfeCommandReply)

instance : RpuAfeTransport ScriptedAfeTransport where
  status := fail .unavailable
  submitAfeCommand _ := fun transport ↦
    match transport.script with
    | [] => .error (.error .unavailable) transport
    | .ok reply :: rest => .ok reply ⟨rest⟩
    | .error err :: rest => .error (.error err) ⟨rest⟩

/-- A reply that carries a word read back. -/
def readbackReply (readback : Option UInt32) : AfeCommandReply where
  accepted := true
  applied := true
  readback := readback
  faultCode := 0
  contextCode := 0
  message := ""

/-- The alignment is answered, board 0 times out, board 1 is read with delay 5 and bitslip 3, and
the other boards are unavailable. -/
def firstBoardSilent : ScriptedAfeTransport where
  script := [.ok (readbackReply none), .error .timeout, .ok (readbackReply (some 0x80030005))]

/-- The reading of board 1 is reported at the place of board 0. -/
theorem firstBoardSilent_not_attributed :
    ∃ response after, alignedResponse firstBoardSilent = .ok response after ∧
      readings firstBoardSilent = [none, some 0x80030005, none, none, none] ∧
      response.delay = [5] ∧ response.bitslip = [3] ∧
      ¬ Attributed response (readings firstBoardSilent) := by
  have hreadings : readings firstBoardSilent =
      [none, some 0x80030005, none, none, none] := by decide
  refine ⟨_, _, rfl, hreadings, rfl, rfl, ?_⟩
  intro hattributed
  obtain ⟨word, hword, -⟩ := hattributed 0 (by decide)
  rw [hreadings] at hword
  cases hword

/-- The same transport when every board answers. -/
def everyBoardAnswers : ScriptedAfeTransport where
  script := .ok (readbackReply none) ::
    [0x80010003, 0x80020004, 0x80030005, 0x80040006, 0x80050007].map fun word ↦
      .ok (readbackReply (some word))

theorem everyBoardAnswers_attributed :
    ∃ response after, alignedResponse everyBoardAnswers = .ok response after ∧
      response.delay = [3, 4, 5, 6, 7] ∧ response.bitslip = [1, 2, 3, 4, 5] ∧
      (Attributed response (readings everyBoardAnswers) ↔
        AlignUnanswered everyBoardAnswers ∨ NoGaps (readings everyBoardAnswers)) :=
  ⟨_, _, rfl, rfl, rfl, (aligned_attributed_iff rfl).2.2⟩

end DaphneSc.Server.Handlers
