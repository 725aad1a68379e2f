import DaphneSc.Bridge.Methods
import DaphneSc.Json.Text

/-!
# Exceptions in JSON

When an operation throws, its method answers with an object that says so. Quotation marks and
backslashes of the message are escaped, control characters are not.
-/

namespace DaphneSc.Bridge

open DaphneClient

/-- The text is a JSON object that reports a failure with the message. -/
def ReportsFailure (text message : Text) : Prop :=
  ∃ members, Json.parse text = some (.object members) ∧
    members.lookup "success".toList = some (.bool false) ∧
    members.lookup "message".toList = some (.string message)

/-- No character of the message is a control character. -/
def Printable (message : Text) : Prop := ∀ c ∈ message, ' ' ≤ c

variable {message rest tail content : Text} {err : RuntimeError} {fuel : ℕ} {ch : Char}

/-! ## Reading what is written -/

theorem escape_of_special (h : ch = '\x22' ∨ ch = '\\') : escape ch = ['\\', ch] := if_pos h

theorem escape_of_plain (h : ¬ (ch = '\x22' ∨ ch = '\\')) : escape ch = [ch] := if_neg h

theorem printable_iff_all : Printable message ↔ message.all (fun c ↦ ' ' ≤ c) = true := by
  simp only [Printable, List.all_eq_true, decide_eq_true_eq]

theorem printable_cons : Printable (ch :: message) ↔ ' ' ≤ ch ∧ Printable message :=
  List.forall_mem_cons

theorem stringBody_escape (h : ' ' ≤ ch) :
    Json.stringBody (fuel + 1) (escape ch ++ rest) =
      (Json.stringBody fuel rest).map fun read ↦ (ch :: read.1, read.2) := by
  by_cases hspecial : ch = '\x22' ∨ ch = '\\'
  · rw [escape_of_special hspecial]
    exact Json.stringBody_escaped hspecial
  · obtain ⟨hquote, hbackslash⟩ := not_or.mp hspecial
    rw [escape_of_plain hspecial]
    exact Json.stringBody_plain hquote hbackslash (Char.not_lt.mpr h)

theorem stringBody_escape_control (h : ch < ' ') :
    Json.stringBody fuel (escape ch ++ rest) = none := by
  have hspecial : ¬ (ch = '\x22' ∨ ch = '\\') := by
    intro hspecial
    cases hspecial with
    | inl heq => exact absurd (heq ▸ h) (by decide)
    | inr heq => exact absurd (heq ▸ h) (by decide)
  rw [escape_of_plain hspecial]
  exact Json.stringBody_control h

theorem length_escape_pos : 0 < (escape ch).length := by
  rw [escape]
  split
  · exact Nat.succ_pos _
  · exact Nat.succ_pos _

/-- What has been written for a printable message is read back. -/
theorem stringBody_flatMap_escape (h : Printable message)
    (hfuel : (message.flatMap escape).length < fuel) :
    Json.stringBody fuel (message.flatMap escape ++ '\x22' :: rest) = some (message, rest) := by
  obtain ⟨fuel, rfl⟩ := Nat.exists_eq_succ_of_ne_zero (Nat.ne_zero_of_lt hfuel)
  induction message generalizing fuel with
  | nil => exact Json.stringBody_quote
  | cons ch message ih =>
    obtain ⟨hch, hmessage⟩ := printable_cons.mp h
    rw [List.flatMap_cons, List.length_append] at hfuel
    have hpos : 0 < (escape ch).length := length_escape_pos
    obtain ⟨fuel, rfl⟩ := Nat.exists_eq_succ_of_ne_zero (by omega : fuel ≠ 0)
    calc
      _ = Json.stringBody (fuel + 2) (escape ch ++ (message.flatMap escape ++ '\x22' :: rest)) := by
          rw [List.flatMap_cons, List.append_assoc]
      _ = (Json.stringBody (fuel + 1) (message.flatMap escape ++ '\x22' :: rest)).map
            fun read ↦ (ch :: read.1, read.2) := stringBody_escape hch
      _ = some (ch :: message, rest) := by
          rw [ih hmessage fuel (by omega)]
          rfl

/-- A message with a control character is not read. -/
theorem stringBody_flatMap_escape_none (h : ¬ Printable message) :
    Json.stringBody fuel (message.flatMap escape ++ rest) = none := by
  induction message generalizing fuel with
  | nil => exact absurd (fun c hc ↦ absurd hc List.not_mem_nil) h
  | cons ch message ih =>
    rw [List.flatMap_cons, List.append_assoc]
    by_cases hcontrol : ch < ' '
    · exact stringBody_escape_control hcontrol
    · have hch : ' ' ≤ ch := Char.not_lt.mp hcontrol
      have hmessage : ¬ Printable message :=
        fun hmessage ↦ h (printable_cons.mpr ⟨hch, hmessage⟩)
      cases fuel with
      | zero => rfl
      | succ fuel =>
        rw [stringBody_escape hch, ih hmessage]
        rfl

/-! ## The object -/

abbrev errorOpening : Text := "\x7b\"success\":false,\"message\":\"".toList

abbrev errorMembers (message : Text) : List (Text × Json.Value) :=
  [("success".toList, .bool false), ("message".toList, .string message)]

theorem errorOpening_eq : errorOpening =
    ['\x7b', '\x22', 's', 'u', 'c', 'c', 'e', 's', 's', '\x22', ':', 'f', 'a', 'l', 's', 'e', ',',
      '\x22', 'm', 'e', 's', 's', 'a', 'g', 'e', '\x22', ':', '\x22'] := by
  simp only [errorOpening, String.reduceToList]

theorem lookup_message :
    (errorMembers message).lookup "message".toList = some (.string message) := rfl

theorem string_success :
    Json.string ('s' :: 'u' :: 'c' :: 'c' :: 'e' :: 's' :: 's' :: '\x22' :: rest) =
      some (['s', 'u', 'c', 'c', 'e', 's', 's'], rest) := rfl

theorem string_message :
    Json.string ('m' :: 'e' :: 's' :: 's' :: 'a' :: 'g' :: 'e' :: '\x22' :: rest) =
      some (['m', 'e', 's', 's', 'a', 'g', 'e'], rest) := rfl

/-- The text is read up to the message, and then the message decides. -/
theorem value_error : Json.value (fuel + 4) (errorOpening ++ tail) =
    (Json.members (fuel + 2) ('\x22' :: 'm' :: 'e' :: 's' :: 's' :: 'a' :: 'g' :: 'e' :: '\x22' ::
        ':' :: '\x22' :: tail)).map
      fun read ↦ (.object ((['s', 'u', 'c', 'c', 'e', 's', 's'], .bool false) :: read.1),
        read.2) := by
  rw [errorOpening_eq]
  simp only [List.cons_append, List.nil_append]
  rw [Json.value_object, Json.members_cons string_success Json.value_false, Option.map_map]
  rfl

theorem parse_eq : Json.parse (errorOpening ++ tail) =
    (Json.value (tail.length + 25 + 4) (errorOpening ++ tail)).bind
      fun read ↦ if Json.skipSpace read.2 = [] then some read.1 else none := by
  have hlength : errorOpening.length = 28 := by
    rw [errorOpening_eq]
    rfl
  rw [Json.parse, List.length_append, hlength, Nat.add_comm 28]
  rfl

theorem parse_error (h : Json.string tail = some (content, ['\x7d'])) :
    Json.parse (errorOpening ++ tail) = some (.object (errorMembers content)) := by
  have hvalue : Json.value (tail.length + 25 + 1) ('\x22' :: tail) =
      some (.string content, ['\x7d']) := by
    rw [Json.value_string, h]
    rfl
  rw [parse_eq, value_error, Json.members_single string_message hvalue]
  simp only [errorMembers, String.reduceToList]
  rfl

theorem parse_error_none (h : Json.string tail = none) :
    Json.parse (errorOpening ++ tail) = none := by
  have hvalue : Json.value (tail.length + 25 + 1) ('\x22' :: tail) = none := by
    rw [Json.value_string, h]
    rfl
  rw [parse_eq, value_error, Json.members_none string_message hvalue]
  rfl

theorem errorResponse_eq : errorResponse err =
    errorOpening ++ ((cString err).flatMap escape ++ ['\x22', '\x7d']) := by
  have hclosing : "\"\x7d".toList = ['\x22', '\x7d'] := by simp only [String.reduceToList]
  unfold errorResponse
  rw [List.append_assoc, hclosing]

theorem parse_errorResponse (h : Printable (cString err)) :
    Json.parse (errorResponse err) = some (.object (errorMembers (cString err))) := by
  rw [errorResponse_eq]
  apply parse_error
  apply stringBody_flatMap_escape h
  rw [List.length_append]
  omega

theorem parse_errorResponse_none (h : ¬ Printable (cString err)) :
    Json.parse (errorResponse err) = none := by
  rw [errorResponse_eq]
  exact parse_error_none (stringBody_flatMap_escape_none h)

/-! ## What is put out -/

theorem nulFree_cString : NulFree (cString err) := by
  intro hmem
  simpa using List.mem_takeWhile_imp hmem

theorem nulFree_escape (h : ch ≠ '\x00') : NulFree (escape ch) := by
  rw [NulFree, escape]
  split
  · simpa using h.symm
  · simpa using h.symm

theorem nulFree_errorResponse : NulFree (errorResponse err) := by
  have hopening : '\x00' ∉ errorOpening := by decide
  have hclosing : '\x00' ∉ ['\x22', '\x7d'] := by decide
  have hmessage : '\x00' ∉ (cString err).flatMap escape := by
    intro hmem
    obtain ⟨ch, hch, hescape⟩ := List.mem_flatMap.mp hmem
    exact nulFree_escape (fun heq ↦ nulFree_cString (heq ▸ hch)) hescape
  rw [errorResponse_eq, NulFree, List.mem_append, List.mem_append]
  exact not_or.mpr ⟨hopening, not_or.mpr ⟨hmessage, hclosing⟩⟩

theorem Printable.nulFree (h : Printable message) : NulFree message :=
  fun hmem ↦ absurd (h _ hmem) (by decide)

/-- The answer to an exception reports its message exactly when the message has no control
character. -/
theorem reportsFailure_iff : ReportsFailure (methodOutput (.error err)) err ↔ Printable err := by
  have houtput : methodOutput (.error err) = errorResponse err :=
    uaString_of_nulFree nulFree_errorResponse
  rw [houtput]
  constructor
  · intro h
    obtain ⟨members, hparse, -, hmessage⟩ := h
    by_cases hprintable : Printable (cString err)
    · rw [parse_errorResponse hprintable] at hparse
      have hmembers : errorMembers (cString err) = members := by simpa using hparse
      have heq : cString err = err := by
        rw [← hmembers, lookup_message] at hmessage
        simpa using hmessage
      rwa [heq] at hprintable
    · rw [parse_errorResponse_none hprintable] at hparse
      cases hparse
  · intro h
    have heq : cString err = err := uaString_of_nulFree h.nulFree
    have hprintable : Printable (cString err) := heq.symm ▸ h
    refine ⟨errorMembers err, ?_, rfl, lookup_message⟩
    rw [parse_errorResponse hprintable, heq]

section

variable {codecs : Codecs} {config : Config} {boards : List Board} {session : Option Credential}
  {methodContext : Option MethodContext} {context : MethodContext} {index : ℕ} {board : Board}
  {arguments : Arguments} {request : Text} {meeting : Meeting}

section

variable (hpassed : Passed boards session methodContext context index board)
  (hsize : 1 ≤ arguments.outputSize) (hinput : arguments.input = [some (.string request)])
  (herr : (execute codecs config.daphneEnabled config.daphneFake board.client
    context.policy.operation request meeting).outcome = some (.error err))
include hpassed hsize hinput herr

theorem result_of_error :
    (daphneMethodCallback codecs config boards session methodContext arguments meeting).result =
      some (.good, some (methodOutput (.error err))) := by
  rw [daphneMethodCallback_of_passed hpassed hsize hinput, invoke]
  dsimp only
  rw [herr]
  rfl

/-- When the execution that a method asks for throws, the method answers, and the answer is a JSON
object that reports a failure with the very message if and only if no character of the message is a
control character. -/
theorem error_reported_iff :
    ∃ text, (daphneMethodCallback codecs config boards session methodContext arguments
        meeting).result = some (.good, some text) ∧
      (ReportsFailure text err ↔ ∀ c ∈ err, ' ' ≤ c) :=
  ⟨methodOutput (.error err), result_of_error hpassed hsize hinput herr, reportsFailure_iff⟩

end

end

/-! ## An operation that throws -/

def expert : Credential := ⟨"operator".toList, "secret".toList, .Expert⟩

def expertContext (operation : Text) : MethodContext where
  allowedRoles := roleMask .Expert
  executable := true
  board := some 0
  policy := ⟨operation, [], [], roleMask .Expert, [], [], true⟩

def aloneBoard : Board where
  id := "015".toList
  client := { route := "mezz/0" }

/-- What the request `{"a" "b"}` is refused with, a text of three lines. -/
def unreadable : Text :=
  "INVALID_ARGUMENT:Expected : between key:value pair.\n\x7b\"a\" \"b\"\x7d\n     ^".toList

/-- A parser that refuses the request with this text. -/
def refusingCodecs (status : Text) : Codecs where
  envelope _ := none
  jsonToMessage _ _ := .error status
  messageToJson _ _ := none

abbrev unreadableCodecs : Codecs := refusingCodecs unreadable

theorem passed_expert (operation : Text) :
    Passed [aloneBoard] (some expert) (some (expertContext operation)) (expertContext operation) 0
      aloneBoard where
  context_eq := rfl
  index_eq := rfl
  board_eq := rfl
  executable := rfl
  roleAllowed := by
    change roleAllowed (some expert) (roleMask .Expert) = true
    decide

def plainConfig : Config where
  configPath := []

def wordBias : Text := "\x7b\"vBiasControlValue\":\"x\"\x7d".toList

/-- What this request for a bias is refused with. -/
def notANumber : Text :=
  "INVALID_ARGUMENT:(vBiasControlValue): invalid value \"x\" for type TYPE_UINT32".toList

theorem error_reported_iff_quoted :
    ∃ text, (daphneMethodCallback (refusingCodecs notANumber) plainConfig [aloneBoard] (some expert)
        (some (expertContext "SetControlledBias".toList)) ⟨[some (.string wordBias)], 1⟩
        ⟨0, true, []⟩).result = some (.good, some text) ∧
      ReportsFailure text ("invalid SetControlledBias JSON: ".toList ++ notANumber) := by
  have herr : (execute (refusingCodecs notANumber) plainConfig.daphneEnabled plainConfig.daphneFake
      aloneBoard.client (expertContext "SetControlledBias".toList).policy.operation wordBias
      ⟨0, true, []⟩).outcome =
        some (.error ("invalid SetControlledBias JSON: ".toList ++ notANumber)) := by
    decide +kernel
  have hinput : (⟨[some (.string wordBias)], 1⟩ : Arguments).input = [some (.string wordBias)] :=
    rfl
  obtain ⟨text, hresult, hreports⟩ :=
    error_reported_iff (passed_expert "SetControlledBias".toList) (le_refl 1) hinput herr
  exact ⟨text, hresult, hreports.mpr (printable_iff_all.mpr (by decide +kernel))⟩

def brokenRequest : Text := "\x7b\"a\" \"b\"\x7d".toList

/-- The message that is thrown has line breaks, and the answer is no JSON object that has it. -/
theorem unreadable_not_reported :
    ∃ err text, (execute unreadableCodecs plainConfig.daphneEnabled plainConfig.daphneFake
        aloneBoard.client (expertContext "AlignAfes".toList).policy.operation brokenRequest
        ⟨0, true, []⟩).outcome = some (.error err) ∧
      (daphneMethodCallback unreadableCodecs plainConfig [aloneBoard] (some expert)
        (some (expertContext "AlignAfes".toList)) ⟨[some (.string brokenRequest)], 1⟩
        ⟨0, true, []⟩).result = some (.good, some text) ∧
      ¬ ReportsFailure text err := by
  have herr : (execute unreadableCodecs plainConfig.daphneEnabled plainConfig.daphneFake
      aloneBoard.client (expertContext "AlignAfes".toList).policy.operation brokenRequest
      ⟨0, true, []⟩).outcome = some (.error ("invalid AlignAfes JSON: ".toList ++ unreadable)) := by
    decide +kernel
  have hcontrol : ¬ Printable ("invalid AlignAfes JSON: ".toList ++ unreadable) := by
    rw [printable_iff_all]
    decide +kernel
  have hinput : (⟨[some (.string brokenRequest)], 1⟩ : Arguments).input =
      [some (.string brokenRequest)] := rfl
  exact ⟨_, _, herr, result_of_error (passed_expert _) (le_refl 1) hinput herr,
    fun hreports ↦ hcontrol (reportsFailure_iff.mp hreports)⟩

end DaphneSc.Bridge
