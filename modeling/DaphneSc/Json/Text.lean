import Mathlib.Data.List.Basic
import Mathlib.Tactic.Common

/-!
# JSON texts

A reader of JSON texts over Unicode characters, by the grammar of the format: white space between
the tokens, the three literals, numbers, strings with their escapes, arrays and objects. Below the
space no character stands in a string by itself. The fuel of a reader bounds the depth of the text
or the length of a string, and is never short when it exceeds the length of the text. A reader
returns what it has read and the rest of the text.
-/

namespace Json

/-- A number is kept as it is written. -/
inductive Value where
  | null
  | bool (value : Bool)
  | number (digits : List Char)
  | string (content : List Char)
  | array (elements : List Value)
  | object (members : List (List Char × Value))

def isSpace (c : Char) : Bool := c = ' ' ∨ c = '\t' ∨ c = '\n' ∨ c = '\r'

def skipSpace (text : List Char) : List Char := text.dropWhile isSpace

/-- A character has to come next. -/
def expect (c : Char) : List Char → Option (List Char)
  | [] => none
  | d :: rest => if d = c then some rest else none

/-! ## Strings -/

def hexDigit (c : Char) : Option ℕ :=
  if '0' ≤ c ∧ c ≤ '9' then some (c.toNat - '0'.toNat)
  else if 'a' ≤ c ∧ c ≤ 'f' then some (c.toNat - 'a'.toNat + 10)
  else if 'A' ≤ c ∧ c ≤ 'F' then some (c.toNat - 'A'.toNat + 10)
  else none

/-- The code unit of four hexadecimal digits. -/
def codeUnit : List Char → Option (ℕ × List Char)
  | a :: b :: c :: d :: rest => do
    return ((((← hexDigit a) * 16 + (← hexDigit b)) * 16 + (← hexDigit c)) * 16 + (← hexDigit d),
      rest)
  | _ => none

/-- The character behind `\u`. One outside the basic plane takes two code units. -/
def unicodeEscape (text : List Char) : Option (Char × List Char) := do
  let (unit, rest) ← codeUnit text
  if unit < 0xD800 ∨ 0xDFFF < unit then some (Char.ofNat unit, rest)
  else if unit < 0xDC00 then
    match rest with
    | '\\' :: 'u' :: rest => do
      let (low, rest) ← codeUnit rest
      if 0xDC00 ≤ low ∧ low ≤ 0xDFFF then
        some (Char.ofNat (0x10000 + (unit - 0xD800) * 0x400 + (low - 0xDC00)), rest)
      else none
    | _ => none
  else none

/-- The character behind a backslash. -/
def escaped : List Char → Option (Char × List Char)
  | [] => none
  | c :: rest =>
    if c = '\x22' ∨ c = '\\' ∨ c = '/' then some (c, rest)
    else if c = 'b' then some ('\x08', rest)
    else if c = 'f' then some ('\x0c', rest)
    else if c = 'n' then some ('\n', rest)
    else if c = 'r' then some ('\r', rest)
    else if c = 't' then some ('\t', rest)
    else if c = 'u' then unicodeEscape rest
    else none

/-- The content of a string up to its closing quotation mark. -/
def stringBody : ℕ → List Char → Option (List Char × List Char)
  | 0, _ => none
  | _, [] => none
  | fuel + 1, c :: rest =>
    if c = '\x22' then some ([], rest)
    else if c = '\\' then do
      let (ch, rest) ← escaped rest
      let (content, rest) ← stringBody fuel rest
      return (ch :: content, rest)
    else if c < ' ' then none
    else do
      let (content, rest) ← stringBody fuel rest
      return (c :: content, rest)

/-- A string behind its opening quotation mark. -/
def string (text : List Char) : Option (List Char × List Char) := stringBody (text.length + 1) text

/-! ## Numbers -/

def isDigit (c : Char) : Bool := '0' ≤ c ∧ c ≤ '9'

/-- At least one digit. -/
def digits (text : List Char) : Option (List Char × List Char) :=
  match text.takeWhile isDigit with
  | [] => none
  | ds => some (ds, text.dropWhile isDigit)

/-- A leading zero stands alone. -/
def integer : List Char → Option (List Char × List Char)
  | '0' :: rest => some (['0'], rest)
  | text => digits text

def fraction : List Char → Option (List Char × List Char)
  | '.' :: rest => do
    let (ds, rest) ← digits rest
    return ('.' :: ds, rest)
  | text => some ([], text)

def exponent : List Char → Option (List Char × List Char)
  | [] => some ([], [])
  | c :: rest =>
    if c = 'e' ∨ c = 'E' then do
      let (sign, rest) := match rest with
        | '+' :: rest => (['+'], rest)
        | '-' :: rest => (['-'], rest)
        | rest => ([], rest)
      let (ds, rest) ← digits rest
      return (c :: sign ++ ds, rest)
    else some ([], c :: rest)

def number (text : List Char) : Option (List Char × List Char) := do
  let (sign, rest) := match text with
    | '-' :: rest => (['-'], rest)
    | rest => ([], rest)
  let (whole, rest) ← integer rest
  let (part, rest) ← fraction rest
  let (power, rest) ← exponent rest
  return (sign ++ whole ++ part ++ power, rest)

/-! ## Values -/

mutual

/-- A value, white space before it left out. -/
def value : ℕ → List Char → Option (Value × List Char)
  | 0, _ => none
  | fuel + 1, text =>
    match skipSpace text with
    | '\x7b' :: rest =>
      match expect '\x7d' (skipSpace rest) with
      | some rest => some (.object [], rest)
      | none => do
        let (ms, rest) ← members fuel rest
        return (.object ms, rest)
    | '[' :: rest =>
      match expect ']' (skipSpace rest) with
      | some rest => some (.array [], rest)
      | none => do
        let (es, rest) ← elements fuel rest
        return (.array es, rest)
    | '\x22' :: rest => do
      let (content, rest) ← string rest
      return (.string content, rest)
    | 't' :: 'r' :: 'u' :: 'e' :: rest => some (.bool true, rest)
    | 'f' :: 'a' :: 'l' :: 's' :: 'e' :: rest => some (.bool false, rest)
    | 'n' :: 'u' :: 'l' :: 'l' :: rest => some (.null, rest)
    | rest => do
      let (ds, rest) ← number rest
      return (.number ds, rest)

/-- The members of an object up to its closing brace. -/
def members : ℕ → List Char → Option (List (List Char × Value) × List Char)
  | 0, _ => none
  | fuel + 1, text => do
    let rest ← expect '\x22' (skipSpace text)
    let (key, rest) ← string rest
    let rest ← expect ':' (skipSpace rest)
    let (v, rest) ← value fuel rest
    match expect ',' (skipSpace rest) with
    | some rest =>
      let (ms, rest) ← members fuel rest
      return ((key, v) :: ms, rest)
    | none =>
      let rest ← expect '\x7d' (skipSpace rest)
      return ([(key, v)], rest)

/-- The elements of an array up to its closing bracket. -/
def elements : ℕ → List Char → Option (List Value × List Char)
  | 0, _ => none
  | fuel + 1, text => do
    let (v, rest) ← value fuel text
    match expect ',' (skipSpace rest) with
    | some rest =>
      let (es, rest) ← elements fuel rest
      return (v :: es, rest)
    | none =>
      let rest ← expect ']' (skipSpace rest)
      return ([v], rest)

end

/-- The value of a whole text. -/
def parse (text : List Char) : Option Value := do
  let (v, rest) ← value (text.length + 1) text
  if skipSpace rest = [] then some v else none

/-! ## Reading a string -/

variable {fuel : ℕ} {c : Char} {rest : List Char}

theorem stringBody_quote : stringBody (fuel + 1) ('\x22' :: rest) = some ([], rest) := rfl

/-- A quotation mark or a backslash is written behind a backslash. -/
theorem stringBody_escaped (h : c = '\x22' ∨ c = '\\') :
    stringBody (fuel + 1) ('\\' :: c :: rest) =
      (stringBody fuel rest).map fun read ↦ (c :: read.1, read.2) := by
  have hescaped : escaped (c :: rest) = some (c, rest) := by
    rw [escaped, if_pos (or_assoc.mp (Or.inl h))]
  have hquote : ¬ '\\' = '\x22' := by decide
  rw [stringBody, if_neg hquote, if_pos rfl, hescaped]
  change (stringBody fuel rest >>= _) = _
  cases stringBody fuel rest with
  | none => rfl
  | some read => rfl

theorem stringBody_control (h : c < ' ') : stringBody fuel (c :: rest) = none := by
  cases fuel with
  | zero => rfl
  | succ fuel =>
    have hquote : c ≠ '\x22' := by
      rintro rfl
      exact absurd h (by decide)
    have hbackslash : c ≠ '\\' := by
      rintro rfl
      exact absurd h (by decide)
    rw [stringBody, if_neg hquote, if_neg hbackslash, if_pos h]

/-- Every other character stands for itself. -/
theorem stringBody_plain (hquote : c ≠ '\x22') (hbackslash : c ≠ '\\') (h : ¬ c < ' ') :
    stringBody (fuel + 1) (c :: rest) =
      (stringBody fuel rest).map fun read ↦ (c :: read.1, read.2) := by
  rw [stringBody, if_neg hquote, if_neg hbackslash, if_neg h]
  cases stringBody fuel rest with
  | none => rfl
  | some read => rfl

/-! ## Reading an object without white space -/

variable {text key rest' : List Char} {v : Value}

theorem value_false : value (fuel + 1) ('f' :: 'a' :: 'l' :: 's' :: 'e' :: rest) =
    some (.bool false, rest) := rfl

theorem value_string : value (fuel + 1) ('\x22' :: rest) =
    (string rest).map fun read ↦ (.string read.1, read.2) := by
  change (string rest >>= _) = _
  cases string rest with
  | none => rfl
  | some read => rfl

theorem value_object : value (fuel + 1) ('\x7b' :: '\x22' :: rest) =
    (members fuel ('\x22' :: rest)).map fun read ↦ (.object read.1, read.2) := by
  change (members fuel ('\x22' :: rest) >>= _) = _
  cases members fuel ('\x22' :: rest) with
  | none => rfl
  | some read => rfl

section

variable (hkey : string text = some (key, ':' :: rest))
include hkey

theorem members_cons (hvalue : value fuel rest = some (v, ',' :: rest')) :
    members (fuel + 1) ('\x22' :: text) =
      (members fuel rest').map fun read ↦ ((key, v) :: read.1, read.2) := by
  change (string text >>= _) = _
  rw [hkey]
  change (value fuel rest >>= _) = _
  rw [hvalue]
  change (members fuel rest' >>= _) = _
  cases members fuel rest' with
  | none => rfl
  | some read => rfl

theorem members_single (hvalue : value fuel rest = some (v, '\x7d' :: rest')) :
    members (fuel + 1) ('\x22' :: text) = some ([(key, v)], rest') := by
  change (string text >>= _) = _
  rw [hkey]
  change (value fuel rest >>= _) = _
  rw [hvalue]
  rfl

theorem members_none (hvalue : value fuel rest = none) :
    members (fuel + 1) ('\x22' :: text) = none := by
  change (string text >>= _) = _
  rw [hkey]
  change (value fuel rest >>= _) = _
  rw [hvalue]
  rfl

end

end Json
