import Mathlib.Data.List.DropRight
import DaphneSc.Core.ClockChipAccesses
import DaphneSc.Program.Results

/-!
# The clock-chip tool

The tool restricts the programming of the clock chip to the registers its option `--only` names.
Blank tokens of the option are dropped, so an option of blank tokens alone names no register and
restricts nothing.
-/

namespace DaphneSc.Server.ClockChipTool

open Core.ClockChip Program Program.Results

/-! ## Numbers -/

abbrev Text := List Char

inductive IntErrorKind where
  | empty
  | invalidDigit
  | posOverflow
  deriving DecidableEq

/-- What was wrong with a number. -/
inductive Source where
  | parseInt (kind : IntErrorKind)
  | tryFromInt
  deriving DecidableEq

structure ToolError where
  context : Text
  source : Source
  deriving DecidableEq

/-- The characters with the property `White_Space`. -/
def isWhitespace (c : Char) : Bool :=
  (9 ≤ c.toNat && c.toNat ≤ 13) || (0x2000 ≤ c.toNat && c.toNat ≤ 0x200A) ||
    [0x20, 0x85, 0xA0, 0x1680, 0x2028, 0x2029, 0x202F, 0x205F, 0x3000].contains c.toNat

def trim (value : Text) : Text := (value.dropWhile isWhitespace).rdropWhile isWhitespace

def toDigit (radix : ℕ) (c : Char) : Option ℕ :=
  let digit :=
    if '0' ≤ c ∧ c ≤ '9' then c.toNat - '0'.toNat
    else if 'a' ≤ c ∧ c ≤ 'z' then c.toNat - 'a'.toNat + 10
    else if 'A' ≤ c ∧ c ≤ 'Z' then c.toNat - 'A'.toNat + 10
    else radix
  if digit < radix then some digit else none

/-- The loop of `u16::from_str_radix`. -/
def fromDigits (radix : ℕ) : Text → ℕ → Except IntErrorKind UInt16
  | [], value => .ok (UInt16.ofNat value)
  | c :: digits, value =>
    match toDigit radix c with
    | none => .error .invalidDigit
    | some digit =>
      if value * radix + digit > 65535 then .error .posOverflow
      else fromDigits radix digits (value * radix + digit)

def fromStrRadix (radix : ℕ) : Text → Except IntErrorKind UInt16
  | [] => .error .empty
  | ['+'] | ['-'] => .error .invalidDigit
  | '+' :: digits => fromDigits radix digits 0
  | digits => fromDigits radix digits 0

def parseU16 (value : Text) : Except ToolError UInt16 :=
  match trim value with
  | '0' :: 'x' :: hex | '0' :: 'X' :: hex =>
    (fromStrRadix 16 hex).mapError fun kind ↦
      ⟨"invalid hex integer: ".toList ++ value, .parseInt kind⟩
  | trimmed =>
    (fromStrRadix 10 trimmed).mapError fun kind ↦
      ⟨"invalid integer: ".toList ++ value, .parseInt kind⟩

def parseU8 (value : Text) : Except ToolError UInt8 := do
  let parsed ← parseU16 value
  if parsed.toNat < 256 then
    return parsed.toUInt8
  else
    throw ⟨"value out of u8 range: ".toList ++ value, .tryFromInt⟩

/-! ## Ranges -/

/-- The parts before and after the first occurrence of a character. -/
def splitOnce (c : Char) : Text → Option (Text × Text)
  | [] => none
  | d :: rest =>
    if d = c then some ([], rest)
    else (splitOnce c rest).map fun parts ↦ (d :: parts.1, parts.2)

def parseRange (token : Text) : Except ToolError ClockChipRange :=
  match splitOnce '-' (trim token) with
  | some (start, «end») => do
    return .new (← parseU8 start) (← parseU8 «end»)
  | none => do
    let register ← parseU8 (trim token)
    return .new register register

def parseRanges (value : Text) : Except ToolError (List ClockChipRange) :=
  ((value.splitOn ',').filter fun token ↦ !(trim token).isEmpty).mapM parseRange

/-! ## The registers that a token names -/

/-- The token is the register, or two registers with it in between. -/
def Names (token : Text) (register : UInt8) : Prop :=
  match splitOnce '-' (trim token) with
  | some (start, «end») => ∃ a b, parseU8 start = .ok a ∧ parseU8 «end» = .ok b ∧
      (a ≤ register ∧ register ≤ b ∨ b ≤ register ∧ register ≤ a)
  | none => parseU8 (trim token) = .ok register

theorem contains_new_iff {a b register : UInt8} :
    (ClockChipRange.new a b).contains register = true ↔
      a ≤ register ∧ register ≤ b ∨ b ≤ register ∧ register ≤ a := by
  unfold ClockChipRange.new
  split
  · rename_i hle
    simp only [ClockChipRange.contains, Bool.and_eq_true, decide_eq_true_eq]
    rw [UInt8.le_iff_toNat_le] at hle
    simp only [UInt8.le_iff_toNat_le]
    omega
  · rename_i hgt
    simp only [ClockChipRange.contains, Bool.and_eq_true, decide_eq_true_eq]
    rw [UInt8.le_iff_toNat_le] at hgt
    simp only [UInt8.le_iff_toNat_le]
    omega

/-- The range of a token contains exactly the registers it names. -/
theorem names_of_contains {token : Text} {range : ClockChipRange} {register : UInt8}
    (h : parseRange token = .ok range) (hcontains : range.contains register = true) :
    Names token register := by
  unfold parseRange at h
  unfold Names
  cases hsplit : splitOnce '-' (trim token) with
  | none =>
    rw [hsplit] at h
    obtain ⟨parsed, hparsed, hrange⟩ := bind_ok_iff.mp h
    rw [← pure_ok_iff.mp hrange, contains_new_iff] at hcontains
    have hsame : parsed = register := by
      simp only [UInt8.le_iff_toNat_le] at hcontains
      exact UInt8.toNat_inj.mp (by omega)
    rw [← hsame]
    exact hparsed
  | some parts =>
    rw [hsplit] at h
    obtain ⟨a, ha, hrest⟩ := bind_ok_iff.mp h
    obtain ⟨b, hb, hrange⟩ := bind_ok_iff.mp hrest
    rw [← pure_ok_iff.mp hrange, contains_new_iff] at hcontains
    exact ⟨a, b, ha, hb, hcontains⟩

/-- A blank token names nothing. -/
theorem not_names_of_blank {token : Text} (h : trim token = []) (register : UInt8) :
    ¬ Names token register := by
  unfold Names
  rw [h]
  exact fun hparsed ↦ nomatch hparsed

/-! ## What is written -/

/-- With these ranges, whatever the bus does, a register of the table is written only if a token of
the option names it. -/
def WritesOnlyNamed (value : Text) (ranges : List ClockChipRange) : Prop :=
  ∀ (B X : Type) [ClockChipBus B X] (verify reset : Bool) (bus : B),
    ∀ entry ∈ clockchipRegisters, ∀ written,
      .write entry.register written ∈
        ((final (programClockChip { verify, reset, ranges } : Prog (ClockChipError X) _ _)
          (⟨bus, []⟩ : Watched B X)).accesses.map Access.request) →
      ∃ token ∈ value.splitOn ',', Names token entry.register

section Writes

variable {B X : Type} [ClockChipBus B X]

theorem includes_of_written {options : ClockChipProgramOptions} {bus : B}
    {entry : ClockChipRegister}
    (hentry : entry ∈ clockchipRegisters) {written : UInt8}
    (h : .write entry.register written ∈
      ((final (programClockChip options : Prog (ClockChipError X) _ _)
        (⟨bus, []⟩ : Watched B X)).accesses.map Access.request)) :
    options.includes entry.register = true := by
  obtain ⟨entries, haccesses, hprefix⟩ :=
    (makes_programClockChip options).final (⟨bus, []⟩ : Watched B X)
  rw [haccesses, List.nil_append] at h
  have hscript := hprefix.subset h
  rw [List.map_append, List.mem_append] at hscript
  cases hscript with
  | inl htable =>
    obtain ⟨access, haccess, hrequest⟩ := List.mem_map.mp htable
    obtain ⟨selected, hselected, haccess⟩ := List.mem_flatMap.mp haccess
    unfold entryAccesses at haccess
    cases List.mem_cons.mp haccess with
    | inl hwrite =>
      rw [hwrite] at hrequest
      rw [← (Request.write.inj hrequest).1]
      exact (List.mem_filter.mp hselected).2
    | inr hread =>
      split at hread
      · rw [List.mem_singleton.mp hread] at hrequest
        cases hrequest
      · exact absurd hread List.not_mem_nil
  | inr hreset =>
    obtain ⟨access, haccess, hrequest⟩ := List.mem_map.mp hreset
    unfold resetAccesses at haccess
    split at haccess
    · obtain ⟨value, -, rfl⟩ := List.mem_map.mp haccess
      exact absurd (Request.write.inj hrequest).1.symm (register_ne_reset hentry)
    · exact absurd haccess List.not_mem_nil

end Writes

/-- Without ranges the first register of the table is written on a bus that stores. -/
theorem written_of_no_ranges {options : ClockChipProgramOptions} (h : options.ranges = [])
    (bus : FakeBus) :
    .write 0x06 0x08 ∈ ((final (programClockChip options : Prog (ClockChipError Empty) _ _)
      (⟨bus, []⟩ : Watched FakeBus Empty)).accesses.map Access.request) := by
  obtain ⟨report, after, hrun, -⟩ := ok_of_wp (stores_fakeBus.wp_programClockChip options bus)
  have hwatched := simulates_programClockChip options (⟨bus, []⟩ : Watched FakeBus Empty)
  rw [hrun] at hwatched
  cases hend : (programClockChip options : Prog (ClockChipError Empty) _ _)
      (⟨bus, []⟩ : Watched FakeBus Empty) with
  | error e watched =>
    rw [hend] at hwatched
    cases hwatched
  | ok report' watched =>
    have haccesses := ((makes_programClockChip options).ok hend).2
    unfold final
    rw [hend]
    dsimp only
    rw [haccesses]
    have hselected : reg 0x06 0x08 ∈ options.selected :=
      List.mem_filter.mpr ⟨List.mem_cons_self, by simp [ClockChipProgramOptions.includes, h]⟩
    have htable : .write 0x06 0x08 (.ok ()) ∈ tableAccesses Empty options :=
      List.mem_flatMap.mpr ⟨_, hselected, List.mem_cons_self⟩
    exact List.mem_map_of_mem (f := Access.request) (List.mem_append_left _ htable)

/-- The option restricts the writes to the registers it names exactly when it has a token that is
not blank. -/
theorem writesOnlyNamed_iff {value : Text} {ranges : List ClockChipRange}
    (h : parseRanges value = .ok ranges) :
    WritesOnlyNamed value ranges ↔ ∃ token ∈ value.splitOn ',', trim token ≠ [] := by
  have hranges := mapM_ok_iff.mp h
  constructor
  · intro honly
    by_contra hblank
    have hnone : (value.splitOn ',').filter (fun token ↦ !(trim token).isEmpty) = [] := by
      rw [List.filter_eq_nil_iff]
      intro token htoken hnonblank
      exact hblank ⟨token, htoken, by simpa using hnonblank⟩
    rw [hnone, List.forall₂_nil_left_iff] at hranges
    subst hranges
    obtain ⟨token, htoken, hnames⟩ := honly FakeBus Empty false true ⟨fun _ ↦ 0⟩ (reg 0x06 0x08)
      List.mem_cons_self 0x08 (written_of_no_ranges rfl _)
    have htrim : trim token = [] := by
      by_contra hne
      exact hblank ⟨token, htoken, hne⟩
    exact not_names_of_blank htrim _ hnames
  · rintro ⟨token, htoken, hnonblank⟩ B X _ verify reset bus entry hentry written hwritten
    have hincludes := includes_of_written hentry hwritten
    have hne : ranges ≠ [] := by
      rintro rfl
      have hnone := (List.forall₂_nil_right_iff.mp hranges)
      rw [List.filter_eq_nil_iff] at hnone
      exact hnone token htoken (by simpa using hnonblank)
    have hany : ranges.any (·.contains entry.register) = true := by
      simpa [ClockChipProgramOptions.includes, hne] using hincludes
    obtain ⟨range, hrange, hcontains⟩ := List.any_eq_true.mp hany
    obtain ⟨source, hsource, hparse⟩ := exists_of_mem_mapM h hrange
    exact ⟨source, List.mem_of_mem_filter hsource, names_of_contains hparse hcontains⟩

/-- The option of the usage text. -/
theorem writesOnlyNamed_usage :
    WritesOnlyNamed "0x1C-0x2A,0xE6".toList [⟨0x1C, 0x2A⟩, ⟨0xE6, 0xE6⟩] :=
  (writesOnlyNamed_iff rfl).mpr ⟨"0xE6".toList, by decide, by decide⟩

/-- An option of two blank tokens names no register, and all registers are written. -/
theorem blank_option_writes :
    ¬ ∀ value ranges, parseRanges value = .ok ranges → WritesOnlyNamed value ranges := by
  intro hclaim
  have haccepted : parseRanges " ,".toList = .ok [] := rfl
  obtain ⟨token, htoken, hnames⟩ := hclaim _ _ haccepted FakeBus Empty false true ⟨fun _ ↦ 0⟩
    (reg 0x06 0x08) List.mem_cons_self 0x08 (written_of_no_ranges rfl _)
  have htokens : " ,".toList.splitOn ',' = [[' '], []] := rfl
  rw [htokens] at htoken
  apply not_names_of_blank _ _ hnames
  rcases List.mem_cons.mp htoken with rfl | hlast
  · rfl
  · rw [List.mem_singleton.mp hlast]
    rfl

end DaphneSc.Server.ClockChipTool
