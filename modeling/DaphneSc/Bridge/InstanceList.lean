import DaphneSc.Bridge.Config
import DaphneSc.Program.Fuel

/-!
# Instance lists

A list of instances is written with commas, and a range of numbers with two dots. The bounds of a
range are read as 64-bit numbers and kept as 32-bit ones, and the range is counted up to and
including its end. So a bound that does not fit is replaced by another number, and a range that ends
at the largest number is never through.
-/

namespace DaphneSc.Bridge.Registry

open Program Program.Fuelled Strings

/-! ## Numbers -/

def isSpace (c : Char) : Bool := c ∈ [' ', '\t', '\n', '\x0b', '\x0c', '\r']

/-- The digits at the beginning of a text. -/
def leadingNumber (str : Text) : Except RuntimeError UInt64 :=
  let digits := str.takeWhile Char.isDigit
  if digits = [] ∨ 2 ^ 64 ≤ Nat.ofDigitChars 10 digits 0 then
    .error "stoul".toList
  else
    .ok (UInt64.ofNat (Nat.ofDigitChars 10 digits 0))

/-- `std::stoul`; a minus sign negates in the result type. -/
def stoul (str : Text) : Except RuntimeError UInt64 :=
  match (str.takeWhile (· ≠ '\x00')).dropWhile isSpace with
  | '-' :: rest => (leadingNumber rest).map fun number ↦ -number
  | '+' :: rest => leadingNumber rest
  | rest => leadingNumber rest

/-! ## Ranges -/

/-- The loop of `numericRange`. -/
def numericRangeLoop (last : UInt32) : ℕ → UInt32 → List Text → Fuelled RuntimeError (List Text)
  | 0, _, _ => endless
  | fuel + 1, value, values =>
    if value ≤ last then
      numericRangeLoop last fuel (value + 1) (values ++ [toText value.toNat])
    else
      returned values

/-- The numbers on the two sides of the first two dots of an item. -/
def bounds (item : Text) (range : ℕ) : Except RuntimeError (UInt64 × UInt64) := do
  let first ← stoul (trim (item.take range))
  let last ← stoul (trim (item.drop (range + 2)))
  return (first, last)

section Items

variable (numericRange : UInt32 → UInt32 → Fuelled RuntimeError (List Text))

/-- What one item stands for. -/
def instanceItem (item : Text) : Fuelled RuntimeError (List Text) :=
  match find item "..".toList 0 with
  | none => returned [item]
  | some range => do
    let (first, last) ← ofFallible (bounds item range)
    let first := first.toUInt32
    let last := last.toUInt32
    if last < first ∨ last - first > 10000 then
      failed ("invalid registry instance range: ".toList ++ item)
    else
      numericRange first last

/-- The items of a list, without the blank ones. -/
def instanceItems (value : Text) : List Text := ((getlines ',' value).map trim).filter (· ≠ [])

def parseInstanceListWith (value : Text) : Fuelled RuntimeError (List Text) := do
  let result ← collect (instanceItem numericRange) (instanceItems value) []
  if result = [] then failed "empty registry instance list".toList else returned result

end Items

def parseInstanceList (fuel : ℕ) (value : Text) : Fuelled RuntimeError (List Text) :=
  parseInstanceListWith (fun first last ↦ numericRangeLoop last fuel first []) value

/-! ## What the loop comes to -/

/-- The strings of a range that has an end. -/
def countedRange (first last : UInt32) : Fuelled RuntimeError (List Text) :=
  if last.toNat = 2 ^ 32 - 1 then endless else returned (numericRange first.toNat last.toNat)

theorem numericRangeLoop_endless {last : UInt32} (h : last.toNat = 2 ^ 32 - 1) (fuel : ℕ)
    (value : UInt32) (values : List Text) : numericRangeLoop last fuel value values = endless := by
  induction fuel generalizing value values with
  | zero => rfl
  | succ fuel ih =>
    have hle : value ≤ last := by
      rw [UInt32.le_iff_toNat_le, h]
      have hlt := value.toNat_lt
      omega
    rw [numericRangeLoop, if_pos hle, ih]

/-- A loop that has an end needs one pass for every number left and one more. -/
theorem numericRangeLoop_eq {last : UInt32} (h : last.toNat < 2 ^ 32 - 1) (fuel : ℕ)
    {value : UInt32} (hvalue : value.toNat ≤ last.toNat + 1) (values : List Text) :
    numericRangeLoop last fuel value values =
      if last.toNat + 2 ≤ value.toNat + fuel then
        returned (values ++ numericRange value.toNat last.toNat)
      else
        endless := by
  induction fuel generalizing value values with
  | zero => rw [numericRangeLoop, if_neg (by omega)]
  | succ fuel ih =>
    unfold numericRangeLoop
    by_cases hle : value ≤ last
    · have hle' := UInt32.le_iff_toNat_le.mp hle
      have hnext : (value + 1).toNat = value.toNat + 1 := by
        rw [UInt32.toNat_add]
        exact Nat.mod_eq_of_lt (by change value.toNat + 1 < 2 ^ 32; omega)
      have hcount :
          last.toNat + 1 - value.toNat = last.toNat + 1 - (value.toNat + 1) + 1 := by omega
      have hrange : numericRange value.toNat last.toNat =
          toText value.toNat :: numericRange (value.toNat + 1) last.toNat := by
        rw [numericRange, hcount, List.range'_succ, List.map_cons, numericRange]
      rw [if_pos hle, ih (by omega), hnext, hrange, List.append_assoc, List.singleton_append,
        Nat.add_right_comm, ← Nat.add_assoc]
    · have hgt : value.toNat = last.toNat + 1 := by
        have hlt := mt UInt32.le_iff_toNat_le.mpr hle
        omega
      have hnone : numericRange value.toNat last.toNat = [] := by
        rw [numericRange, hgt, Nat.sub_self]
        rfl
      rw [if_neg hle, if_pos (by omega), hnone, List.append_nil]

theorem computes_numericRange {first last : UInt32} (h : first ≤ last) :
    Computes (fun fuel ↦ numericRangeLoop last fuel first []) (countedRange first last) := by
  have hle := UInt32.le_iff_toNat_le.mp h
  have hlt := last.toNat_lt
  unfold countedRange
  split
  · rename_i hlast
    simp only [numericRangeLoop_endless hlast]
    exact Computes.const _
  · have heq (fuel : ℕ) : numericRangeLoop last fuel first [] =
        if last.toNat + 2 ≤ first.toNat + fuel then
          returned (numericRange first.toNat last.toNat)
        else
          endless :=
      numericRangeLoop_eq (by omega) fuel (by omega) []
    constructor
    · intro fuel
      rw [heq fuel]
      split
      · exact .inr rfl
      · exact .inl rfl
    · refine ⟨last.toNat + 2, fun fuel hfuel ↦ ?_⟩
      rw [heq fuel, if_pos (by omega)]

theorem computes_instanceItem (item : Text) :
    Computes (fun fuel ↦ instanceItem (fun first last ↦ numericRangeLoop last fuel first []) item)
      (instanceItem countedRange item) := by
  unfold instanceItem
  cases find item "..".toList 0 with
  | none => exact Computes.const _
  | some range =>
    apply (Computes.const _).bind
    intro sides
    dsimp only
    by_cases hrefused : sides.2.toUInt32 < sides.1.toUInt32 ∨
        sides.2.toUInt32 - sides.1.toUInt32 > 10000
    · simp only [if_pos hrefused]
      exact Computes.const _
    · simp only [if_neg hrefused]
      exact computes_numericRange (UInt32.not_lt.mp fun hlt ↦ hrefused (.inl hlt))

/-- A list comes to what it comes to with ranges that are counted at once. -/
theorem computes_parseInstanceList (value : Text) :
    Computes (fun fuel ↦ parseInstanceList fuel value)
      (parseInstanceListWith countedRange value) :=
  (Computes.collect computes_instanceItem _ []).bind fun _ ↦ Computes.const _

/-! ## What a list says -/

/-- The strings an item stands for, with its bounds as they are written. -/
def Written (item : Text) (part : List Text) : Prop :=
  match find item "..".toList 0 with
  | none => part = [item]
  | some range => ∃ first last, bounds item range = .ok (first, last) ∧
      first.toNat ≤ last.toNat ∧ last.toNat - first.toNat ≤ 10000 ∧
      part = numericRange first.toNat last.toNat

/-- The list is read: the loops end, and what is returned is what the items say, in order. -/
structure ReadsExactly (value : Text) : Prop where
  ends : ∃ fuel, parseInstanceList fuel value ≠ endless
  exact : ∀ fuel result, parseInstanceList fuel value = returned result →
    ∃ parts, List.Forall₂ Written (instanceItems value) parts ∧ result = parts.flatten

/-- The item is a range with these bounds. -/
def IsRange (item : Text) (first last : UInt64) : Prop :=
  ∃ range, find item "..".toList 0 = some range ∧ bounds item range = .ok (first, last)

/-- The bounds, cut to 32 bits, are in order and not too far apart. -/
def Fits (first last : UInt64) : Prop :=
  first.toNat % 2 ^ 32 ≤ last.toNat % 2 ^ 32 ∧
    last.toNat % 2 ^ 32 - first.toNat % 2 ^ 32 ≤ 10000

/-- The item is no range, or one that fits and does not end at the largest number. -/
def Accepted (item : Text) : Prop :=
  find item "..".toList 0 = none ∨ ∃ first last, IsRange item first last ∧ Fits first last ∧
    last.toNat % 2 ^ 32 ≠ 2 ^ 32 - 1

/-- The item is a range that fits and ends at the largest number. -/
def Endless (item : Text) : Prop :=
  ∃ first last, IsRange item first last ∧ Fits first last ∧ last.toNat % 2 ^ 32 = 2 ^ 32 - 1

/-- The item is a range with a bound that 32 bits do not hold. -/
def Narrowed (item : Text) : Prop :=
  ∃ first last, IsRange item first last ∧ (2 ^ 32 ≤ first.toNat ∨ 2 ^ 32 ≤ last.toNat)

/-! ## One item -/

theorem toNat_narrowed (number : UInt64) : number.toUInt32.toNat = number.toNat % 2 ^ 32 :=
  UInt64.toNat_toUInt32 number

theorem fits_iff {first last : UInt64} :
    Fits first last ↔
      ¬ (last.toUInt32 < first.toUInt32 ∨ last.toUInt32 - first.toUInt32 > 10000) := by
  have hlimit : (10000 : UInt32).toNat = 10000 := rfl
  rw [not_or, UInt32.not_lt, UInt32.le_iff_toNat_le, gt_iff_lt, UInt32.not_lt,
    UInt32.le_iff_toNat_le, hlimit, Fits, ← toNat_narrowed, ← toNat_narrowed]
  constructor
  · rintro ⟨hle, hnear⟩
    exact ⟨hle, by rwa [UInt32.toNat_sub_of_le _ _ (UInt32.le_iff_toNat_le.mpr hle)]⟩
  · rintro ⟨hle, hnear⟩
    rw [UInt32.toNat_sub_of_le _ _ (UInt32.le_iff_toNat_le.mpr hle)] at hnear
    exact ⟨hle, hnear⟩

/-- The outcome of a range, in terms of its bounds. -/
theorem instanceItem_range {item : Text} {first last : UInt64} (h : IsRange item first last) :
    (Fits first last ∧ instanceItem countedRange item =
      countedRange first.toUInt32 last.toUInt32) ∨
    (¬ Fits first last ∧ ∃ err, instanceItem countedRange item = failed err) := by
  obtain ⟨range, hfind, hbounds⟩ := h
  unfold instanceItem
  rw [hfind]
  dsimp only
  rw [hbounds, ofFallible_ok, returned_bind]
  dsimp only
  by_cases hfits : Fits first last
  · rw [if_neg (fits_iff.mp hfits)]
    exact .inl ⟨hfits, rfl⟩
  · rw [if_pos (not_not.mp (mt fits_iff.mpr hfits))]
    exact .inr ⟨hfits, _, rfl⟩

theorem instanceItem_cases (item : Text) :
    (find item "..".toList 0 = none ∧ instanceItem countedRange item = returned [item]) ∨
    (∃ first last, IsRange item first last) ∨
    ∃ err, instanceItem countedRange item = failed err := by
  cases hfind : find item "..".toList 0 with
  | none =>
    unfold instanceItem
    rw [hfind]
    exact .inl ⟨rfl, rfl⟩
  | some range =>
    cases hbounds : bounds item range with
    | ok sides => exact .inr (.inl ⟨sides.1, sides.2, range, hfind, hbounds⟩)
    | error err =>
      unfold instanceItem
      rw [hfind]
      dsimp only
      rw [hbounds]
      exact .inr (.inr ⟨err, rfl⟩)

theorem IsRange.unique {item : Text} {first last first' last' : UInt64}
    (h : IsRange item first last) (h' : IsRange item first' last') :
    first = first' ∧ last = last' := by
  obtain ⟨range, hfind, hbounds⟩ := h
  obtain ⟨range', hfind', hbounds'⟩ := h'
  obtain rfl := Option.some.inj (hfind.symm.trans hfind')
  exact Prod.ext_iff.mp (Except.ok.inj (hbounds.symm.trans hbounds'))

theorem IsRange.find_ne_none {item : Text} {first last : UInt64} (h : IsRange item first last) :
    find item "..".toList 0 ≠ none := by
  obtain ⟨range, hfind, -⟩ := h
  rw [hfind]
  exact nofun

theorem instanceItem_returned_iff {item : Text} {part : List Text} :
    instanceItem countedRange item = returned part ↔
      (find item "..".toList 0 = none ∧ part = [item]) ∨
      ∃ first last, IsRange item first last ∧ Fits first last ∧
        last.toNat % 2 ^ 32 ≠ 2 ^ 32 - 1 ∧
        part = numericRange (first.toNat % 2 ^ 32) (last.toNat % 2 ^ 32) := by
  constructor
  · intro h
    rcases instanceItem_cases item with ⟨hfind, hitem⟩ | ⟨first, last, hrange⟩ | ⟨err, hitem⟩
    · exact .inl ⟨hfind, returned_inj (h.symm.trans hitem)⟩
    · rcases instanceItem_range hrange with ⟨hfits, hitem⟩ | ⟨-, err, hitem⟩
      · rw [h, countedRange, toNat_narrowed, toNat_narrowed] at hitem
        split at hitem
        · exact absurd hitem (returned_ne_endless part)
        · rename_i hlast
          exact .inr ⟨first, last, hrange, hfits, hlast, returned_inj hitem⟩
      · exact absurd (h.symm.trans hitem) (returned_ne_failed part err)
    · exact absurd (h.symm.trans hitem) (returned_ne_failed part err)
  · rintro (⟨hfind, rfl⟩ | ⟨first, last, hrange, hfits, hlast, rfl⟩)
    · unfold instanceItem
      rw [hfind]
    · rcases instanceItem_range hrange with ⟨-, hitem⟩ | ⟨hunfit, -⟩
      · rw [hitem, countedRange, toNat_narrowed, toNat_narrowed, if_neg hlast]
      · exact absurd hfits hunfit

theorem instanceItem_endless_iff {item : Text} :
    instanceItem countedRange item = endless ↔ Endless item := by
  constructor
  · intro h
    rcases instanceItem_cases item with ⟨-, hitem⟩ | ⟨first, last, hrange⟩ | ⟨err, hitem⟩
    · exact absurd (hitem.symm.trans h) (returned_ne_endless _)
    · rcases instanceItem_range hrange with ⟨hfits, hitem⟩ | ⟨-, err, hitem⟩
      · rw [h, countedRange, toNat_narrowed] at hitem
        split at hitem
        · rename_i hlast
          exact ⟨first, last, hrange, hfits, hlast⟩
        · exact absurd hitem.symm (returned_ne_endless _)
      · exact absurd (hitem.symm.trans h) (failed_ne_endless err)
    · exact absurd (hitem.symm.trans h) (failed_ne_endless err)
  · rintro ⟨first, last, hrange, hfits, hlast⟩
    rcases instanceItem_range hrange with ⟨-, hitem⟩ | ⟨hunfit, -⟩
    · rw [hitem, countedRange, toNat_narrowed, if_pos hlast]
    · exact absurd hfits hunfit

/-- An item is accepted when it returns its strings. -/
theorem accepted_iff {item : Text} :
    Accepted item ↔ ∃ part, instanceItem countedRange item = returned part := by
  simp only [instanceItem_returned_iff]
  constructor
  · rintro (hfind | ⟨first, last, hrange, hfits, hlast⟩)
    · exact ⟨_, .inl ⟨hfind, rfl⟩⟩
    · exact ⟨_, .inr ⟨first, last, hrange, hfits, hlast, rfl⟩⟩
  · rintro ⟨part, ⟨hfind, -⟩ | ⟨first, last, hrange, hfits, hlast, -⟩⟩
    · exact .inl hfind
    · exact .inr ⟨first, last, hrange, hfits, hlast⟩

/-! ## What is returned against what is written -/

theorem toText_inj {n m : ℕ} (h : toText n = toText m) : n = m := by
  have hdigits : Nat.toDigits 10 n = Nat.toDigits 10 m := by
    simpa [toText, Nat.toString_eq_repr, Nat.toList_repr] using h
  rw [← Nat.ofDigitChars_ten_toDigits (n := n), hdigits, Nat.ofDigitChars_ten_toDigits]

theorem length_numericRange (first last : ℕ) :
    (numericRange first last).length = last + 1 - first := by
  rw [numericRange, List.length_map, List.length_range']

theorem numericRange_inj {first last first' last' : ℕ} (hle : first ≤ last)
    (h : numericRange first last = numericRange first' last') : first = first' ∧ last = last' := by
  have hlength := congrArg List.length h
  rw [length_numericRange, length_numericRange] at hlength
  have hhead (a b : ℕ) (hab : a ≤ b) : (numericRange a b).head? = some (toText a) := by
    have hcount : b + 1 - a = b - a + 1 := by omega
    rw [numericRange, hcount, List.range'_succ, List.map_cons, List.head?_cons]
  have hfirst := congrArg List.head? h
  rw [hhead _ _ hle, hhead _ _ (by omega)] at hfirst
  have heq := toText_inj (Option.some.inj hfirst)
  omega

theorem IsRange.written_iff {item : Text} {first last : UInt64} (h : IsRange item first last)
    {part : List Text} :
    Written item part ↔ first.toNat ≤ last.toNat ∧ last.toNat - first.toNat ≤ 10000 ∧
      part = numericRange first.toNat last.toNat := by
  obtain ⟨range, hfind, hbounds⟩ := h
  unfold Written
  rw [hfind]
  constructor
  · rintro ⟨first', last', hbounds', hwritten⟩
    obtain ⟨rfl, rfl⟩ := Prod.ext_iff.mp (Except.ok.inj (hbounds.symm.trans hbounds'))
    exact hwritten
  · exact fun hwritten ↦ ⟨first, last, hbounds, hwritten⟩

theorem written_of_not_narrowed {item : Text} {part : List Text}
    (h : instanceItem countedRange item = returned part) (hwide : ¬ Narrowed item) :
    Written item part := by
  rcases instanceItem_returned_iff.mp h with
    ⟨hfind, rfl⟩ | ⟨first, last, hrange, ⟨hle, hnear⟩, -, rfl⟩
  · unfold Written
    rw [hfind]
  · have hfirst : first.toNat < 2 ^ 32 := by
      by_contra hlarge
      exact hwide ⟨first, last, hrange, .inl (Nat.le_of_not_lt hlarge)⟩
    have hlast : last.toNat < 2 ^ 32 := by
      by_contra hlarge
      exact hwide ⟨first, last, hrange, .inr (Nat.le_of_not_lt hlarge)⟩
    rw [Nat.mod_eq_of_lt hfirst, Nat.mod_eq_of_lt hlast] at hle hnear ⊢
    exact hrange.written_iff.mpr ⟨hle, hnear, rfl⟩

/-- An accepted item returns as many strings as are written. -/
theorem length_returned {item : Text} {part part' : List Text}
    (h : instanceItem countedRange item = returned part) (hwritten : Written item part') :
    part.length = part'.length := by
  rcases instanceItem_returned_iff.mp h with
    ⟨hfind, rfl⟩ | ⟨first, last, hrange, ⟨hle, hnear⟩, -, rfl⟩
  · unfold Written at hwritten
    rw [hfind] at hwritten
    rw [hwritten]
  · obtain ⟨hle', hnear', rfl⟩ := hrange.written_iff.mp hwritten
    rw [length_numericRange, length_numericRange]
    omega

/-- With a bound that was cut, the strings are others. -/
theorem not_narrowed_of_written {item : Text} {part : List Text}
    (h : instanceItem countedRange item = returned part) (hwritten : Written item part) :
    ¬ Narrowed item := by
  rintro ⟨first, last, hrange, hlarge⟩
  rcases instanceItem_returned_iff.mp h with
    ⟨hfind, -⟩ | ⟨first', last', hrange', ⟨hle, -⟩, -, hpart⟩
  · exact hrange.find_ne_none hfind
  · obtain ⟨rfl, rfl⟩ := hrange.unique hrange'
    obtain ⟨-, -, hpart'⟩ := hrange.written_iff.mp hwritten
    obtain ⟨hfirst, hlast⟩ := numericRange_inj hle (hpart.symm.trans hpart')
    omega

/-- Strings that are written and returned come in the same parts. -/
theorem parts_unique {items : List Text} {parts parts' : List (List Text)}
    (h : List.Forall₂ (fun item part ↦ instanceItem countedRange item = returned part) items parts)
    (hwritten : List.Forall₂ Written items parts') (hflatten : parts.flatten = parts'.flatten) :
    parts = parts' := by
  induction h generalizing parts' with
  | nil =>
    cases hwritten
    rfl
  | cons hitem _ ih =>
    cases hwritten with
    | cons hitem' hrest =>
      rw [List.flatten_cons, List.flatten_cons] at hflatten
      obtain ⟨rfl, htail⟩ := List.append_inj hflatten (length_returned hitem hitem')
      rw [ih hrest htail]

/-! ## Main result -/

theorem parseInstanceListWith_returned_iff {value : Text} {result : List Text} :
    parseInstanceListWith countedRange value = returned result ↔
      (∃ parts, List.Forall₂ (fun item part ↦ instanceItem countedRange item = returned part)
        (instanceItems value) parts ∧ result = parts.flatten) ∧ result ≠ [] := by
  unfold parseInstanceListWith
  rw [bind_eq_returned_iff]
  simp only [collect_eq_returned_iff, List.nil_append]
  constructor
  · rintro ⟨_, hparts, hresult⟩
    split at hresult
    · exact absurd hresult.symm (returned_ne_failed _ _)
    · rename_i hne
      obtain rfl := returned_inj hresult
      exact ⟨hparts, hne⟩
  · rintro ⟨hparts, hne⟩
    exact ⟨result, hparts, by rw [if_neg hne]⟩

theorem parseInstanceListWith_endless_iff {value : Text} :
    parseInstanceListWith countedRange value = endless ↔
      ∃ before item after, instanceItems value = before ++ item :: after ∧
        (∀ earlier ∈ before, Accepted earlier) ∧ Endless item := by
  unfold parseInstanceListWith
  rw [bind_eq_endless_iff]
  simp only [collect_eq_endless_iff, accepted_iff, instanceItem_endless_iff]
  constructor
  · rintro (hendless | ⟨result, -, hresult⟩)
    · exact hendless
    · split at hresult
      · exact absurd hresult (failed_ne_endless _)
      · exact absurd hresult (returned_ne_endless _)
  · exact .inl

theorem part_ne_nil {item : Text} {part : List Text}
    (h : instanceItem countedRange item = returned part) : part ≠ [] := by
  rcases instanceItem_returned_iff.mp h with ⟨-, rfl⟩ | ⟨first, last, -, ⟨hle, -⟩, -, rfl⟩
  · exact List.cons_ne_nil _ _
  · intro hnil
    have hlength := congrArg List.length hnil
    rw [length_numericRange, List.length_nil] at hlength
    omega

theorem flatten_ne_nil {items : List Text} {parts : List (List Text)}
    (h : List.Forall₂ (fun item part ↦ instanceItem countedRange item = returned part) items parts)
    (hne : items ≠ []) : parts.flatten ≠ [] := by
  cases h with
  | nil => exact absurd rfl hne
  | cons hfirst _ =>
    rw [List.flatten_cons]
    exact List.append_ne_nil_of_left_ne_nil (part_ne_nil hfirst) _

theorem exists_forall₂_iff {α β : Type} {R : α → β → Prop} {l : List α} :
    (∃ bs, List.Forall₂ R l bs) ↔ ∀ a ∈ l, ∃ b, R a b := by
  induction l with
  | nil => simp
  | cons a l ih =>
    simp only [List.forall₂_cons_left_iff, List.forall_mem_cons, ← ih]
    constructor
    · rintro ⟨_, b, bs, hb, hbs, -⟩
      exact ⟨⟨b, hb⟩, bs, hbs⟩
    · rintro ⟨⟨b, hb⟩, bs, hbs⟩
      exact ⟨b :: bs, b, bs, hb, hbs, rfl⟩

/-- A list is read exactly when no range that is come to ends at the largest number, and, if all
items are accepted, no bound was cut. -/
theorem readsExactly_iff (value : Text) :
    ReadsExactly value ↔
      (¬ ∃ before item after, instanceItems value = before ++ item :: after ∧
        (∀ earlier ∈ before, Accepted earlier) ∧ Endless item) ∧
      ¬ ((∀ item ∈ instanceItems value, Accepted item) ∧
        ∃ item ∈ instanceItems value, Narrowed item) := by
  have hcomputes := computes_parseInstanceList value
  constructor
  · intro hreads
    constructor
    · rw [← parseInstanceListWith_endless_iff]
      exact hcomputes.ends_iff.mp hreads.ends
    · rintro ⟨haccepted, item, hitem, hnarrowed⟩
      obtain ⟨parts, hparts⟩ := exists_forall₂_iff.mpr fun item hitem ↦
        accepted_iff.mp (haccepted item hitem)
      have hne := flatten_ne_nil hparts (List.ne_nil_of_mem hitem)
      obtain ⟨fuel, hreturned⟩ := (hcomputes.returned_iff parts.flatten).mpr
        (parseInstanceListWith_returned_iff.mpr ⟨⟨parts, hparts, rfl⟩, hne⟩)
      obtain ⟨parts', hwritten, hflatten⟩ := hreads.exact fuel _ hreturned
      obtain rfl := parts_unique hparts hwritten hflatten
      have hwide := hparts.mp (fun _ _ ↦ not_narrowed_of_written) hwritten
      obtain ⟨-, hnot⟩ := exists_forall₂_iff.mp ⟨parts, hwide⟩ item hitem
      exact hnot hnarrowed
  · rintro ⟨hends, hexact⟩
    constructor
    · rw [← parseInstanceListWith_endless_iff] at hends
      exact hcomputes.ends_iff.mpr hends
    · intro fuel result hreturned
      obtain ⟨⟨parts, hparts, rfl⟩, -⟩ := parseInstanceListWith_returned_iff.mp
        ((hcomputes.returned_iff result).mp ⟨fuel, hreturned⟩)
      have haccepted : ∀ item ∈ instanceItems value, Accepted item := fun item hitem ↦
        accepted_iff.mpr (exists_forall₂_iff.mp ⟨parts, hparts⟩ item hitem)
      have hwide : ∀ item ∈ instanceItems value, ¬ Narrowed item := fun item hitem hnarrowed ↦
        hexact ⟨haccepted, item, hitem, hnarrowed⟩
      have hboth := (List.forall₂_and_left _ _).mpr ⟨hwide, hparts⟩
      exact ⟨parts, hboth.imp fun _ _ h ↦ written_of_not_narrowed h.2 h.1, rfl⟩

/-- The range of the largest number alone is never through, and a range above it is read as
another. -/
theorem not_readsExactly :
    ¬ ReadsExactly "4294967295..4294967295".toList ∧
      ¬ ReadsExactly "4294967296..4294967297".toList := by
  constructor
  · intro hreads
    exact (computes_parseInstanceList _).ends_iff.mp hreads.ends rfl
  · intro hreads
    have hzero : parseInstanceListWith countedRange "4294967296..4294967297".toList =
        returned ["0".toList, "1".toList] := rfl
    obtain ⟨fuel, hreturned⟩ := ((computes_parseInstanceList _).returned_iff _).mpr hzero
    obtain ⟨parts, hwritten, hflatten⟩ := hreads.exact fuel _ hreturned
    have hitems : instanceItems "4294967296..4294967297".toList =
        ["4294967296..4294967297".toList] := rfl
    have hitem : instanceItem countedRange "4294967296..4294967297".toList =
        returned ["0".toList, "1".toList] := rfl
    rw [hitems] at hwritten
    obtain ⟨part, rest, hpart, hrest, rfl⟩ := List.forall₂_cons_left_iff.mp hwritten
    apply not_narrowed_of_written hitem _ ⟨4294967296, 4294967297, ⟨10, rfl, rfl⟩, .inl (by decide)⟩
    obtain rfl := List.forall₂_nil_left_iff.mp hrest
    rw [hflatten]
    simpa using hpart

end DaphneSc.Bridge.Registry
