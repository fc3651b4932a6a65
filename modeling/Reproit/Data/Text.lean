/-
# Reading texts

Texts are told apart by how they begin, and read behind their beginning.  The other
functions cut the text of a file into lines, blocks and words; they work on the
characters.
-/

import Reproit.Data.JsonRoundTrip

namespace Reproit

/-- The text begins with `lead`. -/
def startsWith (text lead : String) : Bool := lead.toList.isPrefixOf text.toList

/-- The text ends with `tail`. -/
def endsWith (text tail : String) : Bool := tail.toList.isSuffixOf text.toList

/-- The rest of a text that begins with `lead`. -/
def stripStart (text lead : String) : Option String :=
  (Json.expect lead.toList text.toList).map String.ofList

theorem stripStart_eq_some {text lead rest : String} :
    stripStart text lead = some rest ↔ text = lead ++ rest := by
  rw [stripStart, Option.map_eq_some_iff]
  constructor
  · rintro ⟨found, read, rfl⟩
    apply String.toList_injective
    rw [Json.expect_eq_some.mp read, String.toList_append, String.toList_ofList]
  · rintro rfl
    refine ⟨rest.toList, ?_, String.ofList_toList⟩
    rw [Json.expect_eq_some, String.toList_append]

@[simp]
theorem stripStart_append (lead rest : String) : stripStart (lead ++ rest) lead = some rest :=
  stripStart_eq_some.mpr rfl

theorem startsWith_iff {text lead : String} :
    startsWith text lead = true ↔ ∃ rest, text = lead ++ rest := by
  rw [startsWith, List.isPrefixOf_iff_prefix]
  constructor
  · rintro ⟨rest, same⟩
    refine ⟨String.ofList rest, String.toList_injective ?_⟩
    rw [String.toList_append, String.toList_ofList, same]
  · rintro ⟨rest, rfl⟩
    rw [String.toList_append]
    exact List.prefix_append _ _

@[simp]
theorem startsWith_append (lead rest : String) : startsWith (lead ++ rest) lead = true :=
  startsWith_iff.mpr ⟨rest, rfl⟩

/-- Neither text begins with the other. -/
def Clash (first second : String) : Prop :=
  startsWith first second = false ∧ startsWith second first = false

instance (first second : String) : Decidable (Clash first second) :=
  inferInstanceAs (Decidable (_ ∧ _))

theorem startsWith_append_of_clash {lead other : String} (clash : Clash lead other)
    (rest : String) : startsWith (other ++ rest) lead = false := by
  rw [← Bool.not_eq_true]
  intro begins
  rw [startsWith, List.isPrefixOf_iff_prefix, String.toList_append] at begins
  rcases List.prefix_or_prefix_of_prefix begins (List.prefix_append _ _) with shorter | longer
  · have := clash.2
    rw [startsWith, ← Bool.not_eq_true, List.isPrefixOf_iff_prefix] at this
    exact this shorter
  · have := clash.1
    rw [startsWith, ← Bool.not_eq_true, List.isPrefixOf_iff_prefix] at this
    exact this longer

theorem stripStart_eq_none {text lead : String} (not : startsWith text lead = false) :
    stripStart text lead = none := by
  rw [Option.eq_none_iff_forall_not_mem]
  intro rest found
  rw [startsWith_iff.mpr ⟨rest, stripStart_eq_some.mp found⟩] at not
  cases not

theorem stripStart_append_of_clash {lead other : String} (clash : Clash lead other)
    (rest : String) : stripStart (other ++ rest) lead = none :=
  stripStart_eq_none (startsWith_append_of_clash clash rest)

/-- A text that begins with a longer lead begins with a shorter one. -/
theorem startsWith_append_of_startsWith {lead other : String} (begins : startsWith other lead)
    (rest : String) : startsWith (other ++ rest) lead = true := by
  obtain ⟨between, rfl⟩ := startsWith_iff.mp begins
  rw [startsWith_iff, String.append_assoc]
  exact ⟨_, rfl⟩

/-! ## Lines, blocks and words -/

/-! ## Texts cut at a character -/

section

variable {separator : String} {cut : Char}

/-- Parts that are joined again. -/
theorem intercalate_splitOn (spelled : separator.toList = [cut]) (text : String) :
    separator.intercalate ((text.toList.splitOn cut).map String.ofList) = text := by
  apply String.toList_injective
  rw [String.toList_intercalate, spelled, List.map_map]
  refine Eq.trans (congrArg _ ((List.map_congr_left fun part _ => ?_).trans (List.map_id _)))
    (List.intercalate_splitOn cut)
  exact String.toList_ofList

/-- Joined parts that are cut again. -/
theorem splitOn_intercalate (spelled : separator.toList = [cut]) {parts : List String}
    (some : parts ≠ []) (whole : ∀ part ∈ parts, cut ∉ part.toList) :
    ((separator.intercalate parts).toList.splitOn cut).map String.ofList = parts := by
  rw [String.toList_intercalate, spelled, List.splitOn_intercalate, List.map_map]
  · refine (List.map_congr_left fun part _ => ?_).trans (List.map_id _)
    exact String.ofList_toList
  · intro part member
    obtain ⟨text, listed, rfl⟩ := List.mem_map.mp member
    exact whole text listed
  · simpa using some

end

/-! ## Files -/

/-- The white space of Unicode. -/
def isWhitespace (c : Char) : Bool :=
  let code := c.toNat
  (9 ≤ code && code ≤ 13) || code = 32 || code = 0x85 || code = 0xa0 || code = 0x1680 ||
    (0x2000 ≤ code && code ≤ 0x200a) || code = 0x2028 || code = 0x2029 || code = 0x202f ||
    code = 0x205f || code = 0x3000

/-- The text without the white space around it. -/
def trim (text : List Char) : List Char :=
  ((text.dropWhile isWhitespace).reverse.dropWhile isWhitespace).reverse

/-- The words between white space. -/
def splitWhitespace (text : List Char) : List (List Char) :=
  (text.splitOnP isWhitespace).filter (· ≠ [])

/-- The parts before and behind the first separator. -/
def splitOnce (separator : Char) (text : List Char) : Option (List Char × List Char) :=
  if separator ∈ text then
    some (text.takeWhile (· ≠ separator), (text.dropWhile (· ≠ separator)).tail)
  else none

/-- A line without the carriage return of its line ending. -/
def dropReturn (line : List Char) : List Char :=
  if line.getLast? = some '\r' then line.dropLast else line

/-- The lines of a text; the last one may have no line ending. -/
def lines (text : List Char) : List (List Char) :=
  let pieces := text.splitOn '\n'
  let last := pieces.getLast?.getD []
  pieces.dropLast.map dropReturn ++ if last = [] then [] else [last]

/-- The blocks between empty lines, cut from the left. -/
def blocks : List Char → List (List Char)
  | [] => [[]]
  | '\n' :: '\n' :: rest => [] :: blocks rest
  | c :: rest =>
      match blocks rest with
      | first :: others => (c :: first) :: others
      | [] => [[c]]

/-- Read a decimal number of 32 bits, which may have a plus sign. -/
def parseUInt32 (text : List Char) : Option UInt32 :=
  let digits := match text with
    | '+' :: rest => rest
    | _ => text
  let value := Nat.ofDigitChars 10 digits 0
  if digits ≠ [] ∧ digits.all Char.isDigit ∧ value < 2 ^ 32 then some (UInt32.ofNat value)
  else none

/-- Read a decimal number of 64 bits, which may have a plus sign. -/
def parseUInt64 (text : List Char) : Option UInt64 :=
  let digits := match text with
    | '+' :: rest => rest
    | _ => text
  let value := Nat.ofDigitChars 10 digits 0
  if digits ≠ [] ∧ digits.all Char.isDigit ∧ value < 2 ^ 64 then some (UInt64.ofNat value)
  else none

/-- The digits of a number are read as the number. -/
theorem parseUInt64_toDigits (number : UInt64) :
    parseUInt64 (Nat.toDigits 10 number.toNat) = some number := by
  have digits : (Nat.toDigits 10 number.toNat).all Char.isDigit = true :=
    List.all_eq_true.mpr Json.toDigits_isDigit
  have unsigned : ∀ rest, Nat.toDigits 10 number.toNat ≠ '+' :: rest := by
    intro rest spelled
    rw [spelled, List.all_cons, Bool.and_eq_true] at digits
    exact absurd digits.1 (by decide)
  rw [parseUInt64, Nat.ofDigitChars_ten_toDigits]
  · rw [if_pos ⟨Nat.toDigits_ne_nil, digits, number.toNat_lt⟩, UInt64.ofNat_toNat]
  · exact unsigned

end Reproit
