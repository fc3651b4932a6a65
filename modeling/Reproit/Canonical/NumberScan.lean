/-
# The scan for number tokens

The scan runs over the raw bytes, before and apart from the reader.  On every document of
the grammar it stops at the number tokens outside strings and at nothing else, so it
passes exactly when each of them is an exact integer.  It is a scan of bytes: on a text of
UTF-8 bytes it sees what a scan of the characters sees.
-/

import Reproit.Core.Canonical
import Reproit.Data.JsonStrict

namespace Reproit.Canonical

open Json

/-! ## Strings -/

theorem validateNumberTokens_inString {c : Char} (rest : List Char) (noQuote : c ≠ quote)
    (noEscape : c ≠ backslash) :
    validateNumberTokens true (c :: rest) = validateNumberTokens true rest := by
  rw [validateNumberTokens_cons, if_neg noQuote, if_neg (fun held => noEscape held.1),
    if_neg (fun held => held.1 rfl)]

theorem validateNumberTokens_escape (letter : Char) (rest : List Char) :
    validateNumberTokens true (backslash :: letter :: rest) = validateNumberTokens true rest := by
  rw [validateNumberTokens_cons, if_neg (by decide), if_pos ⟨rfl, rfl⟩, List.tail_cons]

theorem ne_of_escapeHexValue {c : Char} {value : Nat} (hex : escapeHexValue c = some value) :
    c ≠ quote ∧ c ≠ backslash := by
  constructor
  · intro same
    rw [same] at hex
    cases hex
  · intro same
    rw [same] at hex
    cases hex

theorem validateNumberTokens_hexFour {digits : List Char} {code : Nat} (hex : HexFour digits code)
    (rest : List Char) :
    validateNumberTokens true (digits ++ rest) = validateNumberTokens true rest := by
  cases hex with
  | digits first second third fourth =>
      obtain ⟨firstQuote, firstEscape⟩ := ne_of_escapeHexValue first
      obtain ⟨secondQuote, secondEscape⟩ := ne_of_escapeHexValue second
      obtain ⟨thirdQuote, thirdEscape⟩ := ne_of_escapeHexValue third
      obtain ⟨fourthQuote, fourthEscape⟩ := ne_of_escapeHexValue fourth
      rw [List.cons_append, validateNumberTokens_inString _ firstQuote firstEscape,
        List.cons_append, validateNumberTokens_inString _ secondQuote secondEscape,
        List.cons_append, validateNumberTokens_inString _ thirdQuote thirdEscape,
        List.cons_append, validateNumberTokens_inString _ fourthQuote fourthEscape,
        List.nil_append]

/-- Nothing inside a string is taken for a number or for the end of the string. -/
theorem validateNumberTokens_spells {written chars : List Char} (spelled : Spells written chars)
    (rest : List Char) :
    validateNumberTokens true (written ++ rest) = validateNumberTokens true rest := by
  induction spelled with
  | nil => rfl
  | plain noQuote noEscape _ _ ih =>
      rw [List.cons_append, validateNumberTokens_inString _ noQuote noEscape, ih]
  | short _ _ ih => rw [List.cons_append, List.cons_append, validateNumberTokens_escape, ih]
  | code hex _ _ ih =>
      rw [List.cons_append, List.cons_append, validateNumberTokens_escape, List.append_assoc,
        validateNumberTokens_hexFour hex, ih]
  | pair hexHigh hexLow _ _ _ ih =>
      rw [List.cons_append, List.cons_append, validateNumberTokens_escape, List.append_assoc,
        validateNumberTokens_hexFour hexHigh, List.cons_append, List.cons_append,
        validateNumberTokens_escape, List.append_assoc, validateNumberTokens_hexFour hexLow, ih]

theorem validateNumberTokens_string {written chars : List Char} (spelled : Spells written chars)
    (rest : List Char) :
    validateNumberTokens false (quote :: (written ++ quote :: rest)) =
      validateNumberTokens false rest := by
  rw [validateNumberTokens_cons, if_pos rfl, Bool.not_false, validateNumberTokens_spells spelled,
    validateNumberTokens_cons, if_pos rfl, Bool.not_true]

/-! ## Numbers -/

theorem numberTokenChar_of_fraction {text : List Char} (fractional : Fraction text) :
    ∀ c ∈ text, numberTokenChar c := by
  cases fractional with
  | missing => exact List.forall_mem_nil _
  | given all =>
      exact List.forall_mem_cons.mpr ⟨rfl, fun c member =>
        numberTokenChar_of_isDigit (all.2 c member)⟩

theorem numberTokenChar_of_exponent {text : List Char} (scaled : Exponent text) :
    ∀ c ∈ text, numberTokenChar c := by
  cases scaled with
  | missing => exact List.forall_mem_nil _
  | @given mark sign digits marked signed all =>
      have first : numberTokenChar mark := by rcases marked with rfl | rfl <;> rfl
      refine List.forall_mem_cons.mpr ⟨first, fun c member => ?_⟩
      rcases List.mem_append.mp member with held | held
      · rcases signed with rfl | rfl | rfl
        · cases held
        · rw [List.mem_singleton.mp held]
          rfl
        · rw [List.mem_singleton.mp held]
          rfl
      · exact numberTokenChar_of_isDigit (all.2 c held)

theorem numberTokenChar_of_token (number : NumberToken) :
    ∀ c ∈ number.token, numberTokenChar c := by
  obtain ⟨token, written⟩ := number
  cases written with
  | @parts sign integer fraction exponent sign' all plain fractional scaled =>
      intro c member
      rcases List.mem_append.mp member with held | member
      · rcases sign' with rfl | rfl
        · cases held
        · rw [List.mem_singleton.mp held]
          rfl
      rcases List.mem_append.mp member with held | member
      · exact numberTokenChar_of_isDigit (all.2 c held)
      rcases List.mem_append.mp member with held | held
      · exact numberTokenChar_of_fraction fractional c held
      · exact numberTokenChar_of_exponent scaled c held

theorem not_numberTokenChar_of_ends {rest : List Char} (ends : Ends rest) :
    rest.takeWhile numberTokenChar = [] ∧ rest.dropWhile numberTokenChar = rest := by
  cases rest with
  | nil => exact ⟨rfl, rfl⟩
  | cons c rest =>
      rcases ends c rfl with rfl | rfl | rfl | rfl | rfl | rfl | rfl <;> exact ⟨rfl, rfl⟩

/-- What is left of a number after its sign. -/
theorem unsigned_eq {sign integer tail : List Char} (sign' : sign = [] ∨ sign = ['-'])
    (all : Digits integer) :
    (if (sign ++ (integer ++ tail)).head? = some '-' then (sign ++ (integer ++ tail)).tail
      else sign ++ (integer ++ tail)) = integer ++ tail := by
  obtain ⟨first, others, rfl⟩ := List.exists_cons_of_ne_nil all.1
  have noMinus := ne_minus_of_isDigit (all.2 first List.mem_cons_self)
  rcases sign' with rfl | rfl
  · rw [if_neg]
    · rfl
    · intro same
      exact noMinus (Option.some.inj same)
  · rfl

/-- The scan passes a token exactly when it is an exact integer. -/
theorem validNumberToken_eq (number : NumberToken) :
    validNumberToken number.token = decide number.Integral := by
  obtain ⟨token, written⟩ := number
  cases id written with
  | @parts sign integer fraction exponent sign' all plain fractional scaled =>
  have nothingEnds : Ends [] := by
    intro c here
    cases here
  have unsigned := @unsigned_eq sign integer (fraction ++ exponent) sign' all
  have some : integer ≠ [] := all.1
  rcases (head?_fraction_append fractional scaled nothingEnds).2 with nothing | ⟨c, _, mark, member⟩
  · obtain ⟨rfl, rfl⟩ := List.append_eq_nil_iff.mp nothing
    have value := NumberToken.integer_eq sign' all written
    have digits : integer.all Char.isDigit = true := List.all_eq_true.mpr all.2
    have whole := unsigned.trans (List.append_nil integer)
    rw [Bool.eq_iff_iff, decide_eq_true_iff, NumberToken.Integral, value, natAbs_signed,
      validNumberToken, whole]
    simp only [Bool.and_eq_true, decide_eq_true_eq]
    constructor
    · rintro ⟨⟨⟨other, _⟩, _⟩, small⟩
      exact ⟨no_marks sign' all, other, small⟩
    · rintro ⟨_, other, small⟩
      exact ⟨⟨⟨other, some⟩, digits⟩, small⟩
  · have present : c ∈ integer ++ (fraction ++ exponent) := List.mem_append_right _ member
    have noDigit : c.isDigit = false := by
      rcases mark with rfl | rfl | rfl <;> rfl
    have notAll : (integer ++ (fraction ++ exponent)).all Char.isDigit = false := by
      rw [List.all_eq_false]
      exact ⟨c, present, by rw [noDigit]; decide⟩
    have notIntegral : ¬ NumberToken.Integral ⟨_, written⟩ := by
      intro integral
      have other := integral.1 c (List.mem_append_right _ present)
      rcases mark with rfl | rfl | rfl
      · exact other.1 rfl
      · exact other.2.1 rfl
      · exact other.2.2 rfl
    rw [validNumberToken, unsigned, notAll, Bool.and_false, Bool.false_and,
      decide_eq_false notIntegral]

theorem validateNumberTokens_token (number : NumberToken) {rest : List Char} (ends : Ends rest) :
    validateNumberTokens false (number.token ++ rest) =
      (decide number.Integral && validateNumberTokens false rest) := by
  have token := validNumberToken_eq number
  have chars := numberTokenChar_of_token number
  obtain ⟨c, others, split, start⟩ := number.exists_head
  obtain ⟨taken, dropped⟩ := not_numberTokenChar_of_ends ends
  rw [split] at token chars ⊢
  have others' : ∀ c ∈ others, numberTokenChar c := fun c member =>
    chars c (List.mem_cons_of_mem _ member)
  have noQuote : c ≠ quote := ne_of_startsNumber start (by decide)
  have outside : ¬ (c = backslash ∧ false = true) := fun held => Bool.false_ne_true held.2
  have number : ¬ (false = true) ∧ (c = '-' ∨ c.isDigit) := ⟨Bool.false_ne_true, start⟩
  rw [List.cons_append, validateNumberTokens_cons, if_neg noQuote, if_neg outside, if_pos number,
    List.takeWhile_append_of_pos others', List.dropWhile_append_of_pos others', taken, dropped,
    List.append_nil, token]

/-! ## Documents -/

theorem validateNumberTokens_blank {blank : List Char} (held : Blank blank) (rest : List Char) :
    validateNumberTokens false (blank ++ rest) = validateNumberTokens false rest := by
  induction blank with
  | nil => rfl
  | cons c blank ih =>
      have plain : c ≠ quote ∧ c ≠ '-' ∧ c.isDigit = false := by
        rcases held c List.mem_cons_self with rfl | rfl | rfl | rfl <;> decide
      rw [List.cons_append, validateNumberTokens_skip _ plain]
      exact ih fun other member => held other (List.mem_cons_of_mem _ member)

theorem validateNumberTokens_word {word : List Char} (rest : List Char)
    (plain : ∀ c ∈ word, c ≠ quote ∧ c ≠ '-' ∧ c.isDigit = false) :
    validateNumberTokens false (word ++ rest) = validateNumberTokens false rest := by
  induction word with
  | nil => rfl
  | cons c word ih =>
      rw [List.cons_append, validateNumberTokens_skip _ (plain c List.mem_cons_self)]
      exact ih fun other member => plain other (List.mem_cons_of_mem _ member)

/-- The exact integers among number tokens. -/
def allIntegral (numbers : List NumberToken) : Bool := numbers.all fun number => number.Integral

theorem allIntegral_append (first second : List NumberToken) :
    allIntegral (first ++ second) = (allIntegral first && allIntegral second) :=
  List.all_append

mutual

/-- The scan over a spelled tree checks its number tokens. -/
theorem validateNumberTokens_writes : ∀ (tree : Tree) (body rest : List Char),
    Writes tree body → Ends rest →
    validateNumberTokens false (body ++ rest) =
      (allIntegral tree.numbers && validateNumberTokens false rest)
  | .null, body, rest, writes, _ => by
      obtain rfl := writes
      exact validateNumberTokens_word rest (by simp [quote])
  | .bool true, body, rest, writes, _ => by
      obtain rfl := writes
      exact validateNumberTokens_word rest (by simp [quote])
  | .bool false, body, rest, writes, _ => by
      obtain rfl := writes
      exact validateNumberTokens_word rest (by simp [quote])
  | .number number, body, rest, writes, ends => by
      obtain rfl := writes
      rw [validateNumberTokens_token number ends, Tree.numbers]
      simp [allIntegral]
  | .string text, body, rest, ⟨written, chars, split⟩, _ => by
      have start : body ++ rest = quote :: (written ++ quote :: rest) := by
        simp only [split, List.cons_append, List.append_assoc, List.nil_append]
      rw [start, validateNumberTokens_string chars]
      rfl
  | .array items, body, rest, ⟨inside, split, held⟩, _ => by
      have start : body ++ rest = '[' :: (inside ++ ']' :: rest) := by
        simp only [split, List.cons_append, List.append_assoc, List.nil_append]
      have close := validateNumberTokens_skip rest (by decide : ']' ≠ quote ∧ _)
      rw [start, validateNumberTokens_skip _ (by decide), Tree.numbers]
      obtain ⟨rfl, blank⟩ | ⟨_, listed⟩ := held
      · rw [validateNumberTokens_blank blank, close]
        rfl
      · have scan := validateNumberTokens_items items _ (']' :: rest) listed
          (ends_bracket rest)
        rwa [List.cons_append, validateNumberTokens_skip _ (by decide), close] at scan
  | .object members, body, rest, ⟨inside, split, held⟩, _ => by
      have start : body ++ rest = '\x7b' :: (inside ++ '\x7d' :: rest) := by
        simp only [split, List.cons_append, List.append_assoc, List.nil_append]
      have close := validateNumberTokens_skip rest (by decide : '\x7d' ≠ quote ∧ _)
      rw [start, validateNumberTokens_skip _ (by decide), Tree.numbers]
      obtain ⟨rfl, blank⟩ | ⟨_, listed⟩ := held
      · rw [validateNumberTokens_blank blank, close]
        rfl
      · have scan := validateNumberTokens_members members _ ('\x7d' :: rest) listed
          (ends_brace rest)
        rwa [List.cons_append, validateNumberTokens_skip _ (by decide), close] at scan

theorem validateNumberTokens_items : ∀ (items : List Tree) (text rest : List Char),
    WritesItems items text → Ends rest →
    validateNumberTokens false (text ++ rest) =
      (allIntegral (Tree.numbersOfItems items) && validateNumberTokens false rest)
  | [], text, rest, written, _ => by
      obtain rfl := written
      rfl
  | item :: items, text, rest,
      ⟨padded, others, ⟨before, body, after, blank, writes, finish, padding⟩, listed, split⟩,
      ends => by
      have later : Ends (after ++ (others ++ rest)) := finish.ends_append (ends_items listed ends)
      have start : text ++ rest = ',' :: (before ++ (body ++ (after ++ (others ++ rest)))) := by
        simp only [split, padding, List.cons_append, List.append_assoc]
      rw [start, validateNumberTokens_skip _ (by decide), validateNumberTokens_blank blank,
        validateNumberTokens_writes item body _ writes later, validateNumberTokens_blank finish,
        validateNumberTokens_items items others rest listed ends, Tree.numbersOfItems,
        allIntegral_append, Bool.and_assoc]

theorem validateNumberTokens_members : ∀ (members : List (String × Tree)) (text rest : List Char),
    WritesMembers members text → Ends rest →
    validateNumberTokens false (text ++ rest) =
      (allIntegral (Tree.numbersOfMembers members) && validateNumberTokens false rest)
  | [], text, rest, written, _ => by
      obtain rfl := written
      rfl
  | (key, value) :: members, text, rest,
      ⟨before, member, others, blank, ⟨written, between, padded, chars, colon,
        ⟨start, body, after, blank', writes, finish, padding⟩, spelled⟩, listed, split⟩,
      ends => by
      have later : Ends (after ++ (others ++ rest)) := finish.ends_append (ends_members listed ends)
      have start' : text ++ rest = ',' :: (before ++ quote :: (written ++ quote :: (between ++
          ':' :: (start ++ (body ++ (after ++ (others ++ rest))))))) := by
        simp only [split, spelled, padding, List.cons_append, List.append_assoc]
      rw [start', validateNumberTokens_skip _ (by decide), validateNumberTokens_blank blank,
        validateNumberTokens_string chars, validateNumberTokens_blank colon,
        validateNumberTokens_skip _ (by decide), validateNumberTokens_blank blank',
        validateNumberTokens_writes value body _ writes later, validateNumberTokens_blank finish,
        validateNumberTokens_members members others rest listed ends, Tree.numbersOfMembers,
        allIntegral_append, Bool.and_assoc]

end

/-- The scan passes a document exactly when its number tokens are exact integers, whatever
its strings hold. -/
theorem validateNumberTokens_isDocument {tree : Tree} {text : List Char}
    (document : IsDocument tree text) :
    validateNumberTokens false text = allIntegral tree.numbers := by
  obtain ⟨before, body, after, blank, writes, finish, rfl⟩ := document
  have ends : Ends after := by
    rw [← List.append_nil after]
    exact finish.ends_append (by intro c here; cases here)
  have nothing : validateNumberTokens false after = true := by
    rw [← List.append_nil after, validateNumberTokens_blank finish]
    rfl
  rw [validateNumberTokens_blank blank, validateNumberTokens_writes tree body after writes ends,
    nothing, Bool.and_true]

end Reproit.Canonical
