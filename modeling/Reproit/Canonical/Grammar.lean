/-
# The strict parser accepts exactly strict JSON

The scan of the raw bytes and the reader run one after the other.  On the UTF-8 bytes of a
text the scan of the bytes agrees with the scan of the characters, so the two together
accept exactly the documents of the grammar with distinct keys, exact integers and a
bounded depth.
-/

import Reproit.Canonical.NumberScan

namespace Reproit.Canonical

open Json

/-! ## Bytes and characters -/

/-- The bytes of a character outside ASCII are outside ASCII. -/
theorem utf8EncodeChar_high {c : Char} (high : 128 ≤ c.toNat) :
    ∀ b ∈ String.utf8EncodeChar c, 128 ≤ b.toNat := by
  have value : c.val.toNat = c.toNat := rfl
  intro b member
  unfold String.utf8EncodeChar at member
  simp only [value] at member
  split_ifs at member with one two three
  · omega
  all_goals
    simp only [List.mem_cons, List.not_mem_nil, or_false] at member
    rcases member with rfl | rfl | rfl | rfl | rfl <;>
      simp only [UInt8.toNat_ofNat'] <;> omega

theorem utf8EncodeChar_ascii {c : Char} (ascii : c.toNat < 128) :
    String.utf8EncodeChar c = [UInt8.ofNat c.toNat] := by
  have value : c.val.toNat = c.toNat := rfl
  unfold String.utf8EncodeChar
  simp only [value]
  rw [if_pos (by omega)]

theorem textBytes_cons (c : Char) (rest : List Char) :
    textBytes (c :: rest) = String.utf8EncodeChar c ++ textBytes rest :=
  List.flatMap_cons

/-- The bytes decode to a text exactly when they are its bytes. -/
theorem bytesText_eq_some {input : Bytes} {text : List Char} :
    bytesText input = some text ↔ input = textBytes text := by
  constructor
  · intro decoded
    obtain ⟨chars, found, rfl⟩ := Option.map_eq_some_iff.mp decoded
    have valid : input.toByteArray.utf8Decode?.isSome := by
      rw [found]
      rfl
    have encoded := @ByteArray.utf8Encode_get_utf8Decode? input.toByteArray valid
    rw [Option.get_of_eq_some valid found, List.utf8Encode, List.toByteArray_inj] at encoded
    exact encoded.symm
  · intro same
    rw [same, bytesText_textBytes]

/-! ## The scan of the bytes -/

def isAsciiDigit (b : UInt8) : Bool := 0x30 ≤ b && b ≤ 0x39

/-- The bytes that continue a number token. -/
def numberTokenByte (b : UInt8) : Bool :=
  isAsciiDigit b || b = 0x2b || b = 0x2d || b = 0x2e || b = 0x65 || b = 0x45

/-- Check the number token at the start of the input and return what follows it. -/
def validateNumberAt (first : UInt8) (rest : Bytes) : Option Bytes :=
  (bytesText (first :: rest.takeWhile numberTokenByte)).bind fun token =>
    if validNumberToken token then some (rest.dropWhile numberTokenByte) else none

/-- The scan of the input from an index on. The fuel bounds the bytes scanned. -/
def scanNumberBytes : (fuel : Nat) → (inString : Bool) → Bytes → Bool
  | 0, _, _ => true
  | _ + 1, _, [] => true
  | fuel + 1, inString, b :: rest =>
      if b = 0x22 then scanNumberBytes fuel (!inString) rest
      else if b = 0x5c ∧ inString then scanNumberBytes fuel inString rest.tail
      else if ¬ inString ∧ (b = 0x2d ∨ isAsciiDigit b) then
        match validateNumberAt b rest with
        | none => false
        | some last => scanNumberBytes fuel inString last
      else scanNumberBytes fuel inString rest

def validateNumberBytes (input : Bytes) : Bool := scanNumberBytes input.length false input

/-! ## The scans agree -/

/-- The byte of an ASCII character. -/
abbrev asciiByte (c : Char) : UInt8 := UInt8.ofNat c.toNat

theorem toNat_asciiByte {c : Char} (ascii : c.toNat < 128) : (asciiByte c).toNat = c.toNat := by
  rw [UInt8.toNat_ofNat']
  omega

theorem asciiByte_inj {first second : Char} (hfirst : first.toNat < 128)
    (hsecond : second.toNat < 128) : asciiByte first = asciiByte second ↔ first = second := by
  rw [← UInt8.toNat_inj, toNat_asciiByte hfirst, toNat_asciiByte hsecond, Char.toNat_inj]

theorem isAsciiDigit_asciiByte {c : Char} (ascii : c.toNat < 128) :
    isAsciiDigit (asciiByte c) = c.isDigit := by
  have value : c.val.toNat = c.toNat := rfl
  rw [Bool.eq_iff_iff]
  simp only [isAsciiDigit, Char.isDigit, Bool.and_eq_true, decide_eq_true_eq,
    UInt8.le_iff_toNat_le, UInt32.le_iff_toNat_le, toNat_asciiByte ascii, value]
  rfl

theorem numberTokenByte_asciiByte {c : Char} (ascii : c.toNat < 128) :
    numberTokenByte (asciiByte c) = numberTokenChar c := by
  have same : ∀ other : Char, other.toNat < 128 → (asciiByte c = asciiByte other ↔ c = other) :=
    fun other small => asciiByte_inj ascii small
  have plus := same '+' (by decide)
  have minus := same '-' (by decide)
  have point := same '.' (by decide)
  have lower := same 'e' (by decide)
  have upper := same 'E' (by decide)
  simp only [numberTokenByte, numberTokenChar, isAsciiDigit_asciiByte ascii]
  rw [← decide_eq_decide.mpr plus, ← decide_eq_decide.mpr minus, ← decide_eq_decide.mpr point,
    ← decide_eq_decide.mpr lower, ← decide_eq_decide.mpr upper]
  rfl

/-- A byte outside ASCII belongs to no token and starts nothing. -/
theorem not_numberTokenByte_of_high {b : UInt8} (high : 128 ≤ b.toNat) :
    numberTokenByte b = false ∧ isAsciiDigit b = false ∧ b ≠ 0x22 ∧ b ≠ 0x5c ∧ b ≠ 0x2d := by
  have other : ∀ small : UInt8, small.toNat < 128 → b ≠ small := by
    intro small less same
    rw [same] at high
    omega
  have noDigit : isAsciiDigit b = false := by
    rw [isAsciiDigit, Bool.and_eq_false_iff]
    right
    rw [decide_eq_false_iff_not, UInt8.le_iff_toNat_le]
    intro small
    exact absurd (high.trans small) (by decide)
  refine ⟨?_, noDigit, other _ (by decide), other _ (by decide), other _ (by decide)⟩
  rw [numberTokenByte, noDigit, decide_eq_false (other _ (by decide)),
    decide_eq_false (other _ (by decide)), decide_eq_false (other _ (by decide)),
    decide_eq_false (other _ (by decide)), decide_eq_false (other _ (by decide))]
  rfl

theorem numberTokenChar_ascii {c : Char} (token : numberTokenChar c) : c.toNat < 128 := by
  by_contra high
  simp only [numberTokenChar, Bool.or_eq_true, decide_eq_true_eq] at token
  rcases token with ((((digit | rfl) | rfl) | rfl) | rfl) | rfl
  · simp only [Char.isDigit, Bool.and_eq_true, decide_eq_true_eq, UInt32.le_iff_toNat_le] at digit
    exact high (Nat.lt_of_le_of_lt digit.2 (by decide))
  all_goals exact high (by decide)

/-- A token of bytes is the token of characters. -/
theorem takeWhile_textBytes (text : List Char) :
    (textBytes text).takeWhile numberTokenByte = textBytes (text.takeWhile numberTokenChar) ∧
      (textBytes text).dropWhile numberTokenByte =
        textBytes (text.dropWhile numberTokenChar) := by
  induction text with
  | nil => exact ⟨rfl, rfl⟩
  | cons c rest ih =>
      obtain ⟨taken, dropped⟩ := ih
      by_cases token : numberTokenChar c
      · have ascii := numberTokenChar_ascii token
        have byte : numberTokenByte (asciiByte c) = true := by
          rw [numberTokenByte_asciiByte ascii, token]
        rw [textBytes_cons, utf8EncodeChar_ascii ascii, List.singleton_append,
          List.takeWhile_cons_of_pos byte, List.dropWhile_cons_of_pos byte,
          List.takeWhile_cons_of_pos token, List.dropWhile_cons_of_pos token, taken, dropped,
          textBytes_cons, utf8EncodeChar_ascii ascii]
        exact ⟨rfl, rfl⟩
      · have stop : ∃ b more, textBytes (c :: rest) = b :: more ∧ ¬ numberTokenByte b := by
          by_cases ascii : c.toNat < 128
          · refine ⟨asciiByte c, textBytes rest, ?_, ?_⟩
            · rw [textBytes_cons, utf8EncodeChar_ascii ascii]
              rfl
            · rw [numberTokenByte_asciiByte ascii]
              exact token
          · obtain ⟨b, more, split⟩ := List.exists_cons_of_ne_nil (@String.utf8EncodeChar_ne_nil c)
            have high := utf8EncodeChar_high (Nat.not_lt.mp ascii) b
              (by rw [split]; exact List.mem_cons_self)
            refine ⟨b, more ++ textBytes rest, ?_, ?_⟩
            · rw [textBytes_cons, split]
              rfl
            · rw [(not_numberTokenByte_of_high high).1]
              exact Bool.false_ne_true
        obtain ⟨b, more, split, other⟩ := stop
        rw [split, List.takeWhile_cons_of_neg other, List.dropWhile_cons_of_neg other,
          List.takeWhile_cons_of_neg token, List.dropWhile_cons_of_neg token, split]
        exact ⟨rfl, rfl⟩

theorem validateNumberAt_textBytes {c : Char} (ascii : c.toNat < 128) (rest : List Char) :
    validateNumberAt (asciiByte c) (textBytes rest) =
      if validNumberToken (c :: rest.takeWhile numberTokenChar) then
        some (textBytes (rest.dropWhile numberTokenChar))
      else none := by
  obtain ⟨taken, dropped⟩ := takeWhile_textBytes rest
  have text : asciiByte c :: textBytes (rest.takeWhile numberTokenChar) =
      textBytes (c :: rest.takeWhile numberTokenChar) := by
    rw [textBytes_cons, utf8EncodeChar_ascii ascii]
    rfl
  rw [validateNumberAt, taken, dropped, text, bytesText_textBytes, Option.bind_some]

/-- A byte outside ASCII is skipped. -/
theorem scanNumberBytes_high (fuel : Nat) (inString : Bool) {b : UInt8} (high : 128 ≤ b.toNat)
    (rest : Bytes) :
    scanNumberBytes (fuel + 1) inString (b :: rest) = scanNumberBytes fuel inString rest := by
  obtain ⟨_, noDigit, noQuote, noEscape, noMinus⟩ := not_numberTokenByte_of_high high
  rw [scanNumberBytes, if_neg noQuote, if_neg (fun held => noEscape held.1), if_neg]
  rintro ⟨_, minus | digit⟩
  · exact noMinus minus
  · rw [noDigit] at digit
    cases digit

/-- A character outside ASCII is skipped. -/
theorem validateNumberTokens_high (inString : Bool) {c : Char} (high : 128 ≤ c.toNat)
    (rest : List Char) :
    validateNumberTokens inString (c :: rest) = validateNumberTokens inString rest := by
  have other : ∀ small : Char, small.toNat < 128 → c ≠ small := by
    intro small less same
    rw [same] at high
    omega
  have noDigit : ¬ c.isDigit := fun digit =>
    absurd (numberTokenChar_ascii (numberTokenChar_of_isDigit digit)) (Nat.not_lt.mpr high)
  rw [validateNumberTokens_cons, if_neg (other _ (by decide)),
    if_neg (fun held => other _ (by decide) held.1), if_neg]
  rintro ⟨_, minus | digit⟩
  · exact other _ (by decide) minus
  · exact noDigit digit

/-- The bytes that follow an escape may start within a character. -/
theorem exists_tail_textBytes (text : List Char) :
    ∃ front, (∀ b ∈ front, 128 ≤ b.toNat) ∧
      (textBytes text).tail = front ++ textBytes text.tail := by
  cases text with
  | nil => exact ⟨[], List.forall_mem_nil _, rfl⟩
  | cons c rest =>
      rw [textBytes_cons]
      by_cases ascii : c.toNat < 128
      · refine ⟨[], List.forall_mem_nil _, ?_⟩
        rw [utf8EncodeChar_ascii ascii]
        rfl
      · obtain ⟨b, more, split⟩ := List.exists_cons_of_ne_nil (@String.utf8EncodeChar_ne_nil c)
        refine ⟨more, ?_, ?_⟩
        · intro other member
          refine utf8EncodeChar_high (Nat.not_lt.mp ascii) other ?_
          rw [split]
          exact List.mem_cons_of_mem _ member
        · rw [split]
          rfl

/-- The scan of the bytes sees what the scan of the characters sees. The bytes in front
are left over from a character outside ASCII. -/
theorem scanNumberBytes_textBytes (fuel : Nat) : ∀ (front : Bytes) (text : List Char)
    (inString : Bool), (∀ b ∈ front, 128 ≤ b.toNat) →
    (front ++ textBytes text).length ≤ fuel →
    scanNumberBytes fuel inString (front ++ textBytes text) =
      validateNumberTokens inString text := by
  induction fuel with
  | zero =>
      intro front text inString _ enough
      obtain ⟨rfl, nothing⟩ := List.append_eq_nil_iff.mp
        (List.eq_nil_of_length_eq_zero (Nat.le_zero.mp enough))
      cases text with
      | nil => rfl
      | cons c rest =>
          rw [textBytes_cons] at nothing
          exact absurd (List.append_eq_nil_iff.mp nothing).1 String.utf8EncodeChar_ne_nil
  | succ fuel ih =>
      intro front text inString high enough
      cases front with
      | cons b front =>
          rw [List.cons_append, List.length_cons] at enough
          rw [List.cons_append, scanNumberBytes_high _ _ (high b List.mem_cons_self)]
          exact ih front text inString (fun other member => high other
            (List.mem_cons_of_mem _ member)) (Nat.le_of_succ_le_succ enough)
      | nil =>
      cases text with
      | nil => rfl
      | cons c rest =>
      rw [List.nil_append, textBytes_cons] at enough ⊢
      by_cases ascii : c.toNat < 128
      · have byte : ∀ other : Char, other.toNat < 128 → (asciiByte c = asciiByte other ↔ c = other) :=
          fun other small => asciiByte_inj ascii small
        have isQuote : asciiByte c = 0x22 ↔ c = quote := byte quote (by decide)
        have isEscape : asciiByte c = 0x5c ↔ c = backslash := byte backslash (by decide)
        have isMinus : asciiByte c = 0x2d ↔ c = '-' := byte '-' (by decide)
        rw [utf8EncodeChar_ascii ascii, List.singleton_append] at enough ⊢
        rw [List.length_cons] at enough
        have bound := Nat.le_of_succ_le_succ enough
        have next : ∀ flag, scanNumberBytes fuel flag (textBytes rest) =
            validateNumberTokens flag rest :=
          fun flag => ih [] rest flag (List.forall_mem_nil _) bound
        obtain ⟨front, high', tail⟩ := exists_tail_textBytes rest
        have afterEscape : ∀ flag, scanNumberBytes fuel flag (textBytes rest).tail =
            validateNumberTokens flag rest.tail := by
          intro flag
          rw [tail]
          refine ih front rest.tail flag high' ?_
          rw [← tail, List.length_tail]
          omega
        have afterToken : scanNumberBytes fuel inString
              (textBytes (rest.dropWhile numberTokenChar)) =
            validateNumberTokens inString (rest.dropWhile numberTokenChar) := by
          refine ih [] _ inString (List.forall_mem_nil _) ?_
          rw [List.nil_append, ← (takeWhile_textBytes rest).2]
          exact ((List.dropWhile_sublist _).length_le).trans bound
        rw [scanNumberBytes, validateNumberTokens_cons, isAsciiDigit_asciiByte ascii,
          validateNumberAt_textBytes ascii]
        simp only [isQuote, isEscape, isMinus, next, afterEscape]
        by_cases valid : validNumberToken (c :: rest.takeWhile numberTokenChar)
        · simp only [valid, if_true, Bool.true_and, afterToken]
        · simp only [valid, if_false, Bool.false_and, Bool.false_eq_true]
      · have outside := Nat.not_lt.mp ascii
        obtain ⟨b, more, split⟩ := List.exists_cons_of_ne_nil (@String.utf8EncodeChar_ne_nil c)
        have bytes := utf8EncodeChar_high outside
        rw [split] at bytes enough ⊢
        rw [List.cons_append, List.length_cons] at enough
        rw [List.cons_append, scanNumberBytes_high _ _ (bytes b List.mem_cons_self),
          validateNumberTokens_high inString outside]
        exact ih more rest inString (fun other member => bytes other
          (List.mem_cons_of_mem _ member)) (Nat.le_of_succ_le_succ enough)

theorem validateNumberBytes_textBytes (text : List Char) :
    validateNumberBytes (textBytes text) = validateNumberTokens false text :=
  scanNumberBytes_textBytes _ [] text false (List.forall_mem_nil _) le_rfl

/-! ## Strict documents -/

/-- Reading strictly is the scan of the bytes followed by the reader. -/
theorem parseStrictValue_eq (input : Bytes) :
    parseStrictValue input =
      if validateNumberBytes input then okOr ((bytesText input).bind parseDocument) .schemaInvalid
      else .error .schemaInvalid := by
  rw [parseStrictValue]
  cases decoded : bytesText input with
  | none =>
      rw [Option.bind_none, Option.bind_none]
      split_ifs <;> rfl
  | some text =>
      obtain rfl := bytesText_eq_some.mp decoded
      rw [Option.bind_some, Option.bind_some, validateNumberBytes_textBytes]
      split_ifs <;> rfl

theorem allIntegral_iff (tree : Tree) : allIntegral tree.numbers = true ↔ tree.Integral := by
  rw [allIntegral, List.all_eq_true, Tree.Integral]
  simp only [decide_eq_true_eq]

/-- A document of the grammar is accepted exactly when it is strict. -/
theorem parseStrictValue_isDocument {tree : Tree} {text : List Char}
    (document : IsDocument tree text) :
    (tree.Strict maxDepth → parseStrictValue (textBytes text) = .ok tree.value) ∧
      (¬ tree.Strict maxDepth → parseStrictValue (textBytes text) = .error .schemaInvalid) := by
  have scan := validateNumberTokens_isDocument document
  have read := parseDocument_isDocument document
  rw [parseStrictValue, bytesText_textBytes, Option.bind_some, scan, read]
  constructor
  · intro strict
    rw [if_pos ((allIntegral_iff tree).mpr strict.integral), if_pos strict]
    rfl
  · intro loose
    rw [if_neg loose]
    split_ifs <;> rfl

/-- The strict parser reads a value exactly from the strict documents that say it. -/
theorem parseStrictValue_eq_ok {input : Bytes} {value : Value} :
    parseStrictValue input = .ok value ↔
      ∃ (tree : Tree) (text : List Char), input = textBytes text ∧ IsDocument tree text ∧
        tree.Strict maxDepth ∧ value = tree.value := by
  constructor
  · intro accepted
    obtain ⟨text, decoded, read⟩ := Option.bind_eq_some_iff.mp ((okOr_eq_ok _ _ _).mp accepted)
    split_ifs at read with scanned
    obtain ⟨tree, document, strict, same⟩ := parseDocument_eq_some.mp read
    exact ⟨tree, text, bytesText_eq_some.mp decoded, document, strict, same⟩
  · intro ⟨tree, text, bytes, document, strict, same⟩
    rw [bytes, same]
    exact (parseStrictValue_isDocument document).1 strict

/-- The strict parser accepts exactly strict JSON, and the scan of the bytes judges every
document of the grammar by its number tokens alone, whatever its strings hold. -/
theorem parseStrictValue_exact (input : Bytes) :
    (∀ value, parseStrictValue input = .ok value ↔
      ∃ (tree : Tree) (text : List Char), input = textBytes text ∧ IsDocument tree text ∧
        tree.Strict maxDepth ∧ value = tree.value) ∧
    (∀ (tree : Tree) (text : List Char), input = textBytes text → IsDocument tree text →
      (validateNumberBytes input = true ↔ tree.Integral) ∧
      (tree.Strict maxDepth → parseStrictValue input = .ok tree.value) ∧
      (¬ tree.Strict maxDepth → parseStrictValue input = .error .schemaInvalid)) ∧
    parseStrictValue input =
      if validateNumberBytes input then okOr ((bytesText input).bind parseDocument) .schemaInvalid
      else .error .schemaInvalid := by
  refine ⟨fun _ => parseStrictValue_eq_ok, ?_, parseStrictValue_eq input⟩
  intro tree text bytes document
  subst bytes
  refine ⟨?_, parseStrictValue_isDocument document⟩
  rw [validateNumberBytes_textBytes, validateNumberTokens_isDocument document]
  exact allIntegral_iff tree

end Reproit.Canonical
