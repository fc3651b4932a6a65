/-
# Canonical documents

Every typed value has one canonical byte string: its document is written, read back
by the strict reader and written again in canonical form.  The strict reader first
scans the raw text for number tokens and refuses every token that is not an exact
integer, and then reads the document.

For a type with a lawful codec the two passes collapse: the canonical bytes are the
compact text of its document, they exist exactly when every integer of the document
is exact, and reading them returns the value.
-/

import Reproit.Core.Primitives

namespace Reproit

open Json

/-! ## The scan for number tokens -/

namespace Canonical

/-- The characters that continue a number token. -/
def numberTokenChar (c : Char) : Bool :=
  c.isDigit || c = '+' || c = '-' || c = '.' || c = 'e' || c = 'E'

/-- A token is an exact integer and not a negative zero. -/
def validNumberToken (token : List Char) : Bool :=
  let digits := if token.head? = some '-' then token.tail else token
  token ≠ ['-', '0'] && digits ≠ [] && digits.all Char.isDigit &&
    Nat.ofDigitChars 10 digits 0 ≤ maxExactInteger

/-- Check every number token outside strings. The fuel bounds the characters scanned. -/
def scanNumberTokens : (fuel : Nat) → (inString : Bool) → List Char → Bool
  | 0, _, _ => true
  | _ + 1, _, [] => true
  | fuel + 1, inString, c :: rest =>
      if c = quote then scanNumberTokens fuel (!inString) rest
      else if c = backslash ∧ inString then scanNumberTokens fuel inString rest.tail
      else if ¬ inString ∧ (c = '-' ∨ c.isDigit) then
        validNumberToken (c :: rest.takeWhile numberTokenChar) &&
          scanNumberTokens fuel inString (rest.dropWhile numberTokenChar)
      else scanNumberTokens fuel inString rest

def validateNumberTokens (inString : Bool) (text : List Char) : Bool :=
  scanNumberTokens text.length inString text

/-- More fuel than characters changes nothing. -/
theorem scanNumberTokens_eq (fuel : Nat) (inString : Bool) (text : List Char)
    (enough : text.length ≤ fuel) :
    scanNumberTokens fuel inString text = validateNumberTokens inString text := by
  induction fuel using Nat.strongRecOn generalizing inString text with
  | ind fuel ih =>
      cases text with
      | nil => cases fuel <;> rfl
      | cons c rest =>
          obtain ⟨fuel, rfl⟩ := Nat.exists_eq_succ_of_ne_zero
            (by simp at enough; omega : fuel ≠ 0)
          have bound : rest.length ≤ fuel := by simpa using enough
          have dropped : (rest.dropWhile numberTokenChar).length ≤ rest.length :=
            (List.dropWhile_sublist _).length_le
          have tail : rest.tail.length ≤ rest.length := by simp
          have same : ∀ (flag : Bool) (later : List Char), later.length ≤ rest.length →
              scanNumberTokens fuel flag later = scanNumberTokens rest.length flag later := by
            intro flag later shorter
            rw [ih fuel (by omega) flag later (by omega)]
            rcases Nat.lt_or_eq_of_le bound with less | equal
            · rw [ih rest.length (by omega) flag later shorter]
            · rw [equal, ih fuel (by omega) flag later (by omega)]
          simp only [scanNumberTokens, validateNumberTokens, List.length_cons,
            same _ _ le_rfl, same _ _ dropped, same _ _ tail]

theorem validateNumberTokens_cons (inString : Bool) (c : Char) (rest : List Char) :
    validateNumberTokens inString (c :: rest) =
      if c = quote then validateNumberTokens (!inString) rest
      else if c = backslash ∧ inString then validateNumberTokens inString rest.tail
      else if ¬ inString ∧ (c = '-' ∨ c.isDigit) then
        validNumberToken (c :: rest.takeWhile numberTokenChar) &&
          validateNumberTokens inString (rest.dropWhile numberTokenChar)
      else validateNumberTokens inString rest := by
  have tail := scanNumberTokens_eq rest.length inString rest.tail (by simp)
  have dropped := scanNumberTokens_eq rest.length inString (rest.dropWhile numberTokenChar)
    (List.dropWhile_sublist _).length_le
  rw [validateNumberTokens, List.length_cons, scanNumberTokens, tail, dropped]
  rfl

theorem validateNumberTokens_escapeChar (c : Char) (rest : List Char) :
    validateNumberTokens true (escapeChar c ++ rest) = validateNumberTokens true rest := by
  have hex : ∀ digit : Char, (Radix.hexValue digit).isSome → digit ≠ quote ∧ digit ≠ backslash := by
    intro digit held
    constructor
    all_goals
      rintro rfl
      exact absurd held (by decide)
  have digits : ∀ text : List Char, (∀ digit ∈ text, (Radix.hexValue digit).isSome) →
      validateNumberTokens true (text ++ rest) = validateNumberTokens true rest := by
    intro text held
    induction text with
    | nil => rfl
    | cons digit text ih =>
        obtain ⟨noQuote, noEscape⟩ := hex digit (held digit List.mem_cons_self)
        rw [List.cons_append, validateNumberTokens_cons]
        simp only [noQuote, noEscape, if_false, false_and, not_true_eq_false]
        exact ih fun other member => held other (List.mem_cons_of_mem _ member)
  have escaped : ∀ (letter : Char) (later : List Char),
      validateNumberTokens true (backslash :: letter :: later) =
        validateNumberTokens true later := by
    intro letter later
    rw [validateNumberTokens_cons]
    simp [quote, backslash]
  unfold escapeChar
  split_ifs with h₁ h₂ h₃ h₄ h₅ h₆ h₇ h₈
  case neg =>
    rw [List.singleton_append, validateNumberTokens_cons]
    simp [h₁, h₂]
  all_goals
    rw [List.cons_append, List.cons_append, escaped]
    first
      | rfl
      | exact digits _ fun digit member => Radix.hexValue_isSome_of_mem_hexText member

theorem validateNumberTokens_renderString (text : String) (rest : List Char) :
    validateNumberTokens false (renderString text ++ rest) = validateNumberTokens false rest := by
  have body : ∀ chars : List Char,
      validateNumberTokens true (chars.flatMap escapeChar ++ quote :: rest) =
        validateNumberTokens false rest := by
    intro chars
    induction chars with
    | nil =>
        rw [List.flatMap_nil, List.nil_append, validateNumberTokens_cons, if_pos rfl]
        rfl
    | cons c chars ih =>
        rw [List.flatMap_cons, List.append_assoc, validateNumberTokens_escapeChar, ih]
  have head : renderString text ++ rest =
      quote :: (text.toList.flatMap escapeChar ++ quote :: rest) := by
    simp [renderString]
  rw [head, validateNumberTokens_cons, if_pos rfl]
  exact body text.toList

theorem numberTokenChar_of_isDigit {c : Char} (digit : c.isDigit) : numberTokenChar c := by
  simp [numberTokenChar, digit]

/-- A token ends where the text of the integer ends. -/
theorem takeWhile_numberToken {digits rest : List Char} (all : ∀ c ∈ digits, c.isDigit)
    (closes : Closes rest) :
    (digits ++ rest).takeWhile numberTokenChar = digits ∧
      (digits ++ rest).dropWhile numberTokenChar = rest := by
  have token : ∀ c ∈ digits, numberTokenChar c := fun c member =>
    numberTokenChar_of_isDigit (all c member)
  have stop : rest.takeWhile numberTokenChar = [] ∧ rest.dropWhile numberTokenChar = rest := by
    cases rest with
    | nil => exact ⟨rfl, rfl⟩
    | cons c rest =>
        rcases closes c rfl with rfl | rfl | rfl <;> exact ⟨rfl, rfl⟩
  constructor
  · rw [List.takeWhile_append_of_pos token, stop.1, List.append_nil]
  · rw [List.dropWhile_append_of_pos token, stop.2]

/-- A written integer passes the scan when it is exact. -/
theorem validNumberToken_renderInt (integer : Int) :
    validNumberToken (renderInt integer) = exactInt integer := by
  have digits : ∀ magnitude : Nat, (Nat.toDigits 10 magnitude).all Char.isDigit = true :=
    fun _ => List.all_eq_true.mpr toDigits_isDigit
  cases integer with
  | ofNat magnitude =>
      have noSign : (Nat.toDigits 10 magnitude).head? ≠ some '-' := by
        simpa using toDigits_head_ne_minus magnitude []
      have noZero : Nat.toDigits 10 magnitude ≠ ['-', '0'] := by
        intro same
        exact noSign (by rw [same]; rfl)
      simp [validNumberToken, renderInt, noSign, noZero, digits, Nat.toDigits_ne_nil,
        Nat.ofDigitChars_ten_toDigits, exactInt]
  | negSucc magnitude =>
      have noZero : Nat.toDigits 10 (magnitude + 1) ≠ ['0'] := by
        intro same
        have value := Nat.ofDigitChars_ten_toDigits (n := magnitude + 1)
        have zero : Nat.ofDigitChars 10 ['0'] 0 = 0 := by decide
        rw [same, zero] at value
        omega
      simp [validNumberToken, renderInt, noZero, digits, Nat.toDigits_ne_nil,
        Nat.ofDigitChars_ten_toDigits, exactInt]

theorem validateNumberTokens_renderInt (integer : Int) {rest : List Char}
    (closes : Closes rest) :
    validateNumberTokens false (renderInt integer ++ rest) =
      (exactInt integer && validateNumberTokens false rest) := by
  have token := validNumberToken_renderInt integer
  have start : ∀ (first : Char) (others : List Char), (first = '-' ∨ first.isDigit) →
      (∀ c ∈ others, c.isDigit) →
      validateNumberTokens false (first :: others ++ rest) =
        (validNumberToken (first :: others) && validateNumberTokens false rest) := by
    intro first others sign all
    have noQuote : first ≠ quote := by
      rintro rfl
      rcases sign with h | h <;> exact absurd h (by decide)
    obtain ⟨taken, dropped⟩ := takeWhile_numberToken all closes
    rw [List.cons_append, validateNumberTokens_cons, taken, dropped]
    simp [noQuote, sign]
  cases integer with
  | ofNat magnitude =>
      obtain ⟨first, others, hcons⟩ :=
        List.exists_cons_of_ne_nil (Nat.toDigits_ne_nil (n := magnitude) (b := 10))
      have all : ∀ c ∈ first :: others, c.isDigit := hcons ▸ toDigits_isDigit
      simp only [renderInt, hcons] at token ⊢
      rw [start first others (.inr (all _ List.mem_cons_self))
        fun c member => all c (List.mem_cons_of_mem _ member), token]
  | negSucc magnitude =>
      rw [← token]
      exact start '-' _ (.inl rfl) toDigits_isDigit

theorem validateNumberTokens_skip {c : Char} (rest : List Char)
    (plain : c ≠ quote ∧ c ≠ '-' ∧ c.isDigit = false) :
    validateNumberTokens false (c :: rest) = validateNumberTokens false rest := by
  rw [validateNumberTokens_cons]
  simp [plain]

mutual

/-- A written value passes the scan when its integers are exact. -/
theorem validateNumberTokens_render : ∀ (value : Value) (rest : List Char), Closes rest →
    validateNumberTokens false (render value ++ rest) =
      (exact value && validateNumberTokens false rest)
  | .null, rest, _ | .bool true, rest, _ | .bool false, rest, _ => by
      simp [render, exact, validateNumberTokens_skip, quote]
  | .number integer, rest, closes => by
      rw [render, validateNumberTokens_renderInt integer closes, exact]
  | .string text, rest, _ => by
      rw [render, validateNumberTokens_renderString, exact, Bool.true_and]
  | .array [], rest, _ => by
      simp [render, renderItems, exact, exactItems, validateNumberTokens_skip, quote]
  | .array (first :: others), rest, _ => by
      have head : render (.array (first :: others)) ++ rest =
          '[' :: (render first ++ (renderItems others ++ ']' :: rest)) := by
        simp [render, renderItems]
      rw [head, validateNumberTokens_skip _ (by decide),
        validateNumberTokens_render first _ (closes_renderItems others rest),
        validateNumberTokens_renderItems others rest, exact, exactItems, Bool.and_assoc]
  | .object [], rest, _ => by
      simp [render, renderFields, exact, exactFields, validateNumberTokens_skip, quote]
  | .object ((key, value) :: others), rest, _ => by
      have head : render (.object ((key, value) :: others)) ++ rest =
          '\x7b' :: (renderString key ++ (':' :: (render value ++
            (renderFields others ++ '\x7d' :: rest)))) := by
        simp [render, renderFields]
      rw [head, validateNumberTokens_skip _ (by decide), validateNumberTokens_renderString,
        validateNumberTokens_skip _ (by decide),
        validateNumberTokens_render value _ (closes_renderFields others rest),
        validateNumberTokens_renderFields others rest, exact, exactFields, Bool.and_assoc]

theorem validateNumberTokens_renderItems : ∀ (items : List Value) (rest : List Char),
    validateNumberTokens false (renderItems items ++ ']' :: rest) =
      (exactItems items && validateNumberTokens false rest)
  | [], rest => by simp [renderItems, exactItems, validateNumberTokens_skip, quote]
  | item :: items, rest => by
      have head : renderItems (item :: items) ++ ']' :: rest =
          ',' :: (render item ++ (renderItems items ++ ']' :: rest)) := by
        simp [renderItems]
      rw [head, validateNumberTokens_skip _ (by decide),
        validateNumberTokens_render item _ (closes_renderItems items rest),
        validateNumberTokens_renderItems items rest, exactItems, Bool.and_assoc]

theorem validateNumberTokens_renderFields : ∀ (fields : List (String × Value))
    (rest : List Char),
    validateNumberTokens false (renderFields fields ++ '\x7d' :: rest) =
      (exactFields fields && validateNumberTokens false rest)
  | [], rest => by simp [renderFields, exactFields, validateNumberTokens_skip, quote]
  | (key, value) :: fields, rest => by
      have head : renderFields ((key, value) :: fields) ++ '\x7d' :: rest =
          ',' :: (renderString key ++ (':' :: (render value ++
            (renderFields fields ++ '\x7d' :: rest)))) := by
        simp [renderFields]
      rw [head, validateNumberTokens_skip _ (by decide), validateNumberTokens_renderString,
        validateNumberTokens_skip _ (by decide),
        validateNumberTokens_render value _ (closes_renderFields fields rest),
        validateNumberTokens_renderFields fields rest, exactFields, Bool.and_assoc]

end

/-! ## Strict reading and canonical writing -/

/-- Read one strict document. -/
def parseStrictValue (input : Bytes) : Result Value :=
  okOr ((bytesText input).bind fun text =>
    if validateNumberTokens false text then parseDocument text else none) .schemaInvalid

/-- The canonical bytes of a document. -/
def valueBytes (value : Value) : Result Bytes := do
  let encoded := textBytes (render value)
  let strict ← parseStrictValue encoded
  return Json.canonicalBytes strict

end Canonical

/-- A type with a document form that is shallow enough to be read. -/
class Document (α : Type) where
  codec : Codec α
  shallow : codec.height ≤ maxDepth

namespace Document

variable {α : Type} [Document α]

/-- The document of a value. -/
def encode (value : α) : Value := codec.encode value

/-- Every integer of the document is exact. -/
def Exact (value : α) : Prop := Json.exact (encode value) = true

instance (value : α) : Decidable (Exact value) := inferInstanceAs (Decidable (_ = _))

theorem depth_encode_le (value : α) : Json.depth (encode value) ≤ maxDepth :=
  (codec.depth_le value).trans shallow

end Document

namespace Canonical

open Document

variable {α : Type} [Document α]

/-- The canonical bytes of a typed value. -/
def bytes (value : α) : Result Bytes := valueBytes (encode value)

/-- Read a typed value from a strict document. -/
def parseStrict (α : Type) [Document α] (input : Bytes) : Result α := do
  let value ← parseStrictValue input
  okOr (codec.decode value) .schemaInvalid

/-- The compact text of a plain value is read back when its integers are exact. -/
theorem parseStrictValue_render {value : Value} (shallow : Json.depth value ≤ maxDepth)
    (plain : Plain value) :
    parseStrictValue (textBytes (render value)) =
      if Json.exact value then .ok value else .error .schemaInvalid := by
  have scan := validateNumberTokens_render value [] (by simp [Closes])
  have nothing : validateNumberTokens false [] = true := rfl
  rw [List.append_nil, nothing, Bool.and_true] at scan
  rw [parseStrictValue, bytesText_textBytes, Option.bind_some, scan,
    parseDocument_render value shallow plain]
  by_cases exact : Json.exact value = true
  · simp [exact, okOr]
  · simp [exact, okOr]

/-- A plain value is written as its compact text. -/
theorem valueBytes_of_plain {value : Value} (shallow : Json.depth value ≤ maxDepth)
    (plain : Plain value) :
    valueBytes value =
      if Json.exact value then .ok (textBytes (render value)) else .error .schemaInvalid := by
  rw [valueBytes, parseStrictValue_render shallow plain]
  by_cases exact : Json.exact value = true
  · rw [if_pos exact, if_pos exact, ok_bind, Json.canonicalBytes_of_plain plain]
    rfl
  · rw [if_neg exact, if_neg exact]
    rfl

theorem parseStrictValue_textBytes (value : α) :
    parseStrictValue (textBytes (render (encode value))) =
      if Exact value then .ok (encode value) else .error .schemaInvalid :=
  parseStrictValue_render (depth_encode_le value) (codec.plain value)

/-- The canonical bytes are the compact text of the document, and they exist exactly
when every integer is exact. -/
theorem bytes_eq (value : α) :
    bytes value =
      if Exact value then .ok (textBytes (render (encode value))) else .error .schemaInvalid :=
  valueBytes_of_plain (depth_encode_le value) (codec.plain value)

theorem bytes_eq_ok {value : α} {written : Bytes} :
    bytes value = .ok written ↔ Exact value ∧ written = textBytes (render (encode value)) := by
  rw [bytes_eq]
  split_ifs with exact
  · simp [exact, eq_comm]
  · simp [exact]

/-- The compact text of a value's document. -/
def text (value : α) : Bytes := textBytes (render (encode value))

theorem bytes_of_exact {value : α} (exact : Exact value) : bytes value = .ok (text value) :=
  bytes_eq_ok.mpr ⟨exact, rfl⟩

/-- Canonical bytes are read back as the value they were written for. -/
theorem parseStrict_bytes {value : α} {written : Bytes} (canonical : bytes value = .ok written) :
    parseStrict α written = .ok value := by
  obtain ⟨exact, rfl⟩ := bytes_eq_ok.mp canonical
  rw [parseStrict, parseStrictValue_textBytes, if_pos exact, ok_bind]
  simp [encode, codec.decode_encode]

/-- Different values have different canonical bytes. -/
theorem bytes_injective {first second : α} {written : Bytes}
    (hfirst : bytes first = .ok written) (hsecond : bytes second = .ok written) :
    first = second := by
  have read := parseStrict_bytes hfirst
  rw [parseStrict_bytes hsecond] at read
  exact (Except.ok.inj read).symm

variable [Primitives]

/-- The canonical digest of a typed value. -/
def digest (value : α) : Result Digest := Digest.of <$> bytes value

theorem digest_eq_ok {value : α} {identity : Digest} :
    digest value = .ok identity ↔ ∃ written, bytes value = .ok written ∧
      Digest.of written = identity := by
  rw [digest, map_eq_ok]

theorem digest_of_exact {value : α} (exact : Exact value) :
    digest value = .ok (Digest.of (text value)) :=
  digest_eq_ok.mpr ⟨_, bytes_of_exact exact, rfl⟩

/-- Without a collision on the two documents, equal digests mean equal values. -/
theorem digest_injective {first second : α} {identity : Digest}
    (hfirst : digest first = .ok identity) (hsecond : digest second = .ok identity)
    (noCollision : ∀ firstBytes secondBytes, bytes first = .ok firstBytes →
      bytes second = .ok secondBytes → Digest.of firstBytes = Digest.of secondBytes →
      firstBytes = secondBytes) : first = second := by
  obtain ⟨firstBytes, writtenFirst, digestFirst⟩ := digest_eq_ok.mp hfirst
  obtain ⟨secondBytes, writtenSecond, digestSecond⟩ := digest_eq_ok.mp hsecond
  have same := noCollision _ _ writtenFirst writtenSecond (digestFirst.trans digestSecond.symm)
  subst same
  exact bytes_injective writtenFirst writtenSecond

end Canonical

end Reproit
