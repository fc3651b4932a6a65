/-
# Readers of identifiers

A typed identifier is read by a parser of UUIDs, whose result is printed again and
compared with the text.  So only the lowercase hyphenated spelling is accepted, whatever
other spellings the parser reads.
-/

import Reproit.Core.Identity
import Reproit.Data.Pattern

namespace Reproit

namespace Radix

/-- The first digit of a spelling. -/
theorem hexText_succ (width number : Nat) :
    hexText (width + 1) number = Nat.digitChar (number / 16 ^ width % 16) :: hexText width number := by
  induction width generalizing number with
  | zero => simp [hexText]
  | succ width ih =>
      rw [hexText, ih, hexText, Nat.div_div_eq_div_mul, pow_succ, Nat.mul_comm 16]
      rfl

theorem hexText_congr {width first second : Nat}
    (same : first % 16 ^ width = second % 16 ^ width) :
    hexText width first = hexText width second := by
  rw [← hexText_mod width first, same, hexText_mod]

end Radix

/-- The digits `0` to `9` and `a` to `f`. -/
def isLowerHex (c : Char) : Bool := c.isDigit || ('a' ≤ c && c ≤ 'f')

theorem isLowerHex_eq (c : Char) : isLowerHex c = (Radix.hexValue c).isSome := by
  have decimal : c.isDigit = true ↔ '0' ≤ c ∧ c ≤ '9' := by
    rw [Char.isDigit, Bool.and_eq_true, decide_eq_true_eq, decide_eq_true_eq]
    rfl
  rw [isLowerHex, Radix.hexValue, Bool.eq_iff_iff, Bool.or_eq_true, decimal]
  split_ifs with figure letter
  · simp [figure]
  · simp [letter]
  · simp only [figure, false_or, Bool.and_eq_true, decide_eq_true_eq, letter, Option.isSome_none,
      Bool.false_eq_true]

theorem exists_readHex {digits : List Char} (all : digits.all isLowerHex = true) (start : Nat) :
    ∃ number, Radix.readHex start digits = some number := by
  induction digits generalizing start with
  | nil => exact ⟨start, rfl⟩
  | cons c rest ih =>
      rw [List.all_cons, Bool.and_eq_true, isLowerHex_eq, Option.isSome_iff_exists] at all
      obtain ⟨value, valued⟩ := all.1
      rw [Radix.readHex, valued, Option.bind_some]
      exact ih all.2 _

/-- Lowercase hexadecimal digits are the spelling of one number. -/
theorem accepts_times_isLowerHex (width : Nat) (text : List Char) :
    (Pattern.times width isLowerHex).accepts text = true ↔
      ∃ number < 16 ^ width, text = Radix.hexText width number := by
  rw [Pattern.accepts_times]
  constructor
  · intro ⟨length, all⟩
    obtain ⟨number, read⟩ := exists_readHex all 0
    obtain ⟨rest, small, _, spelled⟩ := Radix.eq_hexText_of_readHex read
    rw [length] at small spelled
    exact ⟨rest, small, spelled⟩
  · rintro ⟨number, _, rfl⟩
    refine ⟨Radix.length_hexText width number, List.all_eq_true.mpr fun c member => ?_⟩
    rw [isLowerHex_eq]
    exact Radix.hexValue_isSome_of_mem_hexText member

/-! ## The form of a UUID -/

/-- A lowercase hyphenated UUID of version 7, with the first digit of its fourth group
of a class. -/
def uuidPattern (variant : Char → Bool) : Pattern :=
  .times 8 isLowerHex ++ (.word ['-'] ++ (.times 4 isLowerHex ++ (.word ['-', '7'] ++
    (.times 3 isLowerHex ++ (.word ['-'] ++ ([variant] ++ (.times 3 isLowerHex ++
      (.word ['-'] ++ .times 12 isLowerHex))))))))

/-- The digit behind the third hyphen, which holds the variant of the UUID. -/
def Uuid.variantDigit (number : Nat) : Char := Nat.digitChar (number / 16 ^ 15 % 16)

/-- The text of a UUID, cut at its version and its variant. -/
theorem Uuid.toText_eq (number : Nat) :
    toText number = Radix.hexText 8 (number / 16 ^ 24) ++ (['-'] ++
      (Radix.hexText 4 (number / 16 ^ 20) ++ (['-', Nat.digitChar (version number)] ++
        (Radix.hexText 3 (number / 16 ^ 16) ++ (['-'] ++ ([variantDigit number] ++
          (Radix.hexText 3 (number / 16 ^ 12) ++ (['-'] ++ Radix.hexText 12 number)))))))) := by
  rw [toText, Radix.hexText_succ 3 (number / 16 ^ 16), Radix.hexText_succ 3 (number / 16 ^ 12),
    Nat.div_div_eq_div_mul, Nat.div_div_eq_div_mul]
  rfl

/-- The UUID of version 7 with given digits between the hyphens. -/
def Uuid.ofParts (first second third variant fourth fifth : Nat) : Nat :=
  first * 16 ^ 24 + second * 16 ^ 20 + 7 * 16 ^ 19 + third * 16 ^ 16 + variant * 16 ^ 15 +
    fourth * 16 ^ 12 + fifth

theorem Uuid.toText_ofParts {first second third variant fourth fifth : Nat}
    (hfirst : first < 16 ^ 8) (hsecond : second < 16 ^ 4) (hthird : third < 16 ^ 3)
    (hvariant : variant < 16) (hfourth : fourth < 16 ^ 3) (hfifth : fifth < 16 ^ 12) :
    let number := ofParts first second third variant fourth fifth
    number < 2 ^ 128 ∧ version number = 7 ∧ variantDigit number = Nat.digitChar variant ∧
      toText number = Radix.hexText 8 first ++ (['-'] ++ (Radix.hexText 4 second ++
        (['-', '7'] ++ (Radix.hexText 3 third ++ (['-'] ++ ([Nat.digitChar variant] ++
          (Radix.hexText 3 fourth ++ (['-'] ++ Radix.hexText 12 fifth)))))))) := by
  intro number
  have bounded : number < 2 ^ 128 := by
    simp only [number, ofParts]
    norm_num at *
    omega
  have seventh : version number = 7 := by
    simp only [number, ofParts, version]
    norm_num at *
    omega
  have digit : variantDigit number = Nat.digitChar variant := by
    rw [variantDigit]
    congr 1
    simp only [number, ofParts]
    norm_num at *
    omega
  refine ⟨bounded, seventh, digit, ?_⟩
  have groups : number / 16 ^ 24 % 16 ^ 8 = first % 16 ^ 8 ∧
      number / 16 ^ 20 % 16 ^ 4 = second % 16 ^ 4 ∧ number / 16 ^ 16 % 16 ^ 3 = third % 16 ^ 3 ∧
      number / 16 ^ 12 % 16 ^ 3 = fourth % 16 ^ 3 ∧ number % 16 ^ 12 = fifth % 16 ^ 12 := by
    simp only [number, ofParts]
    norm_num at *
    omega
  rw [toText_eq, seventh, digit, Radix.hexText_congr groups.1, Radix.hexText_congr groups.2.1,
    Radix.hexText_congr groups.2.2.1, Radix.hexText_congr groups.2.2.2.1,
    Radix.hexText_congr groups.2.2.2.2]
  rfl

/-- The texts of a form are the spellings of the UUIDs of version 7 with such a variant. -/
theorem accepts_uuidPattern {variant : Char → Bool}
    (digits : ∀ c, variant c = true → isLowerHex c = true) (text : List Char) :
    (uuidPattern variant).accepts text = true ↔
      ∃ number < 2 ^ 128, Uuid.version number = 7 ∧
        variant (Uuid.variantDigit number) = true ∧ text = Uuid.toText number := by
  simp only [uuidPattern, Pattern.accepts_append, Pattern.accepts_word, accepts_times_isLowerHex,
    Pattern.accepts_cons, Pattern.accepts_nil]
  constructor
  · rintro ⟨_, _, rfl, ⟨first, hfirst, rfl⟩, _, _, rfl, rfl, _, _, rfl, ⟨second, hsecond, rfl⟩,
      _, _, rfl, rfl, _, _, rfl, ⟨third, hthird, rfl⟩, _, _, rfl, rfl, _, _, rfl,
      ⟨c, _, rfl, allowed, rfl⟩, _, _, rfl, ⟨fourth, hfourth, rfl⟩, _, _, rfl, rfl,
      fifth, hfifth, rfl⟩
    have digit := digits c allowed
    rw [isLowerHex_eq, Option.isSome_iff_exists] at digit
    obtain ⟨value, valued⟩ := digit
    obtain ⟨small, rfl⟩ := Radix.digitChar_of_hexValue valued
    obtain ⟨bounded, seventh, spelled, text⟩ :=
      Uuid.toText_ofParts hfirst hsecond hthird small hfourth hfifth
    exact ⟨_, bounded, seventh, spelled.symm ▸ allowed, text.symm⟩
  · rintro ⟨number, _, seventh, allowed, rfl⟩
    have spelling : ∀ width part : Nat, ∃ rest < 16 ^ width,
        Radix.hexText width part = Radix.hexText width rest := fun width part =>
      ⟨part % 16 ^ width, Nat.mod_lt _ (by positivity), (Radix.hexText_mod width part).symm⟩
    rw [Uuid.toText_eq, seventh]
    exact ⟨_, _, rfl, spelling _ _, _, _, rfl, rfl, _, _, rfl, spelling _ _, _, _, rfl, rfl,
      _, _, rfl, spelling _ _, _, _, rfl, rfl, _, _, rfl, ⟨_, _, rfl, allowed, rfl⟩,
      _, _, rfl, spelling _ _, _, _, rfl, rfl, spelling _ _⟩

/-! ## Reading -/

/-- The lowercase hyphenated spelling of every UUID is parsed. -/
def ParsesHyphenated (parse : List Char → Option (Fin (2 ^ 128))) : Prop :=
  ∀ uuid : Fin (2 ^ 128), parse (Uuid.toText uuid) = some uuid

/-- The parser that reads the digits wherever the hyphens stand. -/
def Uuid.parseDigits (text : List Char) : Option (Fin (2 ^ 128)) :=
  (Uuid.ofText text).bind fun number =>
    if small : number < 2 ^ 128 then some ⟨number, small⟩ else none

theorem Uuid.parsesHyphenated_parseDigits : ParsesHyphenated parseDigits := by
  intro uuid
  rw [parseDigits, ofText_toText uuid.isLt, Option.bind_some, dif_pos uuid.isLt]

/-- A UUID of version 7. -/
structure UuidV7 where
  uuid : Fin (2 ^ 128)
  version : Uuid.version uuid = 7

theorem UuidV7.uuid_injective : Function.Injective UuidV7.uuid := by
  rintro ⟨first, _⟩ ⟨second, _⟩ rfl
  rfl

instance : DecidableEq UuidV7 := fun first second =>
  decidable_of_iff (first.uuid = second.uuid) UuidV7.uuid_injective.eq_iff

/-- The spelling behind a tag. -/
def UuidV7.toText (tag : String) (id : UuidV7) : String :=
  tag ++ String.ofList (Uuid.toText id.uuid)

theorem TypedId.toText_eq {kind : IdKind} (id : TypedId kind) :
    id.toText = UuidV7.toText kind.tag ⟨id.uuid, id.version⟩ := by
  rw [toText, UuidV7.toText]
  apply String.toList_injective
  simp only [String.toList_ofList, String.toList_append]

section

variable (parse : List Char → Option (Fin (2 ^ 128)))

/-- Read a UUID of version 7 behind a tag. -/
def uuidFromStr (tag value : String) : Result UuidV7 := do
  let uuidText ← okOr (stripStart value tag) .schemaInvalid
  let uuid ← okOr (parse uuidText.toList) .schemaInvalid
  if valid : Uuid.version uuid = 7 ∧ String.ofList (Uuid.toText uuid) = uuidText then
    .ok ⟨uuid, valid.1⟩
  else .error .schemaInvalid

/-- Read an identifier of a kind. -/
def TypedId.fromStr {kind : IdKind} (value : String) : Result (TypedId kind) := do
  let id ← uuidFromStr parse kind.tag value
  return ⟨id.uuid, id.version⟩

variable {parse}

/-- Only the lowercase hyphenated spelling behind the tag is read. -/
theorem uuidFromStr_eq_ok (parses : ParsesHyphenated parse) {tag value : String} {id : UuidV7} :
    uuidFromStr parse tag value = .ok id ↔ value = id.toText tag := by
  simp only [uuidFromStr, bind_eq_ok, okOr_eq_ok, stripStart_eq_some]
  constructor
  · rintro ⟨uuidText, rfl, uuid, _, accepted⟩
    split_ifs at accepted with valid
    obtain rfl := Except.ok.inj accepted
    rw [UuidV7.toText, valid.2]
  · rintro rfl
    refine ⟨_, rfl, id.uuid, ?_, dif_pos ⟨id.version, rfl⟩⟩
    rw [String.toList_ofList]
    exact parses id.uuid

theorem TypedId.fromStr_eq_ok (parses : ParsesHyphenated parse) {kind : IdKind} {value : String}
    {id : TypedId kind} : fromStr parse value = .ok id ↔ value = id.toText := by
  rw [id.toText_eq, ← uuidFromStr_eq_ok parses, fromStr]
  simp only [bind_eq_ok, pure_eq_ok]
  constructor
  · rintro ⟨read, ran, rfl⟩
    exact ran
  · exact fun ran => ⟨_, ran, rfl⟩

/-- Documents read an identifier as the reader of its kind does. -/
theorem TypedId.fromStr_eq_ok_iff_ofText (parses : ParsesHyphenated parse) {kind : IdKind}
    {value : String} {id : TypedId kind} :
    fromStr parse value = .ok id ↔ ofText value = some id := by
  rw [fromStr_eq_ok parses]
  exact ⟨fun spelled => spelled ▸ ofText_toText id, fun read => (toText_of_ofText read).symm⟩

/-- The texts behind a tag. -/
theorem UuidV7.exists_toText_iff (tag text : String) :
    (∃ id : UuidV7, text = id.toText tag) ↔
      (.word tag.toList ++ uuidPattern isLowerHex : Pattern).accepts text.toList = true := by
  rw [Pattern.accepts_append]
  simp only [Pattern.accepts_word, accepts_uuidPattern (fun _ => id)]
  constructor
  · rintro ⟨id, rfl⟩
    refine ⟨_, _, ?_, rfl, id.uuid, id.uuid.isLt, id.version, ?_, rfl⟩
    · rw [UuidV7.toText, String.toList_append, String.toList_ofList]
    · rw [isLowerHex_eq, Uuid.variantDigit, Radix.hexValue_digitChar _ (Nat.mod_lt _ (by decide))]
      rfl
  · rintro ⟨_, _, spelled, rfl, number, small, version, _, rfl⟩
    refine ⟨⟨⟨number, small⟩, version⟩, String.toList_injective ?_⟩
    rw [spelled, UuidV7.toText, String.toList_append, String.toList_ofList]

/-- The texts of the identifiers of a kind. -/
theorem TypedId.exists_toText_iff (kind : IdKind) (text : String) :
    (∃ id : TypedId kind, text = id.toText) ↔
      (.word kind.tag.toList ++ uuidPattern isLowerHex : Pattern).accepts text.toList = true := by
  rw [← UuidV7.exists_toText_iff]
  constructor
  · rintro ⟨id, rfl⟩
    exact ⟨⟨id.uuid, id.version⟩, id.toText_eq⟩
  · rintro ⟨id, rfl⟩
    exact ⟨⟨id.uuid, id.version⟩, (TypedId.toText_eq ⟨id.uuid, id.version⟩).symm⟩

end

end Reproit
