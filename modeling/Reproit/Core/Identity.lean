/-
# Digests, typed identifiers and timestamps

A digest is a 256-bit number spelled as `sha256:` and 64 lowercase hexadecimal
digits.  A typed identifier is a version 7 UUID spelled behind the tag of its kind.
Both are read only from their one spelling, and the text order of two spellings is
the order of the values.  A timestamp is kept as its text, so its order is the order
of texts.
-/

import Reproit.Core.Error
import Reproit.Data.Codec
import Reproit.Data.OrderedMap

namespace Reproit

/-- A sequence of bytes. -/
abbrev Bytes := List UInt8

/-! ## Digests -/

/-- A SHA-256 digest, ordered like its big-endian bytes. -/
structure Digest where
  number : Fin (2 ^ 256)
  deriving DecidableEq

namespace Digest

theorem number_injective : Function.Injective number := by
  rintro ⟨first⟩ ⟨second⟩ rfl
  rfl

instance : LinearOrder Digest := LinearOrder.lift' number number_injective

/-- There are digests. -/
instance neZero_width : NeZero (2 ^ 256) := inferInstance

instance : Inhabited Digest := ⟨⟨0⟩⟩

/-- The text in front of the digits. -/
def tag : List Char := "sha256:".toList

def toText (digest : Digest) : String :=
  String.ofList (tag ++ Radix.hexText 64 digest.number)

/-- Read the one spelling of a digest. -/
def ofText (text : String) : Option Digest :=
  match Json.expect tag text.toList with
  | none => none
  | some digits =>
      if digits.length = 64 then
        (Radix.readHex 0 digits).bind fun number =>
          if small : number < 2 ^ 256 then some ⟨⟨number, small⟩⟩ else none
      else none

theorem ofText_toText (digest : Digest) : ofText digest.toText = some digest := by
  obtain ⟨number, small⟩ := digest
  have width : 2 ^ 256 = 16 ^ 64 := by norm_num
  have read := @Radix.readHex_zero_hexText 64 number (width ▸ small)
  rw [ofText, toText, String.toList_ofList, Json.expect_append]
  simp only [Radix.length_hexText, if_true, read, Option.bind_some, dif_pos small]

/-- A digest has one spelling. -/
theorem ofText_eq_some {text : String} {digest : Digest} :
    ofText text = some digest ↔ text = digest.toText := by
  refine ⟨fun read => ?_, fun same => same ▸ ofText_toText digest⟩
  rw [ofText] at read
  cases tagged : Json.expect tag text.toList with
  | none =>
      rw [tagged] at read
      cases read
  | some digits =>
      rw [tagged] at read
      dsimp only at read
      by_cases width : digits.length = 64
      · rw [if_pos width, Option.bind_eq_some_iff] at read
        obtain ⟨number, digitsRead, bounded⟩ := read
        obtain ⟨rest, -, same, spelled⟩ := Radix.eq_hexText_of_readHex digitsRead
        rw [Nat.zero_mul, Nat.zero_add] at same
        rw [width, ← same] at spelled
        by_cases small : number < 2 ^ 256
        · rw [dif_pos small] at bounded
          cases bounded
          apply String.toList_injective
          rw [Json.expect_eq_some.mp tagged, toText, String.toList_ofList, ← spelled]
        · rw [dif_neg small] at bounded
          cases bounded
      · rw [if_neg width] at read
        cases read

theorem toText_injective : Function.Injective toText := by
  intro first second same
  have read := ofText_toText first
  rw [same, ofText_toText] at read
  exact (Option.some.inj read).symm

def codec : Codec Digest :=
  .text toText ofText ofText_toText fun read => (ofText_eq_some.mp read).symm

end Digest

/-! ## Typed identifiers -/

/-- The kinds of typed identifiers. -/
inductive IdKind
  | organization | project | service | capture | operation | occurrence | repro | upload | object
  | execution | lease | deletion | fuzzCampaign | fuzzCase
  deriving DecidableEq

/-- The text in front of the UUID. -/
def IdKind.tag : IdKind → String
  | .organization => "org_"
  | .project => "prj_"
  | .service => "svc_"
  | .capture => "cap_"
  | .operation => "op_"
  | .occurrence => "occ_"
  | .repro => "rpr_"
  | .upload => "upl_"
  | .object => "obj_"
  | .execution => "exe_"
  | .lease => "lse_"
  | .deletion => "del_"
  | .fuzzCampaign => "fc_"
  | .fuzzCase => "case_"

namespace Uuid

/-- The version number, the high half of the seventh byte. -/
def version (number : Nat) : Nat := number / 2 ^ 76 % 16

/-- The lowercase spelling with hyphens. -/
def toText (number : Nat) : List Char :=
  Radix.hexText 8 (number / 16 ^ 24) ++ '-' :: (Radix.hexText 4 (number / 16 ^ 20) ++
    '-' :: (Radix.hexText 4 (number / 16 ^ 16) ++ '-' :: (Radix.hexText 4 (number / 16 ^ 12) ++
      '-' :: Radix.hexText 12 number)))

/-- The number that the hexadecimal digits of a text spell. -/
def ofText (text : List Char) : Option Nat := Radix.readHex 0 (text.filter (· ≠ '-'))

theorem filter_hexText (width number : Nat) :
    (Radix.hexText width number).filter (· ≠ '-') = Radix.hexText width number := by
  rw [List.filter_eq_self]
  intro digit member
  have digitValue := Radix.hexValue_isSome_of_mem_hexText member
  simp only [ne_eq, decide_not, Bool.not_eq_eq_eq_not, Bool.not_true, decide_eq_false_iff_not]
  rintro rfl
  exact absurd digitValue (by decide)

theorem ofText_toText {number : Nat} (small : number < 2 ^ 128) :
    ofText (toText number) = some number := by
  simp only [ofText, toText, List.filter_append, List.filter_cons, filter_hexText, ne_eq,
    not_true_eq_false, decide_false, if_false, Bool.false_eq_true, Radix.readHex_append,
    Radix.readHex_hexText, Option.bind_some]
  congr 1
  norm_num at small ⊢
  omega

/-- Comparing two spellings compares the numbers. -/
theorem toText_lt_iff {first second : Nat} (hfirst : first < 2 ^ 128)
    (hsecond : second < 2 ^ 128) : toText first < toText second ↔ first < second := by
  have group : ∀ width firstPart secondPart : Nat,
      (Radix.hexText width firstPart < Radix.hexText width secondPart ↔
        firstPart % 16 ^ width < secondPart % 16 ^ width) ∧
      (Radix.hexText width firstPart = Radix.hexText width secondPart ↔
        firstPart % 16 ^ width = secondPart % 16 ^ width) := by
    intro width firstPart secondPart
    have pos : 0 < 16 ^ width := by positivity
    rw [← Radix.hexText_mod width firstPart, ← Radix.hexText_mod width secondPart]
    constructor
    · exact Radix.hexText_lt_iff (Nat.mod_lt _ pos) (Nat.mod_lt _ pos)
    · exact ⟨Radix.hexText_injective (Nat.mod_lt _ pos) (Nat.mod_lt _ pos), fun same => by
        rw [same]⟩
  have joined : ∀ (width firstPart secondPart : Nat) (firstRest secondRest : List Char),
      Radix.hexText width firstPart ++ '-' :: firstRest <
          Radix.hexText width secondPart ++ '-' :: secondRest ↔
        firstPart % 16 ^ width < secondPart % 16 ^ width ∨
          firstPart % 16 ^ width = secondPart % 16 ^ width ∧ firstRest < secondRest := by
    intro width firstPart secondPart firstRest secondRest
    rw [Radix.append_lt_append_iff (by simp), (group _ _ _).1, (group _ _ _).2,
      List.cons_lt_cons_iff]
    simp
  have merge : ∀ high low : Nat,
      (first / 16 ^ low % 16 ^ high < second / 16 ^ low % 16 ^ high ∨
        first / 16 ^ low % 16 ^ high = second / 16 ^ low % 16 ^ high ∧
          first % 16 ^ low < second % 16 ^ low) ↔
        first % 16 ^ (low + high) < second % 16 ^ (low + high) := fun high low => by
    rw [pow_add, Radix.mod_mul_lt_iff (by positivity)]
  have whole : 2 ^ 128 = 16 ^ (24 + 8) := by norm_num
  rw [whole] at hfirst hsecond
  simp only [toText, joined, (group _ _ _).1, merge, Nat.mod_eq_of_lt hfirst,
    Nat.mod_eq_of_lt hsecond]

theorem toText_injective {first second : Nat} (hfirst : first < 2 ^ 128)
    (hsecond : second < 2 ^ 128) (same : toText first = toText second) : first = second := by
  have read := ofText_toText hfirst
  rw [same, ofText_toText hsecond] at read
  exact (Option.some.inj read).symm

end Uuid

/-- An identifier of one kind: a version 7 UUID. -/
structure TypedId (kind : IdKind) where
  uuid : Fin (2 ^ 128)
  version : Uuid.version uuid = 7
  deriving DecidableEq

abbrev OrganizationId := TypedId .organization
abbrev ProjectId := TypedId .project
abbrev ServiceId := TypedId .service
abbrev CaptureId := TypedId .capture
abbrev OperationId := TypedId .operation
abbrev ObjectId := TypedId .object
abbrev ExecutionId := TypedId .execution
abbrev LeaseId := TypedId .lease
abbrev FuzzCampaignId := TypedId .fuzzCampaign
abbrev FuzzCaseId := TypedId .fuzzCase

namespace TypedId

variable {kind : IdKind}

theorem uuid_injective : Function.Injective (uuid : TypedId kind → Fin (2 ^ 128)) := by
  rintro ⟨first, _⟩ ⟨second, _⟩ rfl
  rfl

instance : LinearOrder (TypedId kind) := LinearOrder.lift' uuid uuid_injective

/-! The identifiers that are keys, one instance each. -/

instance objectKey : Std.TransCmp (compare : ObjectId → ObjectId → Ordering) := transCmp

instance serviceKey : Std.TransCmp (compare : ServiceId → ServiceId → Ordering) := transCmp

instance executionKey : Std.TransCmp (compare : ExecutionId → ExecutionId → Ordering) := transCmp

instance leaseKey : Std.TransCmp (compare : LeaseId → LeaseId → Ordering) := transCmp

instance lawfulObject : LawfulBEq ObjectId := inferInstance

def toText (id : TypedId kind) : String :=
  String.ofList (kind.tag.toList ++ Uuid.toText id.uuid)

/-- Read the one spelling of an identifier: the tag of the kind and a lowercase
hyphenated UUID of version 7. -/
def ofText (text : String) : Option (TypedId kind) :=
  match Json.expect kind.tag.toList text.toList with
  | none => none
  | some uuidText =>
      (Uuid.ofText uuidText).bind fun number =>
        if valid : number < 2 ^ 128 ∧ Uuid.version number = 7 then
          if Uuid.toText number = uuidText then some ⟨⟨number, valid.1⟩, valid.2⟩ else none
        else none

theorem ofText_toText (id : TypedId kind) : ofText id.toText = some id := by
  obtain ⟨⟨number, small⟩, version⟩ := id
  have read := Uuid.ofText_toText small
  have valid : number < 2 ^ 128 ∧ Uuid.version number = 7 := ⟨small, version⟩
  rw [ofText, toText, String.toList_ofList, Json.expect_append]
  simp only [read, Option.bind_some, dif_pos valid, if_true]

theorem toText_injective : Function.Injective (toText : TypedId kind → String) := by
  intro first second same
  have read := ofText_toText first
  rw [same, ofText_toText] at read
  exact (Option.some.inj read).symm

/-- The text order of identifiers is their own order. -/
theorem toText_lt_iff (first second : TypedId kind) :
    first.toText < second.toText ↔ first < second := by
  have order : first < second ↔ first.uuid.val < second.uuid.val := Iff.rfl
  rw [String.lt_iff_toList_lt, toText, toText, String.toList_ofList, String.toList_ofList,
    Radix.append_lt_append_iff rfl, order, Uuid.toText_lt_iff first.uuid.isLt second.uuid.isLt]
  simp

/-- The big-endian bytes of the UUID. -/
def uuidBytes (id : TypedId kind) : Bytes :=
  (List.range 16).map fun index => UInt8.ofNat (id.uuid / 256 ^ (15 - index))

/-- An identifier has one spelling. -/
theorem toText_of_ofText {text : String} {id : TypedId kind} (read : ofText text = some id) :
    id.toText = text := by
  rw [ofText] at read
  cases tagged : Json.expect kind.tag.toList text.toList with
  | none =>
      rw [tagged] at read
      cases read
  | some uuidText =>
      rw [tagged] at read
      obtain ⟨number, -, bounded⟩ := Option.bind_eq_some_iff.mp read
      split_ifs at bounded with valid same
      obtain rfl := Option.some.inj bounded
      apply String.toList_injective
      rw [toText, String.toList_ofList, Json.expect_eq_some.mp tagged, ← same]

def codec : Codec (TypedId kind) := .text toText ofText ofText_toText toText_of_ofText

theorem decode_null : (codec : Codec (TypedId kind)).decode .null = none := rfl

end TypedId

/-! ## Timestamps -/

namespace Calendar

def leapYear (year : Nat) : Bool := year % 4 = 0 && (year % 100 ≠ 0 || year % 400 = 0)

def daysInMonth (year month : Nat) : Nat :=
  if month = 2 then if leapYear year then 29 else 28
  else if month = 4 ∨ month = 6 ∨ month = 9 ∨ month = 11 then 30
  else 31

/-- The number that the digits between two positions spell. -/
def digitsBetween (text : List Char) (first last : Nat) : Nat :=
  Nat.ofDigitChars 10 ((text.take last).drop first) 0

/-- A date and time of day that exists. A leap second is allowed at the end of the
last day of a month. -/
def exists? (text : List Char) : Bool :=
  let year := digitsBetween text 0 4
  let month := digitsBetween text 5 7
  let day := digitsBetween text 8 10
  let hour := digitsBetween text 11 13
  let minute := digitsBetween text 14 16
  let second := digitsBetween text 17 19
  1 ≤ month && month ≤ 12 && 1 ≤ day && day ≤ daysInMonth year month && hour ≤ 23 &&
    minute ≤ 59 &&
    (second ≤ 59 || (second = 60 && hour = 23 && minute = 59 && day = daysInMonth year month))

end Calendar

/-- The fixed shape `0000-00-00T00:00:00.000Z`. -/
def timestampShapeIsValid (text : List Char) : Bool :=
  text.length = 24 &&
    (text.zip "0000-00-00T00:00:00.000Z".toList).all fun (held, shape) =>
      if shape = '0' then held.isDigit else held = shape

/-- A UTC time with milliseconds, kept as its text. -/
structure Timestamp where
  text : String
  valid : timestampShapeIsValid text.toList ∧ Calendar.exists? text.toList
  deriving DecidableEq

namespace Timestamp

theorem text_injective : Function.Injective text := by
  rintro ⟨first, _⟩ ⟨second, _⟩ rfl
  rfl

instance : LinearOrder Timestamp := LinearOrder.lift' text text_injective

def ofText (text : String) : Option Timestamp :=
  if valid : timestampShapeIsValid text.toList ∧ Calendar.exists? text.toList then
    some ⟨text, valid⟩
  else none

theorem ofText_text (time : Timestamp) : ofText time.text = some time := by
  rw [ofText, dif_pos time.valid]

theorem text_of_ofText {body : String} {time : Timestamp} (read : ofText body = some time) :
    time.text = body := by
  rw [ofText] at read
  split_ifs at read with valid
  obtain rfl := Option.some.inj read
  rfl

def codec : Codec Timestamp := .text text ofText ofText_text text_of_ofText

end Timestamp

end Reproit
