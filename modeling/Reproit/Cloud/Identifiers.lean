/-
# Identifiers of the cloud API

The identifiers of release jobs are read like those of documents, by a parser of UUIDs.
The identifiers of project tokens are checked character by character.  The published
pattern and the check by position ask for one of four digits behind the third hyphen, the
readers with a parser do not: this is the one difference between them.
-/

import Reproit.Core.Base64Url
import Reproit.Core.UuidText

namespace Reproit

/-! ## Readers -/

/-- The identifier of a release job. -/
abbrev ReleaseJobId := UuidV7

def ReleaseJobId.fromStr (parse : List Char → Option (Fin (2 ^ 128))) (value : String) :
    Result ReleaseJobId := uuidFromStr parse "rev_" value

/-- What is allowed at a position of a UUID. -/
def uuidByteIsValid (index : Nat) (c : Char) : Bool :=
  match index with
  | 8 | 13 | 18 | 23 => c = '-'
  | 14 => c = '7'
  | 19 => c = '8' || c = '9' || c = 'a' || c = 'b'
  | _ => c.isDigit || ('a' ≤ c && c ≤ 'f')

def validateUuidV7 (value : String) : Bool :=
  value.utf8ByteSize = 36 &&
    value.toList.zipIdx.all fun (c, index) => uuidByteIsValid index c

def validateProjectTokenId (value : String) : Result Unit := do
  let uuid ← okOr (stripStart value "ptk_") .schemaInvalid
  rejectIf (¬ validateUuidV7 uuid) .schemaInvalid

def validateProjectTokenPlaintext (value : String) : Result Unit := do
  let remainder ← okOr (stripStart value "rpit_ptk_") .schemaInvalid
  let (uuid, secret) ← okOr (splitOnce '_' remainder.toList) .schemaInvalid
  let secret := String.ofList secret
  rejectIf (¬ validateUuidV7 (String.ofList uuid) ∨ secret.utf8ByteSize ≠ 43 ∨
    (decodeBase64Url 32 secret).isOk = false) .schemaInvalid

/-- The identifier of a project token, kept as its text. -/
structure ProjectTokenId where
  text : String
  valid : validateProjectTokenId text = .ok ()
  deriving DecidableEq

def ProjectTokenId.new (value : String) : Result ProjectTokenId :=
  match valid : validateProjectTokenId value with
  | .ok () => .ok ⟨value, valid⟩
  | .error error => .error error

/-- A project token with its secret. -/
structure ProjectTokenPlaintext where
  text : String
  valid : validateProjectTokenPlaintext text = .ok ()

namespace ProjectTokenPlaintext

def new (value : String) : Result ProjectTokenPlaintext :=
  match valid : validateProjectTokenPlaintext value with
  | .ok () => .ok ⟨value, valid⟩
  | .error error => .error error

/-- The bytes from 5 to 45, if they are characters of the text. -/
def tokenId (token : ProjectTokenPlaintext) : Option String :=
  (byteSlice 5 45 token.text.toList).map String.ofList

end ProjectTokenPlaintext

/-! ## The check by position -/

/-- The digits that a published pattern allows behind the third hyphen. -/
def isVariantDigit (c : Char) : Bool := c = '8' || c = '9' || c = 'a' || c = 'b'

theorem isLowerHex_of_isVariantDigit (c : Char) (valid : isVariantDigit c = true) :
    isLowerHex c = true := by
  simp only [isVariantDigit, Bool.or_eq_true, decide_eq_true_eq] at valid
  rcases valid with ((rfl | rfl) | rfl) | rfl <;> rfl

/-- The positions of the pattern. -/
theorem uuidPattern_eq : uuidPattern isVariantDigit = (List.range 36).map uuidByteIsValid := rfl

/-- What is allowed anywhere is a digit or a hyphen. -/
theorem isLowerHex_or_of_uuidByteIsValid {index : Nat} {c : Char}
    (valid : uuidByteIsValid index c = true) : isLowerHex c = true ∨ c = '-' := by
  unfold uuidByteIsValid at valid
  split at valid
  case h_5 =>
    rw [of_decide_eq_true valid]
    exact .inl rfl
  case h_6 => exact .inl (isLowerHex_of_isVariantDigit c valid)
  case h_7 => exact .inl valid
  all_goals exact .inr (of_decide_eq_true valid)

theorem toNat_lt_of_uuidByteIsValid {index : Nat} {c : Char}
    (valid : uuidByteIsValid index c = true) : c.toNat < 128 := by
  rcases isLowerHex_or_of_uuidByteIsValid valid with digit | rfl
  · rw [isLowerHex_eq, Option.isSome_iff_exists] at digit
    obtain ⟨value, valued⟩ := digit
    obtain ⟨small, rfl⟩ := Radix.digitChar_of_hexValue valued
    have ascii : ∀ value < 16, (Nat.digitChar value).toNat < 128 := by decide
    exact ascii value small
  · decide

theorem exists_uuidByteIsValid {text : List Char}
    (accepted : (uuidPattern isVariantDigit).accepts text = true) {c : Char} (member : c ∈ text) :
    ∃ index, uuidByteIsValid index c = true := by
  obtain ⟨holds, listed, valid⟩ := Pattern.of_mem_of_accepts accepted member
  rw [uuidPattern_eq] at listed
  obtain ⟨index, _, rfl⟩ := List.mem_map.mp listed
  exact ⟨index, valid⟩

/-- A text of the published pattern has thirty-six bytes. -/
theorem length_of_accepts_uuidPattern {text : List Char}
    (accepted : (uuidPattern isVariantDigit).accepts text = true) :
    (Json.textBytes text).length = 36 := by
  rw [Json.length_textBytes_of_ascii, Pattern.length_of_accepts accepted]
  · rfl
  · intro c member
    obtain ⟨index, valid⟩ := exists_uuidByteIsValid accepted member
    exact toNat_lt_of_uuidByteIsValid valid

/-- The check by position is the published pattern. -/
theorem validateUuidV7_iff (value : String) :
    validateUuidV7 value = true ↔ (uuidPattern isVariantDigit).accepts value.toList = true := by
  have bytes : value.utf8ByteSize = (Json.textBytes value.toList).length := by
    rw [← Json.utf8ByteSize_ofList, String.ofList_toList]
  rw [validateUuidV7, Bool.and_eq_true, decide_eq_true_eq, bytes]
  constructor
  · intro ⟨size, all⟩
    have each : ∀ (index : Nat) (c : Char), value.toList[index]? = some c →
        uuidByteIsValid index c = true := fun index c found =>
      List.all_eq_true.mp all (c, index) (List.mem_zipIdx_iff_getElem?.mpr found)
    have length : value.toList.length = 36 := by
      rw [← size, Json.length_textBytes_of_ascii]
      intro c member
      obtain ⟨index, found⟩ := List.mem_iff_getElem?.mp member
      exact toNat_lt_of_uuidByteIsValid (each index c found)
    rw [Pattern.accepts_iff_forall, uuidPattern_eq, List.length_map, List.length_range]
    refine ⟨length, fun index c found => ⟨uuidByteIsValid index, ?_, each index c found⟩⟩
    obtain ⟨small, _⟩ := List.getElem?_eq_some_iff.mp found
    rw [List.getElem?_map, List.getElem?_range (length ▸ small)]
    rfl
  · intro accepted
    refine ⟨length_of_accepts_uuidPattern accepted, List.all_eq_true.mpr ?_⟩
    intro (c, index) member
    have found := List.mem_zipIdx_iff_getElem?.mp member
    obtain ⟨holds, listed, valid⟩ :=
      ((Pattern.accepts_iff_forall _ _).mp accepted).2 index c found
    rw [uuidPattern_eq, List.getElem?_map, Option.map_eq_some_iff] at listed
    obtain ⟨place, here, rfl⟩ := listed
    obtain ⟨small, rfl⟩ := List.getElem?_eq_some_iff.mp here
    rw [List.getElem_range] at valid
    exact valid

/-! ## What the readers accept -/

/-- The types whose values are identifiers behind a tag. -/
inductive IdType
  | typed (kind : IdKind) | releaseJob | projectToken
  deriving DecidableEq

namespace IdType

def tag : IdType → String
  | typed kind => kind.tag
  | releaseJob => "rev_"
  | projectToken => "ptk_"

/-- The reader of a type accepts a text. -/
def read (parse : List Char → Option (Fin (2 ^ 128))) (value : String) : IdType → Result Unit
  | typed kind => do
      let _ : TypedId kind ← TypedId.fromStr parse value
      return
  | releaseJob => do
      let _ ← ReleaseJobId.fromStr parse value
      return
  | projectToken => do
      let _ ← ProjectTokenId.new value
      return

/-- The pattern that the schemas publish for a type. -/
def publishedPattern (type : IdType) : Pattern :=
  .word type.tag.toList ++ uuidPattern isVariantDigit

end IdType

/-- A lowercase hexadecimal digit that no published pattern allows as a variant. -/
def isUnlistedVariant (c : Char) : Bool := isLowerHex c && !isVariantDigit c

/-- A UUID of version 7 has either a digit of the published pattern or another one. -/
theorem accepts_isLowerHex_iff (tag : String) (text : List Char) :
    ((.word tag.toList ++ uuidPattern isLowerHex : Pattern).accepts text = true ↔
        (.word tag.toList ++ uuidPattern isVariantDigit : Pattern).accepts text = true) ↔
      ¬ (.word tag.toList ++ uuidPattern isUnlistedVariant : Pattern).accepts text = true := by
  have unlistedDigits : ∀ c, isUnlistedVariant c = true → isLowerHex c = true := fun c both =>
    ((Bool.and_eq_true _ _).mp both).1
  simp only [Pattern.accepts_append, Pattern.accepts_word, accepts_uuidPattern (fun _ => id),
    accepts_uuidPattern isLowerHex_of_isVariantDigit, accepts_uuidPattern unlistedDigits]
  constructor
  · rintro same ⟨_, _, spelled, rfl, number, small, version, unlisted, rfl⟩
    obtain ⟨digit, other⟩ := (Bool.and_eq_true _ _).mp unlisted
    obtain ⟨_, _, again, rfl, second, secondSmall, _, listed, rfl⟩ :=
      same.mp ⟨_, _, spelled, rfl, number, small, version, digit, rfl⟩
    have equal := List.append_cancel_left (spelled.symm.trans again)
    rw [Uuid.toText_injective small secondSmall equal, listed] at other
    cases other
  · intro listed
    constructor
    · rintro ⟨_, _, spelled, rfl, number, small, version, digit, rfl⟩
      refine ⟨_, _, spelled, rfl, number, small, version, ?_, rfl⟩
      by_contra other
      refine listed ⟨_, _, spelled, rfl, number, small, version, ?_, rfl⟩
      rw [isUnlistedVariant, digit, Bool.eq_false_of_not_eq_true other]
      rfl
    · rintro ⟨_, _, spelled, rfl, number, small, version, digit, rfl⟩
      exact ⟨_, _, spelled, rfl, number, small, version, isLowerHex_of_isVariantDigit _ digit,
        rfl⟩

theorem validateProjectTokenId_eq_ok (value : String) :
    validateProjectTokenId value = .ok () ↔
      ∃ uuid, value = "ptk_" ++ uuid ∧ validateUuidV7 uuid = true := by
  simp only [validateProjectTokenId, bind_eq_ok, okOr_eq_ok, stripStart_eq_some, rejectIf_eq_ok,
    not_not]

theorem ProjectTokenId.new_eq_ok {value : String} {id : ProjectTokenId} :
    ProjectTokenId.new value = .ok id ↔ value = id.text := by
  rw [new]
  constructor
  · intro ran
    split at ran
    · obtain rfl := Except.ok.inj ran
      rfl
    · cases ran
  · rintro rfl
    split
    · rfl
    case h_2 error failed =>
      rw [id.valid] at failed
      cases failed

/-- The readers with a parser accept any variant. -/
theorem IdType.read_eq_ok {parse : List Char → Option (Fin (2 ^ 128))}
    (parses : ParsesHyphenated parse) (type : IdType) (value : String) :
    type.read parse value = .ok () ↔
      (.word type.tag.toList ++ uuidPattern
        (if type = .projectToken then isVariantDigit else isLowerHex) :
          Pattern).accepts value.toList = true := by
  cases type with
  | typed kind =>
      rw [if_neg (by simp), IdType.tag, ← TypedId.exists_toText_iff]
      simp only [read, bind_eq_ok, pure_eq_ok, TypedId.fromStr_eq_ok parses, and_true]
  | releaseJob =>
      rw [if_neg (by simp), IdType.tag, ← UuidV7.exists_toText_iff]
      simp only [read, bind_eq_ok, pure_eq_ok, ReleaseJobId.fromStr, uuidFromStr_eq_ok parses,
        and_true]
  | projectToken =>
      rw [if_pos rfl, Pattern.accepts_append]
      simp only [read, bind_eq_ok, pure_eq_ok, and_true, ProjectTokenId.new_eq_ok,
        Pattern.accepts_word]
      constructor
      · rintro ⟨⟨_, valid⟩, rfl⟩
        obtain ⟨uuid, rfl, checked⟩ := (validateProjectTokenId_eq_ok _).mp valid
        exact ⟨_, _, String.toList_append, rfl, (validateUuidV7_iff uuid).mp checked⟩
      · rintro ⟨_, uuid, spelled, rfl, accepted⟩
        refine ⟨⟨value, (validateProjectTokenId_eq_ok value).mpr ⟨String.ofList uuid, ?_, ?_⟩⟩, rfl⟩
        · apply String.toList_injective
          rw [spelled, String.toList_append]
          exact congrArg _ String.toList_ofList.symm
        · rw [validateUuidV7_iff, String.toList_ofList]
          exact accepted

/-! ## Tokens with their secret -/

theorem length_of_validateUuidV7 {uuid : String} (valid : validateUuidV7 uuid = true) :
    (Json.textBytes uuid.toList).length = 36 :=
  length_of_accepts_uuidPattern ((validateUuidV7_iff uuid).mp valid)

theorem not_mem_of_validateUuidV7 {uuid : String} (valid : validateUuidV7 uuid = true) :
    '_' ∉ uuid.toList := by
  intro member
  obtain ⟨index, allowed⟩ := exists_uuidByteIsValid ((validateUuidV7_iff uuid).mp valid) member
  exact absurd (isLowerHex_or_of_uuidByteIsValid allowed) (by decide)

/-- A token is its identifier and its secret of thirty-two bytes. -/
theorem validateProjectTokenPlaintext_eq_ok (value : String) :
    validateProjectTokenPlaintext value = .ok () ↔
      ∃ (id : ProjectTokenId) (secret : Vector UInt8 32),
        value = "rpit_" ++ id.text ++ "_" ++ encodeBase64Url secret.toList := by
  simp only [validateProjectTokenPlaintext, bind_eq_ok, okOr_eq_ok, stripStart_eq_some,
    splitOnce_eq_some, rejectIf_eq_ok, not_or, not_not, Prod.exists]
  constructor
  · rintro ⟨remainder, rfl, uuid, secret, ⟨cut, _⟩, checked, _, decoded⟩
    cases read : decodeBase64Url 32 (String.ofList secret) with
    | error _ =>
        rw [read] at decoded
        exact absurd rfl decoded
    | ok bytes =>
        refine ⟨⟨"ptk_" ++ String.ofList uuid, ?_⟩, bytes, ?_⟩
        · exact (validateProjectTokenId_eq_ok _).mpr ⟨_, rfl, checked⟩
        · rw [← decodeBase64Url_eq_ok.mp read]
          apply String.toList_injective
          simp only [String.toList_append, String.toList_ofList, cut, List.append_assoc]
          rfl
  · rintro ⟨⟨text, valid⟩, secret, rfl⟩
    obtain ⟨uuid, rfl, checked⟩ := (validateProjectTokenId_eq_ok text).mp valid
    refine ⟨uuid ++ "_" ++ encodeBase64Url secret.toList, ?_, uuid.toList,
      (encodeBase64Url secret.toList).toList, ⟨?_, not_mem_of_validateUuidV7 checked⟩, ?_, ?_, ?_⟩
    · apply String.toList_injective
      simp only [String.toList_append, List.append_assoc]
      rfl
    · simp only [String.toList_append, List.append_assoc]
      rfl
    · rw [String.ofList_toList]
      exact checked
    · rw [String.ofList_toList, utf8ByteSize_encodeBase64Url, Vector.length_toList]
    · rw [String.ofList_toList, decodeBase64Url_eq_ok.mpr rfl]
      exact Bool.noConfusion

/-- The fixed slice of a token is its identifier. -/
theorem ProjectTokenPlaintext.tokenId_eq (token : ProjectTokenPlaintext) {id : ProjectTokenId}
    {secret : Vector UInt8 32}
    (spelled : token.text = "rpit_" ++ id.text ++ "_" ++ encodeBase64Url secret.toList) :
    token.tokenId = some id.text := by
  obtain ⟨text, valid⟩ := id
  obtain ⟨uuid, rfl, checked⟩ := (validateProjectTokenId_eq_ok text).mp valid
  have length := length_of_validateUuidV7 checked
  have head : (Json.textBytes "rpit_".toList).length = 5 := by decide
  have tag : (Json.textBytes "ptk_".toList).length = 4 := by decide
  have behind : (Json.textBytes ("rpit_".toList ++ ("ptk_" ++ uuid).toList)).length = 45 := by
    simp only [String.toList_append, Json.length_textBytes_append, length, head, tag]
  have whole : token.text.toList = "rpit_".toList ++ ("ptk_" ++ uuid).toList ++
      '_' :: (encodeBase64Url secret.toList).toList := by
    rw [spelled]
    simp only [String.toList_append, List.append_assoc]
    rfl
  rw [tokenId, whole, byteSlice_append head behind, Option.map_some, String.ofList_toList]

theorem ProjectTokenPlaintext.exists_new_iff (value : String) :
    (∃ token, ProjectTokenPlaintext.new value = .ok token) ↔
      validateProjectTokenPlaintext value = .ok () := by
  constructor
  · rintro ⟨token, ran⟩
    rw [new] at ran
    split at ran
    case h_1 valid => exact valid
    case h_2 => cases ran
  · intro valid
    refine ⟨⟨value, valid⟩, ?_⟩
    rw [new]
    split
    · rfl
    case h_2 failed =>
      rw [valid] at failed
      cases failed

/-- The readers accept the published pattern, but for the variants that a parser reads and
the pattern does not list.  A token is cut into its identifier and its secret. -/
theorem idReaders_published_iff {parse : List Char → Option (Fin (2 ^ 128))}
    (parses : ParsesHyphenated parse) :
    (∀ (type : IdType) (value : String),
      (type.read parse value = .ok () ↔ type.publishedPattern.accepts value.toList = true) ↔
        (type = .projectToken ∨
          ¬ (.word type.tag.toList ++ uuidPattern isUnlistedVariant :
            Pattern).accepts value.toList = true)) ∧
    (∀ value : String,
      ((∃ id, uuidFromStr parse "" value = .ok id) ↔ validateUuidV7 value = true) ↔
        ¬ (uuidPattern isUnlistedVariant).accepts value.toList = true) ∧
    (∀ value : String, (∃ token, ProjectTokenPlaintext.new value = .ok token) ↔
      ∃ (id : ProjectTokenId) (secret : Vector UInt8 32),
        value = "rpit_" ++ id.text ++ "_" ++ encodeBase64Url secret.toList) ∧
    ∀ (token : ProjectTokenPlaintext) (id : ProjectTokenId) (secret : Vector UInt8 32),
      token.text = "rpit_" ++ id.text ++ "_" ++ encodeBase64Url secret.toList →
        token.tokenId = some id.text := by
  refine ⟨?_, ?_, ?_, fun token id secret => token.tokenId_eq⟩
  · intro type value
    rw [IdType.read_eq_ok parses, IdType.publishedPattern]
    by_cases checked : type = .projectToken
    · rw [if_pos checked]
      exact iff_of_true Iff.rfl (.inl checked)
    · rw [if_neg checked, accepts_isLowerHex_iff, or_iff_right checked]
  · intro value
    rw [validateUuidV7_iff]
    simp only [uuidFromStr_eq_ok parses, UuidV7.exists_toText_iff]
    exact accepts_isLowerHex_iff "" value.toList
  · intro value
    rw [ProjectTokenPlaintext.exists_new_iff, validateProjectTokenPlaintext_eq_ok]

set_option maxRecDepth 2000 in
/-- A release job whose variant is not listed is read, against its pattern. -/
theorem idReaders_published_iff_job :
    (IdType.releaseJob.read Uuid.parseDigits "rev_00000000-0000-7000-0000-000000000000" = .ok () ↔
      IdType.releaseJob.publishedPattern.accepts
        "rev_00000000-0000-7000-0000-000000000000".toList = true) ↔ False := by
  rw [(idReaders_published_iff Uuid.parsesHyphenated_parseDigits).1]
  decide

set_option maxRecDepth 2000 in
/-- A capture whose variant is not listed is read. -/
theorem idReaders_published_capture :
    ¬ ∀ parse : List Char → Option (Fin (2 ^ 128)), ParsesHyphenated parse →
      ∀ (type : IdType) (value : String),
        type.read parse value = .ok () ↔ type.publishedPattern.accepts value.toList = true := by
  intro agree
  have same := agree _ Uuid.parsesHyphenated_parseDigits (.typed .capture)
    "cap_00000000-0000-7000-0000-000000000000"
  rw [IdType.read_eq_ok Uuid.parsesHyphenated_parseDigits] at same
  exact absurd same (by decide)

end Reproit
