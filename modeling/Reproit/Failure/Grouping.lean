/-
# The grouping of failures

A valid identity has one grouping, and the fingerprint of the grouping tells identities
apart.  A reference repeats the category and the matcher of the identity it points at, but
the validators tie it to the identity by its digest only.
-/

import Reproit.Backend.SamplePrimitives
import Reproit.Core.CandidateShape
import Reproit.Core.Crypto

namespace Reproit

namespace FailureIdentity

/-- The category that an identity states itself. -/
def category : FailureIdentity → FailureCategory
  | .exception identity => .ofException identity.category
  | .contract identity => .ofContract identity.category

/-- The matcher of the shape of an identity. -/
def matcher : FailureIdentity → FailureMatcher
  | .exception _ => .exceptionExactV1
  | .contract _ => .contractDigestV1

theorem matches'_iff {expected observed : FailureIdentity} :
    expected.matches' observed = true ↔ expected = observed := decide_eq_true_iff

/-- The table of matchers allows one matcher for the category of an identity. -/
theorem matcherMatches_category (identity : FailureIdentity) (matcher : FailureMatcher) :
    FailureReference.matcherMatches identity.category matcher = true ↔
      matcher = identity.matcher := by
  cases identity with
  | exception identity =>
      rw [category, FailureIdentity.matcher]
      cases identity.category <;> cases matcher <;> decide
  | contract identity =>
      rw [category, FailureIdentity.matcher]
      cases identity.category <;> cases matcher <;> decide

variable [Primitives]

theorem grouping_of_valid {identity : FailureIdentity} (valid : identity.validate = .ok ()) :
    identity.grouping = .ok {
      category := identity.category
      format := .v1
      identityDigest := Digest.of (Canonical.text identity)
      matcher := identity.matcher } := by
  cases identity with
  | exception identity =>
      simp only [grouping, valid, ok_bind, Canonical.digest_of_exact (exact _)]
      rfl
  | contract identity =>
      simp only [grouping, valid, ok_bind, Canonical.digest_of_exact (exact _)]
      rfl

end FailureIdentity

/-! ## References and identities -/

section

variable [Primitives]

/-- A reference states the category and the matcher of the identity's grouping. -/
def FailureReference.Describes (reference : FailureReference) (identity : FailureIdentity) :
    Prop :=
  ∃ grouping, identity.grouping = .ok grouping ∧ reference.category = grouping.category ∧
    reference.matcher = grouping.matcher

/-- The table leaves the category as the one free choice of a valid reference. -/
theorem FailureReference.describes_iff {reference : FailureReference} {identity : FailureIdentity}
    (valid : reference.validate = .ok ()) (identityValid : identity.validate = .ok ()) :
    reference.Describes identity ↔ reference.category = identity.category := by
  have table := valid
  simp only [FailureReference.validate, rejectIf_eq_ok, not_or, not_not] at table
  rw [Describes, FailureIdentity.grouping_of_valid identityValid]
  constructor
  · intro ⟨grouping, held, sameCategory, _⟩
    obtain rfl := Except.ok.inj held
    exact sameCategory
  · intro same
    have matcher := table.2
    rw [same, identity.matcherMatches_category] at matcher
    exact ⟨_, rfl, same, matcher⟩

/-- The failure record of a valid candidate holds a valid payload with the reference of
the candidate. -/
theorem Candidate.Valid.failure_record {candidate : Candidate} (valid : candidate.Valid)
    {record : EventRecord} (member : record ∈ candidate.records) (kind : record.kind = .failure) :
    ∃ payload, recordPayload FailurePayload record = .ok payload ∧
      payload.failure = candidate.failure ∧ payload.identity.validate = .ok () := by
  obtain ⟨bytes, -, written, checked⟩ := valid.payload_of_kind member kind
  simp only [Candidate.validateRecord, bind_eq_ok, rejectIf_eq_ok, not_not] at checked
  obtain ⟨payload, read, _, identity, _, _, _, same, _⟩ := checked
  refine ⟨payload, ?_, same, identity⟩
  rw [recordPayload, written]
  exact read

/-- What the validators leave open: a valid reference describes the identity it points at
exactly when its category is the identity's own. -/
theorem FailureReference.describes_iff_category :
    (∀ payload : FailurePayload, payload.validate = .ok () →
      (payload.failure.Describes payload.identity ↔
        payload.failure.category = payload.identity.category)) ∧
    ∀ candidate : Candidate, candidate.validate = .ok () →
      ∀ record ∈ candidate.records, record.kind = .failure →
        ∃ payload, recordPayload FailurePayload record = .ok payload ∧
          (candidate.failure.Describes payload.identity ↔
            candidate.failure.category = payload.identity.category) := by
  constructor
  · intro payload valid
    simp only [FailurePayload.validate, bind_eq_ok, rejectIf_eq_ok] at valid
    obtain ⟨_, reference, _, identity, _⟩ := valid
    exact describes_iff reference identity
  · intro candidate valid record member kind
    have shape := Candidate.validate_eq_ok.mp valid
    obtain ⟨payload, read, -, identity⟩ := shape.failure_record member kind
    exact ⟨payload, read, describes_iff shape.reference identity⟩

end

/-- The payload of a broken contract whose reference calls it a panic. -/
def Backend.Sample.miscalledFailure [Primitives] : FailurePayload :=
  { failure with failure := { reference with category := .panic, matcher := .exceptionExactV1 } }

theorem Backend.Sample.validate_miscalledFailure [Primitives] :
    miscalledFailure.validate = .ok () := by
  simp only [FailurePayload.validate, bind_eq_ok, rejectIf_eq_ok, not_not]
  exact ⟨(), rfl, (), validate_identity, _, Canonical.digest_of_exact identity.exact, rfl⟩

/-- The payload is valid, and its reference does not describe the identity. -/
theorem FailureReference.miscalled :
    letI := Backend.Sample.primitives
    Backend.Sample.miscalledFailure.validate = .ok () ∧
      ¬ Backend.Sample.miscalledFailure.failure.Describes
        Backend.Sample.miscalledFailure.identity := by
  let _ := Backend.Sample.primitives
  apply And.intro Backend.Sample.validate_miscalledFailure
  have describes : Backend.Sample.miscalledFailure.failure.Describes Backend.Sample.identity ↔ _ :=
    FailureReference.describes_iff rfl Backend.Sample.validate_identity
  exact fun described => nomatch describes.mp described

/-! ## Fingerprints -/

/-- No document is read as an exception category and as a contract category. -/
theorem ContractCategory.decode_of_exception {document : Json.Value} {category : ExceptionCategory}
    (read : ExceptionCategory.codec.decode document = some category) :
    ContractCategory.codec.decode document = none := by
  have named : ∀ body : String,
      [ExceptionCategory.exception, .panic, .visibleError].find?
          (fun variant => ExceptionCategory.name variant = body) = some category →
        [ContractCategory.explicit, .postcondition, .responseContract].find?
          (fun variant => ContractCategory.name variant = body) = none := by
    intro body found
    obtain rfl : ExceptionCategory.name category = body := by simpa using List.find?_some found
    cases category <;> decide
  cases document with
  | string body => exact named body read
  | object members =>
      match members, read with
      | [(body, .null)], read => exact named body read
  | _ => cases read

/-- The document of the first field of a record. -/
def firstPart (name : String) : Json.Value → Option Json.Value
  | .object members => members.lookup name
  | .array items => items.head?
  | _ => none

/-- A record with a required first field reads the field from the document. -/
theorem Codec.firstPart_of_decode {α β γ : Type} {name : String} {codec : Codec α}
    {rest : Fields β} {view : γ → α × β} {build : α × β → γ} {build_view} {wellNamed} {view_build}
    {document : Json.Value} {value : γ}
    (read : (Codec.record (.required name codec rest) view build build_view wellNamed
      view_build).decode document = some value) :
    ∃ part held, firstPart name document = some part ∧ codec.decode part = some held := by
  cases document with
  | object members =>
      simp only [Codec.record] at read
      split_ifs at read
      obtain ⟨parts, fields, -⟩ := Option.map_eq_some_iff.mp read
      rw [Fields.required, Fields.decodeMap, Option.bind_eq_some_iff] at fields
      obtain ⟨held, found, -⟩ := fields
      cases present : members.lookup name with
      | none => simp [present] at found
      | some part => exact ⟨part, held, present, by simpa [present] using found⟩
  | array items =>
      obtain ⟨parts, fields, -⟩ := Option.map_eq_some_iff.mp read
      cases items with
      | nil => simp [Fields.required, Fields.decodeSeq] at fields
      | cons part items =>
          rw [Fields.required, Fields.decodeSeq, Option.bind_eq_some_iff] at fields
          obtain ⟨held, found, -⟩ := fields
          exact ⟨part, held, rfl, found⟩
  | _ => cases read

namespace FailureIdentity

/-- A document is an exception identity or a contract identity, never both. -/
theorem decode_exclusive (document : Json.Value) :
    ExceptionFailureIdentity.codec.decode document = none ∨
      ContractFailureIdentity.codec.decode document = none := by
  cases exception : ExceptionFailureIdentity.codec.decode document with
  | none => exact .inl rfl
  | some first =>
      right
      cases contract : ContractFailureIdentity.codec.decode document with
      | none => rfl
      | some second =>
          obtain ⟨part, category, found, read⟩ := Codec.firstPart_of_decode exception
          obtain ⟨other, kind, here, listed⟩ := Codec.firstPart_of_decode contract
          obtain rfl := Option.some.inj (found.symm.trans here)
          rw [ContractCategory.decode_of_exception read] at listed
          cases listed

variable [Primitives]

/-- The fingerprint of a valid identity is the keyed hash of its grouping. -/
theorem fingerprint_of_valid (groupingKey : SecretKey) {identity : FailureIdentity}
    {grouping : FailureGrouping} (grouped : identity.grouping = .ok grouping) :
    (identity.grouping >>= failureFingerprint groupingKey) =
      .ok (String.ofList (fingerprintTag ++ Radix.hexText 64
        (Primitives.hmacSha256 groupingKey (Canonical.text grouping)).number)) := by
  rw [grouped, ok_bind, failureFingerprint, Canonical.bytes_of_exact grouping.exact, ok_bind]
  rfl

omit [Primitives] in
theorem fingerprintText_injective {first second : Digest}
    (same : String.ofList (fingerprintTag ++ Radix.hexText 64 first.number) =
      String.ofList (fingerprintTag ++ Radix.hexText 64 second.number)) : first = second := by
  have digits := List.append_cancel_left (String.ofList_injective same)
  apply Digest.toText_injective
  rw [Digest.toText, Digest.toText, digits]

/-- Two valid identities have one fingerprint exactly when they are equal, and the canonical
bytes of a valid identity are read back as the identity. The hashes must not collide on the
documents of the two identities. -/
theorem fingerprint_exact (groupingKey : SecretKey) {first second : FailureIdentity}
    (firstValid : first.validate = .ok ()) (secondValid : second.validate = .ok ())
    (digests : Digest.of (Canonical.text first) = Digest.of (Canonical.text second) →
      Canonical.text first = Canonical.text second)
    (macs : ∀ one other, first.grouping = .ok one → second.grouping = .ok other →
      Primitives.hmacSha256 groupingKey (Canonical.text one) =
        Primitives.hmacSha256 groupingKey (Canonical.text other) →
      Canonical.text one = Canonical.text other) :
    (∃ fingerprint, (first.grouping >>= failureFingerprint groupingKey) = .ok fingerprint) ∧
    ((first.grouping >>= failureFingerprint groupingKey) =
        (second.grouping >>= failureFingerprint groupingKey) ↔ first.matches' second = true) ∧
    (first.matches' second = true ↔ first = second) ∧
    (∃ bytes, Canonical.bytes first = .ok bytes ∧
      Canonical.parseStrict FailureIdentity bytes = .ok first) ∧
    ∀ document, ExceptionFailureIdentity.codec.decode document = none ∨
      ContractFailureIdentity.codec.decode document = none := by
  have one := grouping_of_valid firstValid
  have other := grouping_of_valid secondValid
  have written := Canonical.bytes_of_exact first.exact
  refine ⟨⟨_, fingerprint_of_valid groupingKey one⟩, ?_, matches'_iff,
    ⟨_, written, Canonical.parseStrict_bytes written⟩, decode_exclusive⟩
  rw [matches'_iff]
  constructor
  · intro same
    rw [fingerprint_of_valid groupingKey one, fingerprint_of_valid groupingKey other] at same
    have hashes := fingerprintText_injective (Except.ok.inj same)
    have documents := macs _ _ one other hashes
    have groupings := Canonical.bytes_injective
      (Canonical.bytes_of_exact (FailureGrouping.exact _))
      ((Canonical.bytes_of_exact (FailureGrouping.exact _)).trans (congrArg _ documents.symm))
    have identities := digests (congrArg FailureGrouping.identityDigest groupings)
    exact Canonical.bytes_injective written
      ((Canonical.bytes_of_exact second.exact).trans (congrArg _ identities.symm))
  · intro same
    rw [same]

end FailureIdentity

/-! ## Two small identities -/

namespace Backend.Sample

/-- The identity of an exception. -/
def exceptionIdentity : FailureIdentity :=
  .exception {
    category := .exception
    causeTypes := []
    frames := []
    operationKind := .requestResponse
    operationName := "run"
    runtimeFamily := "rust"
    schema := "reproit.failure.v1"
    stableCode := some "code"
    typeName := "Overflow" }

/-- The functions of the small captures with a keyed hash that tells documents apart. -/
@[reducible] def markedMac : Primitives :=
  { marked with hmacSha256 := fun _ message => marked.sha256 message }

theorem integers_identity : ∀ identity : FailureIdentity, integers (Document.encode identity) = 0
  | .exception identity => by
      change integers (.object (sortMembers _)) = 0
      rw [integers_object]
      cases code : identity.stableCode <;>
        simp [integers, Fields.encode, Fields.required, Fields.optional, ExceptionCategory.codec,
          Codec.list, Codec.text, Codec.enumeration, Codec.string, OperationKind.codec,
          Codec.option, code]
  | .contract identity => by
      change integers (.object (sortMembers _)) = 0
      rw [integers_object]
      simp [integers, Fields.encode, Fields.required, ContractCategory.codec, Digest.codec,
        Codec.text, Codec.enumeration, Codec.string, OperationKind.codec]

theorem integers_grouping (grouping : FailureGrouping) :
    integers (Document.encode grouping) = 0 := by
  change integers (.object (sortMembers _)) = 0
  rw [integers_object]
  simp [integers, Fields.encode, Fields.required, FailureCategory.codec, FailureMatcher.codec,
    Digest.codec, Codec.text, Codec.enumeration, Format.codec]

theorem shape_identity :
    shape (Canonical.text exceptionIdentity) % 2 ^ 160 ≠
      shape (Canonical.text identity) % 2 ^ 160 := by
  have first : Json.size (Document.encode exceptionIdentity) = 205 := by
    show FailureIdentity.codec.size exceptionIdentity = 205
    simp only [FailureIdentity.codec, exceptionIdentity, ExceptionFailureIdentity.codec,
      ExceptionCategory.codec, OperationKind.codec, Codec.size_imap, Codec.size_untagged_inl,
      Codec.size_record, Fields.size_required, Fields.size_optional, Fields.size_done,
      Codec.size_enumeration, Codec.size_list, Codec.size_string, Codec.size_option_some,
      List.map_nil, List.sum_nil]
    decide
  have second : Json.size (Document.encode identity) = 365 := by
    show FailureIdentity.codec.size identity = 365
    simp only [FailureIdentity.codec, identity, ContractFailureIdentity.codec,
      ContractCategory.codec, OperationKind.codec, Digest.codec, Codec.size_imap,
      Codec.size_untagged_inr, Codec.size_record, Fields.size_required, Fields.size_done,
      Codec.size_enumeration, Codec.size_text, Codec.size_string, Digest.stringSize_toText]
    decide
  rw [shape_text (FailureIdentity.exact _), shape_text (FailureIdentity.exact _),
    integers_identity, integers_identity, first, second]
  decide

theorem shape_grouping {one other : FailureGrouping}
    (exception : one.category = .exception ∧ one.matcher = .exceptionExactV1)
    (contract : other.category = .explicit ∧ other.matcher = .contractDigestV1) :
    shape (Canonical.text one) % 2 ^ 160 ≠ shape (Canonical.text other) % 2 ^ 160 := by
  have size : ∀ grouping : FailureGrouping, Json.size (Document.encode grouping) =
      155 + Json.stringSize grouping.category.fixedLabel +
        Json.stringSize grouping.matcher.name := by
    intro grouping
    show FailureGrouping.codec.size grouping = _
    have names : Json.stringSize "category" = 10 ∧ Json.stringSize "format" = 8 ∧
        Json.stringSize "identity_digest" = 17 ∧ Json.stringSize "matcher" = 9 ∧
        (Format.codec "reproit.failure-grouping.v1").size grouping.format = 29 := by
      cases grouping.format
      decide
    simp only [FailureGrouping.codec, FailureCategory.codec, FailureMatcher.codec, Digest.codec,
      Codec.size_record, Fields.size_required, Fields.size_done, Codec.size_enumeration,
      Codec.size_text, Digest.stringSize_toText]
    omega
  rw [shape_text one.exact, shape_text other.exact, integers_grouping, integers_grouping, size,
    size, exception.1, exception.2, contract.1, contract.2]
  decide

end Backend.Sample

theorem FailureIdentity.fingerprint_exact_sample :
    letI := Backend.Sample.markedMac
    ((Backend.Sample.exceptionIdentity.grouping >>= failureFingerprint (Vector.replicate 32 0)) =
        (Backend.Sample.identity.grouping >>= failureFingerprint (Vector.replicate 32 0)) ↔
      Backend.Sample.exceptionIdentity.matches' Backend.Sample.identity = true) := by
  let _ := Backend.Sample.markedMac
  have first : Backend.Sample.exceptionIdentity.validate = .ok () := rfl
  have second := Backend.Sample.validate_identity
  refine (FailureIdentity.fingerprint_exact (Vector.replicate 32 0) first second ?_ ?_).2.1
  · intro same
    exact absurd same (Backend.Sample.digest_ne_of_shape Backend.Sample.shape_identity)
  · intro one other grouped found same
    obtain rfl := Except.ok.inj ((FailureIdentity.grouping_of_valid first).symm.trans grouped)
    obtain rfl := Except.ok.inj ((FailureIdentity.grouping_of_valid second).symm.trans found)
    exact absurd same
      (Backend.Sample.digest_ne_of_shape (Backend.Sample.shape_grouping ⟨rfl, rfl⟩ ⟨rfl, rfl⟩))

end Reproit
