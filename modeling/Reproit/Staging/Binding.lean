/-
# Candidate staging

Staging a valid candidate round-trips and binds the envelope to the candidate: the two size
limits meet, the identity of every opened envelope is derived again from its candidate, and
an identity that was changed after sealing does not open.
-/

import Reproit.Backend.SamplePrimitives
import Reproit.Core.Staging

namespace Reproit

open CandidateStagingIdentity

variable [Primitives]

/-- Staging round-trips and binds: a sealed candidate opens as itself and under no other
identity, the two size limits agree, and every envelope that opens carries the identity of
the candidate it returns. -/
theorem candidate_staging (correct : AeadCorrect) (total : AeadTotal) (key : SecretKey) :
    (∀ (nonce : Nonce) (candidate : Candidate) (expiresAt : Timestamp)
      (identity : CandidateStagingIdentity), candidate.validate = .ok () →
      forCandidate candidate expiresAt = .ok identity →
      (∀ envelope, sealCandidateStaging key nonce candidate identity = .ok envelope →
        envelope.validate = .ok () ∧ openCandidateStaging key envelope = .ok candidate ∧
        ∀ other, other ≠ identity →
          (∀ plaintext associatedData changedData, Canonical.bytes candidate = .ok plaintext →
            Canonical.bytes identity = .ok associatedData →
            Canonical.bytes other = .ok changedData →
            Authentic key nonce plaintext associatedData changedData) →
          openCandidateStaging key { envelope with identity := other } = .error decryptionError) ∧
      ∀ plaintext, Canonical.bytes candidate = .ok plaintext →
        (plaintext.length ≤ maxCandidateBytes →
          ∃ envelope, sealCandidateStaging key nonce candidate identity = .ok envelope ∧
            envelope.cipherSize.toNat = plaintext.length + 28) ∧
        (maxCandidateBytes < plaintext.length →
          sealCandidateStaging key nonce candidate identity = .error stagingLimit)) ∧
    maxStagedCandidateBytes = maxCandidateBytes + 28 ∧
    ∀ (envelope : CandidateStagingEnvelope) (candidate : Candidate),
      openCandidateStaging key envelope = .ok candidate →
        forCandidate candidate envelope.identity.expiresAt = .ok envelope.identity := by
  refine ⟨?_, rfl, fun envelope candidate opened => forCandidate_of_open opened⟩
  intro nonce candidate expiresAt identity _ derived
  have expires := (valid_of_forCandidate derived).2
  rw [← expires] at derived
  constructor
  · intro envelope sealed
    obtain ⟨valid, opened⟩ := openCandidateStaging_of_seal correct sealed
    exact ⟨valid, opened, fun other changed authentic =>
      openCandidateStaging_of_changed correct sealed changed authentic⟩
  · intro plaintext written
    exact sealCandidateStaging_of_size correct total key nonce derived written

/-! ## A staged candidate -/

namespace StagingSample

open Backend

def key : SecretKey := Vector.replicate 32 0

def nonce : Nonce := Vector.replicate 12 0

omit [Primitives] in
theorem aeadTotal : @AeadTotal Sample.primitives := by
  intro key nonce message aad _ _
  rfl

omit [Primitives] in
/-- A record is little longer than its document. -/
theorem size_record_le {α : Type} [Document α] (kind : EventKind) (sequence : UInt16) (value : α)
    {bound : Nat} (short : (Canonical.text value).length ≤ bound) :
    EventRecord.codec.size (Sample.record kind sequence value) ≤ 8 * bound + 1000 := by
  have digits : Codec.uint16.size sequence ≤ 5 :=
    Codec.size_unsigned_le _ (by decide) (by have := sequence.toNat_lt; omega)
  have payload := Json.stringSize_le (encodeBase64Url (Canonical.text value))
  have name : Json.stringSize kind.name ≤ 100 := by cases kind <;> decide
  have names : Json.stringSize "kind" + Json.stringSize "payload" + Json.stringSize "sequence" ≤
      100 := by decide
  rw [utf8ByteSize_encodeBase64Url] at payload
  simp only [EventRecord.codec, EventKind.codec, Sample.record, Codec.size_record,
    Codec.size_string, Codec.size_enumeration, Fields.size_required, Fields.size_done]
  omega

theorem size_deployment : Deployment.codec.size Sample.deployment ≤ 100000 := by
  simp only [Deployment.codec, Subject.codec, Digest.codec, Sample.deployment, Sample.subject,
    Codec.size_record, Codec.size_list, Codec.size_text, Fields.size_required, Fields.size_done,
    Digest.stringSize_toText]
  decide

theorem length_text_failure : (Canonical.text Sample.failure).length ≤ 5000 := by
  rw [Canonical.length_text]
  show FailurePayload.codec.size Sample.failure ≤ 5000
  have identity : FailureIdentity.codec.size Sample.identity ≤ 1000 := Sample.size_contract _ _
  have reference : FailureReference.codec.size Sample.reference ≤ 1000 := Sample.size_reference _
  have names : Json.stringSize "failure" = 9 ∧ Json.stringSize "format" = 8 ∧
      Json.stringSize "identity" = 10 ∧
      (Format.codec "reproit.failure-payload.v1").size .v1 ≤ 100 := by decide
  simp only [FailurePayload.codec, Sample.failure, Codec.size_record, Fields.size_required,
    Fields.size_done]
  omega

omit [Primitives] in
theorem length_text_begin : (Canonical.text Sample.beginPayload).length ≤ 1000 := by
  rw [Canonical.length_text]
  decide

omit [Primitives] in
theorem length_text_terminal : (Canonical.text Sample.terminalPayload).length ≤ 1000 := by
  rw [Canonical.length_text]
  decide

omit [Primitives] in
/-- A candidate outside campaigns is as large as its parts. -/
theorem size_candidate_le {candidate : Candidate} (noCampaign : candidate.campaignContext = none)
    (noSource : candidate.discoverySource = none) :
    Candidate.codec.size candidate ≤ 5000 + Deployment.codec.size candidate.deployment +
      FailureReference.codec.size candidate.failure +
      (Codec.list EventRecord.codec).size candidate.records := by
  have capture := candidate.captureId.size_le
  have operation := candidate.operationId.size_le
  have mode : ProcessingMode.codec.size candidate.processingMode ≤ 100 := by
    cases candidate.processingMode <;> decide
  have names : Json.stringSize "capture_id" + Json.stringSize "deployment" +
      Json.stringSize "failure" + Json.stringSize "format" + Json.stringSize "operation_id" +
      Json.stringSize "processing_mode" + Json.stringSize "records" + Json.stringSize "world_id" +
      Json.stringSize "reproit.candidate.v1" ≤ 1000 := by decide
  simp only [Candidate.codec, Digest.codec, Format.codec, Codec.size_record, Codec.size_text,
    Codec.size_enumeration, Fields.size_required, Fields.size_skipped, Fields.size_done, noCampaign,
    noSource, Option.elim, Digest.stringSize_toText]
  omega

theorem length_text_candidate (worldId : Digest) :
    (Canonical.text (Sample.candidate worldId)).length ≤ maxCandidateBytes := by
  have first := size_record_le .begin' 0 _ length_text_begin
  have second := size_record_le .failure 1 _ length_text_failure
  have third := size_record_le .terminal 2 _ length_text_terminal
  have records : (Codec.list EventRecord.codec).size (Sample.candidate worldId).records ≤ 100000 := by
    rw [Codec.size_list]
    simp only [Sample.candidate, List.map_cons, List.map_nil, List.sum_cons, List.sum_nil]
    omega
  have deployment : Deployment.codec.size (Sample.candidate worldId).deployment ≤ 100000 :=
    size_deployment
  have reference : FailureReference.codec.size (Sample.candidate worldId).failure ≤ 1000 :=
    Sample.size_reference _
  have whole := @size_candidate_le (Sample.candidate worldId) rfl rfl
  rw [Canonical.length_text, maxCandidateBytes]
  refine whole.trans ?_
  omega

def storm (worldId : Digest) : FailureStormIdentity where
  failureIdentityDigest := (Sample.candidate worldId).failure.identity
  format := .v1
  operationKind := .requestResponse
  operationName := "run"
  serviceId := Sample.id 0
  sourceRevision := "revision"
  subjectArtifactDigest := Sample.subject.artifactDigest

theorem failureStormIdentity_candidate (worldId : Digest) :
    (Sample.candidate worldId).failureStormIdentity = .ok (storm worldId) := by
  have held : canonicalPayload (Sample.record .failure 1 Sample.failure) =
      .ok (Canonical.text Sample.failure) :=
    Sample.canonicalPayload_record Sample.failure.exact Sample.length_text_failure
  have read := Canonical.parseStrict_bytes (Canonical.bytes_of_exact Sample.failure.exact)
  have valid : (storm worldId).validate = .ok () := rfl
  simp only [Candidate.failureStormIdentity, bind_eq_ok, okOr_eq_ok, pure_eq_ok]
  refine ⟨(), Sample.validate_candidate worldId, Sample.record .failure 1 Sample.failure, ?_, _, held,
    _, read, (), valid, rfl⟩
  rfl

theorem exists_identity (worldId : Digest) :
    ∃ identity, forCandidate (Sample.candidate worldId) Sample.time = .ok identity := by
  simp only [forCandidate, bind_eq_ok, pure_eq_ok]
  exact ⟨_, (), Sample.validate_candidate worldId, _,
    Canonical.digest_of_exact (Candidate.exact _), _,
    failureStormIdentity_candidate worldId, _,
    Canonical.digest_of_exact (FailureStormIdentity.exact _), _,
    Canonical.digest_of_exact (Deployment.exact _), _,
    Canonical.digest_of_exact (ProviderLeaseBinding.exact _), rfl⟩

end StagingSample

omit [Primitives] in
theorem candidate_staging_sample :
    letI := Backend.Sample.primitives
    ∃ identity envelope, forCandidate (Backend.Sample.candidate ⟨0⟩) Backend.Sample.time =
        .ok identity ∧
      sealCandidateStaging StagingSample.key StagingSample.nonce (Backend.Sample.candidate ⟨0⟩)
        identity = .ok envelope ∧
      openCandidateStaging StagingSample.key envelope = .ok (Backend.Sample.candidate ⟨0⟩) := by
  let _ := Backend.Sample.primitives
  obtain ⟨sealing, _⟩ := @candidate_staging Backend.Sample.primitives Backend.Sample.aeadCorrect
    StagingSample.aeadTotal StagingSample.key
  obtain ⟨identity, derived⟩ := StagingSample.exists_identity ⟨0⟩
  obtain ⟨opening, sized⟩ := sealing StagingSample.nonce (Backend.Sample.candidate ⟨0⟩)
    Backend.Sample.time identity (Backend.Sample.validate_candidate ⟨0⟩) derived
  have written := Canonical.bytes_of_exact (Candidate.exact (Backend.Sample.candidate ⟨0⟩))
  obtain ⟨envelope, done, _⟩ := (sized _ written).1 (StagingSample.length_text_candidate ⟨0⟩)
  exact ⟨identity, envelope, derived, done, (opening envelope done).2.1⟩

end Reproit
