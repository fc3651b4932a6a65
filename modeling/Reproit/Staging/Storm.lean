/-
# The storm of a candidate

A candidate is rate-limited by the storm of its failure and staged under an identity that
names the storm.  The storm repeats the name of the failed operation, which a valid failure
does not bound: a valid candidate has a storm, and a staging identity, exactly when the name
is short.
-/

import Reproit.Core.CandidateShape
import Reproit.Core.Staging
import Reproit.Failure.Summaries

namespace Reproit

namespace Candidate

variable [Primitives]

/-- The storm of a candidate whose failure record carries the payload. -/
def storm (candidate : Candidate) (payload : FailurePayload) : FailureStormIdentity where
  failureIdentityDigest := candidate.failure.identity
  format := .v1
  operationKind := payload.identity.operation.1
  operationName := payload.identity.operation.2
  serviceId := candidate.deployment.serviceId
  sourceRevision := candidate.deployment.sourceRevision
  subjectArtifactDigest := candidate.deployment.subject.artifactDigest

/-- The failure record of a candidate names a short operation. -/
def ShortFailureName (candidate : Candidate) : Prop :=
  ∀ record payload, candidate.records.find? (fun record => record.kind = .failure) = some record →
    recordPayload FailurePayload record = .ok payload →
      payload.identity.operation.2.utf8ByteSize ≤ 128

theorem failureStormIdentity_eq_ok {candidate : Candidate} {identity : FailureStormIdentity} :
    candidate.failureStormIdentity = .ok identity ↔ candidate.validate = .ok () ∧
      ∃ record payload, candidate.records.find? (fun record => record.kind = .failure) =
          some record ∧
        recordPayload FailurePayload record = .ok payload ∧
          (candidate.storm payload).validate = .ok () ∧ candidate.storm payload = identity := by
  simp only [failureStormIdentity, recordPayload, bind_eq_ok, okOr_eq_ok, pure_eq_ok]
  constructor
  · rintro ⟨_, valid, record, found, bytes, held, payload, read, _, checked, same⟩
    exact ⟨valid, record, payload, found, ⟨bytes, held, read⟩, checked, same⟩
  · rintro ⟨valid, record, payload, found, ⟨bytes, held, read⟩, checked, same⟩
    exact ⟨(), valid, record, found, bytes, held, payload, read, (), checked, same⟩

/-- A valid candidate has one failure record, and its document is a valid failure. -/
theorem Valid.exists_failure {candidate : Candidate} (valid : candidate.Valid) :
    ∃ record payload, candidate.records.find? (fun record => record.kind = .failure) =
        some record ∧
      recordPayload FailurePayload record = .ok payload ∧ payload.identity.validate = .ok () := by
  have some : ∃ record ∈ candidate.records, record.kind = .failure := by
    have one := valid.kinds.2.2.1
    have positive := List.countP_pos_iff.mp (one.symm ▸ Nat.one_pos)
    simpa using positive
  cases found : candidate.records.find? fun record => record.kind = .failure with
  | none =>
      obtain ⟨record, listed, kind⟩ := some
      exact absurd (List.find?_eq_none.mp found record listed) (not_not.mpr (decide_eq_true kind))
  | some record =>
      have kind : record.kind = .failure := of_decide_eq_true (List.find?_some found :)
      obtain ⟨bytes, -, held, checked⟩ :=
        valid.payload_of_kind (List.mem_of_find?_eq_some found) kind
      simp only [validateRecord, bind_eq_ok] at checked
      obtain ⟨payload, read, _, identity, -⟩ := checked
      exact ⟨record, payload, rfl, (bind_eq_ok _ _ _).mpr ⟨bytes, held, read⟩, identity⟩

theorem validate_storm {candidate : Candidate} (valid : candidate.Valid) {payload : FailurePayload}
    (identity : payload.identity.validate = .ok ()) :
    (candidate.storm payload).validate = .ok () ↔
      payload.identity.operation.2.utf8ByteSize ≤ 128 := by
  have deployment := valid.deployment
  simp only [Deployment.validate, bind_eq_ok, rejectIf_eq_ok, not_or] at deployment
  obtain ⟨_, ⟨-, -, -, -, -, -, -, -, -, revision, short⟩, -⟩ := deployment
  have named := (FailureIdentity.named_of_validate identity).1
  rw [FailureStormIdentity.validate, rejectIf_eq_ok]
  simp only [storm, named, revision, short, Bool.false_eq_true, false_or, or_false, not_lt]

theorem exists_storm_iff {candidate : Candidate} (valid : candidate.validate = .ok ()) :
    (∃ storm, candidate.failureStormIdentity = .ok storm) ↔ candidate.ShortFailureName := by
  have shape := validate_eq_ok.mp valid
  obtain ⟨record, payload, found, read, identity⟩ := shape.exists_failure
  constructor
  · intro ⟨identity', held⟩ other document here carried
    obtain ⟨-, first, second, found', read', checked, -⟩ := failureStormIdentity_eq_ok.mp held
    obtain rfl := Option.some.inj (found.symm.trans found')
    obtain rfl := Option.some.inj (found.symm.trans here)
    obtain rfl := Except.ok.inj (read.symm.trans read')
    obtain rfl := Except.ok.inj (read.symm.trans carried)
    exact (validate_storm shape identity).mp checked
  · intro short
    have checked := (validate_storm shape identity).mpr (short record payload found read)
    exact ⟨_, failureStormIdentity_eq_ok.mpr ⟨valid, record, payload, found, read, checked, rfl⟩⟩

/-- A valid candidate with a storm is staged: all other documents of the identity have canonical
bytes. -/
theorem exists_forCandidate_iff {candidate : Candidate} (valid : candidate.validate = .ok ())
    (expiresAt : Timestamp) :
    (∃ identity, CandidateStagingIdentity.forCandidate candidate expiresAt = .ok identity) ↔
      ∃ storm, candidate.failureStormIdentity = .ok storm := by
  simp only [CandidateStagingIdentity.forCandidate, bind_eq_ok, pure_eq_ok]
  constructor
  · rintro ⟨_, _, _, _, _, storm, held, _⟩
    exact ⟨storm, held⟩
  · rintro ⟨storm, held⟩
    exact ⟨_, (), valid, _, Canonical.digest_of_exact (Candidate.exact _), storm, held, _,
      Canonical.digest_of_exact (FailureStormIdentity.exact _), _,
      Canonical.digest_of_exact (Deployment.exact _), _,
      Canonical.digest_of_exact (ProviderLeaseBinding.exact _), rfl⟩

/-- A valid candidate has a storm, and is staged until any time, exactly when its failure names a
short operation. -/
theorem stages_iff {candidate : Candidate} (valid : candidate.validate = .ok ())
    (expiresAt : Timestamp) :
    ((∃ storm, candidate.failureStormIdentity = .ok storm) ↔ candidate.ShortFailureName) ∧
      ((∃ identity, CandidateStagingIdentity.forCandidate candidate expiresAt = .ok identity) ↔
        candidate.ShortFailureName) :=
  ⟨exists_storm_iff valid,
    (exists_forCandidate_iff valid expiresAt).trans (exists_storm_iff valid)⟩

end Candidate

/-! ## A short and a long name -/

namespace StormSample

open Backend

variable [Primitives]

def identity (name : String) : FailureIdentity :=
  .contract {
    category := .explicit
    contractId := "total"
    contractVersion := "1"
    expectedDigest := ⟨0⟩
    observedDigest := ⟨0⟩
    operationKind := .requestResponse
    operationName := name
    runtimeFamily := "rust"
    schema := "reproit.failure.v1" }

def reference (name : String) : FailureReference :=
  { Sample.reference with identity := Digest.of (Canonical.text (identity name)) }

def failure (name : String) : FailurePayload where
  failure := reference name
  format := .v1
  identity := identity name

/-- The sample candidate with a name in its failure. -/
def candidate (name : String) : Candidate :=
  { Sample.candidate ⟨0⟩ with
    failure := reference name
    records := [Sample.record .begin' 0 Sample.beginPayload, Sample.record .failure 1 (failure name),
      Sample.record .terminal 2 Sample.terminalPayload] }

theorem length_text_failure {name : String} (short : name.utf8ByteSize ≤ 1000) :
    (Canonical.text (failure name)).length ≤ 65536 := by
  have text := Json.stringSize_le name
  rw [Canonical.length_text]
  change FailurePayload.codec.size (failure name) ≤ 65536
  have identity : FailureIdentity.codec.size (identity name) ≤ 2000 + Json.stringSize name := by
    have names : Json.stringSize "category" + Json.stringSize "contract_id" +
        Json.stringSize "contract_version" + Json.stringSize "expected_digest" +
        Json.stringSize "observed_digest" + Json.stringSize "operation_kind" +
        Json.stringSize "operation_name" + Json.stringSize "runtime_family" +
        Json.stringSize "schema" + ContractCategory.codec.size .explicit +
        OperationKind.codec.size .requestResponse + Json.stringSize "total" +
        Json.stringSize "1" + Json.stringSize "rust" +
        Json.stringSize "reproit.failure.v1" ≤ 500 := by decide
    show ContractFailureIdentity.codec.size _ ≤ _
    simp only [ContractFailureIdentity.codec, Codec.size_record, Digest.codec, Codec.size_text,
      Codec.size_string, Fields.size_required, Fields.size_done, Digest.stringSize_toText]
    omega
  have reference : FailureReference.codec.size (reference name) ≤ 1000 := Sample.size_reference _
  have names : Json.stringSize "failure" = 9 ∧ Json.stringSize "format" = 8 ∧
      Json.stringSize "identity" = 10 ∧
      (Format.codec "reproit.failure-payload.v1").size .v1 ≤ 100 := by decide
  simp only [FailurePayload.codec, failure, Codec.size_record, Fields.size_required,
    Fields.size_done]
  omega

omit [Primitives] in
theorem validate_identity {name : String} (named : name.isEmpty = false) :
    (identity name).validate = .ok () := by
  have texts : "total".isEmpty = false ∧ "1".isEmpty = false ∧ "rust".isEmpty = false := by decide
  change ContractFailureIdentity.validate _ = .ok ()
  rw [ContractFailureIdentity.validate, rejectIf_eq_ok]
  simp [named, texts]

theorem validate_candidate {name : String} (named : name.isEmpty = false)
    (short : name.utf8ByteSize ≤ 1000) : (candidate name).validate = .ok () := by
  have base := Candidate.validate_eq_ok.mp (Sample.validate_candidate ⟨0⟩)
  have held : canonicalPayload (Sample.record .failure 1 (failure name)) =
      .ok (Canonical.text (failure name)) :=
    Sample.canonicalPayload_record (failure name).exact (length_text_failure short)
  have read := Canonical.parseStrict_bytes (Canonical.bytes_of_exact (failure name).exact)
  apply Candidate.validate_eq_ok.mpr
  constructor
  case deployment => exact base.deployment
  case reference => rfl
  case mode => rfl
  case few => exact (by decide : 2 ≤ 3 ∧ 3 ≤ 1025)
  case numbered =>
    intro index record there
    have listed : [Sample.record .begin' 0 Sample.beginPayload,
        Sample.record .failure 1 (failure name),
        Sample.record .terminal 2 Sample.terminalPayload][index]? = some record := there
    match index with
    | 0 | 1 | 2 =>
        obtain rfl := Option.some.inj listed
        rfl
  case kinds => simp [candidate, Sample.record, Candidate.validRecordKinds]
  case records =>
    intro record listed
    simp only [candidate, List.mem_cons, List.not_mem_nil, or_false] at listed
    rcases listed with rfl | rfl | rfl
    · obtain ⟨bytes, written, checked⟩ :=
        base.records (Sample.record .begin' 0 Sample.beginPayload) (.head _)
      refine ⟨bytes, written, ?_⟩
      simp only [Sample.record, Candidate.validateRecord] at checked ⊢
      exact checked
    · refine ⟨_, held, ?_⟩
      simp only [Sample.record, Candidate.validateRecord, bind_eq_ok, rejectIf_eq_ok, not_not]
      exact ⟨_, read, (), validate_identity named, (), rfl, (), rfl, _,
        Canonical.digest_of_exact (identity name).exact, rfl⟩
    · refine ⟨_, Sample.canonicalPayload_record Sample.terminalPayload.exact
        Sample.length_text_terminal, ?_⟩
      have parsed := Canonical.parseStrict_bytes
        (Canonical.bytes_of_exact Sample.terminalPayload.exact)
      simp only [Sample.record, Candidate.validateRecord, bind_eq_ok, rejectIf_eq_ok]
      exact ⟨_, parsed, by simp [Sample.terminalPayload, candidate]⟩
  case campaign =>
    have parsed := Canonical.parseStrict_bytes (Canonical.bytes_of_exact Sample.beginPayload.exact)
    refine ⟨Sample.record .begin' 0 Sample.beginPayload, Sample.beginPayload, rfl, ?_, rfl⟩
    rw [recordPayload, bind_eq_ok]
    exact ⟨_, Sample.canonicalPayload_record Sample.beginPayload.exact Sample.length_text_begin,
      parsed⟩
  case discovery => exact base.discovery

theorem shortFailureName_candidate {name : String} (short : name.utf8ByteSize ≤ 1000) :
    (candidate name).ShortFailureName ↔ name.utf8ByteSize ≤ 128 := by
  have found : (candidate name).records.find? (fun record => record.kind = .failure) =
      some (Sample.record .failure 1 (failure name)) := rfl
  have read : recordPayload FailurePayload (Sample.record .failure 1 (failure name)) =
      .ok (failure name) := by
    rw [recordPayload, bind_eq_ok]
    exact ⟨_, Sample.canonicalPayload_record (failure name).exact (length_text_failure short),
      Canonical.parseStrict_bytes (Canonical.bytes_of_exact (failure name).exact)⟩
  constructor
  · intro held
    exact held _ _ found read
  · intro small record payload here carried
    obtain rfl := Option.some.inj (found.symm.trans here)
    obtain rfl := Except.ok.inj (read.symm.trans carried)
    exact small

/-- A name of one hundred and twenty-nine bytes. -/
def longName : String := String.ofList (List.replicate 129 'a')

omit [Primitives] in
set_option maxRecDepth 2000 in
theorem utf8ByteSize_longName : longName.isEmpty = false ∧ longName.utf8ByteSize = 129 := by
  decide

end StormSample

theorem Candidate.stages_short :
    letI := Backend.Sample.primitives
    (∃ storm, (StormSample.candidate "run").failureStormIdentity = .ok storm) ∧
      ∃ identity, CandidateStagingIdentity.forCandidate (StormSample.candidate "run")
        Backend.Sample.time = .ok identity := by
  let _ := Backend.Sample.primitives
  have sizes : "run".isEmpty = false ∧ "run".utf8ByteSize ≤ 1000 ∧ "run".utf8ByteSize ≤ 128 := by
    decide
  have short := (StormSample.shortFailureName_candidate sizes.2.1).mpr sizes.2.2
  obtain ⟨storms, stages⟩ := Candidate.stages_iff
    (StormSample.validate_candidate sizes.1 sizes.2.1) Backend.Sample.time
  exact ⟨storms.mpr short, stages.mpr short⟩

theorem Candidate.refused_longName :
    letI := Backend.Sample.primitives
    (StormSample.candidate StormSample.longName).validate = .ok () ∧
      (¬ ∃ storm, (StormSample.candidate StormSample.longName).failureStormIdentity = .ok storm) ∧
      ¬ ∃ identity, CandidateStagingIdentity.forCandidate
        (StormSample.candidate StormSample.longName) Backend.Sample.time = .ok identity := by
  let _ := Backend.Sample.primitives
  obtain ⟨named, size⟩ := StormSample.utf8ByteSize_longName
  have short : StormSample.longName.utf8ByteSize ≤ 1000 := by omega
  have valid := StormSample.validate_candidate named short
  have storms : ¬ ∃ storm,
      (StormSample.candidate StormSample.longName).failureStormIdentity = .ok storm := by
    rw [Candidate.exists_storm_iff valid, StormSample.shortFailureName_candidate short, size]
    decide
  refine ⟨valid, storms, ?_⟩
  rwa [Candidate.exists_forCandidate_iff valid]

end Reproit
