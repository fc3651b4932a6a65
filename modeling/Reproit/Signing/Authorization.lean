/-
# What a signed permission allows

A signed permission is accepted for a purpose, between two times.  Its signature covers one
document, so that a permission that is presented again is accepted for the same purpose only,
and not longer than its kind allows.  The registration of a workload is fixed by the request
that it signs, and what a worker opens is fixed by the grant of the key.
-/

import Reproit.Backend.DerivedId
import Reproit.Core.Exactness
import Reproit.Opening.Candidate
import Reproit.Signing.Binding

namespace Reproit

variable [Primitives]

/-! ## Fuzz contexts -/

/-- The context is of the service and not expired.  Times are compared as texts. -/
def verifyFuzzContext (context : FuzzContext) (verificationKey : SecretKey)
    (projectId : ProjectId) (serviceId : ServiceId) (now : Timestamp) : Result Unit := do
  context.validate
  rejectIf (context.projectId ≠ projectId ∨ context.serviceId ≠ serviceId ∨
    context.expiresAt.text ≤ now.text) .schemaInvalid
  verifySignedValue (Document.encode context) verificationKey

/-! ## Permissions and purposes -/

omit [Primitives] in
/-- Instants follow the order of texts. -/
theorem Timestamp.instant_le_of_le {first second : Timestamp} (ordered : first ≤ second) :
    first.instant ≤ second.instant := by
  by_contra later
  have below := ((instant_lt_iff second first).mp (Nat.lt_of_not_le later)).1
  exact absurd ordered (not_le.mpr below)

/-- What a permission is presented for. -/
inductive Purpose
  | environmentPolicy (organizationId : OrganizationId) (signerKeyId : String)
  | executorCapabilityEvidence (organizationId : OrganizationId) (projectId : ProjectId)
      (serviceId : ServiceId)
  | executionGrant (executorId : String) (expectation : ExecutionGrantExpectation)
  | fuzzContext (projectId : ProjectId) (serviceId : ServiceId)
  | managedCandidateCaptureGrant (expected : ManagedCandidateCaptureGrantExpectation)
  | managedWorkerGrant (leaseId : LeaseId) (operation : ManagedOperation)
      (encryptedCandidateDigest : Digest)
  | managedKeyGrant (workerGrantDigest : Digest)
  deriving DecidableEq

/-- The same purpose at another time. -/
def Purpose.at (purpose : Purpose) (now : Timestamp) : Purpose :=
  match purpose with
  | .executionGrant executorId expectation => .executionGrant executorId { expectation with now }
  | other => other

/-- The times between which a permission is in force. -/
structure Validity where
  notBefore : Option Timestamp
  expiresAt : Timestamp

namespace Validity

/-- The instant is between the times.  Two times of one leap second have one instant, so that
the last instant is contained. -/
def Contains (validity : Validity) (now : Timestamp) : Prop :=
  (∀ start ∈ validity.notBefore, start.instant ≤ now.instant) ∧
    now.instant ≤ validity.expiresAt.instant

/-- The permission lasts no longer than that. -/
def Within (validity : Validity) (lifetime : Nat) : Prop :=
  ∃ start ∈ validity.notBefore, validity.expiresAt.instant ≤ start.instant + lifetime

omit [Primitives] in
/-- Two times at which a permission is in force are no further apart than it lasts. -/
theorem Contains.near {validity : Validity} {now later : Timestamp} {lifetime : Nat}
    (first : validity.Contains now) (second : validity.Contains later)
    (within : validity.Within lifetime) : later.instant ≤ now.instant + lifetime := by
  obtain ⟨start, begins, lasts⟩ := within
  calc later.instant ≤ validity.expiresAt.instant := second.2
    _ ≤ start.instant + lifetime := lasts
    _ ≤ now.instant + lifetime := Nat.add_le_add_right (first.1 start begins) lifetime

omit [Primitives] in
/-- A permission is in force between its times, compared as texts. -/
theorem contains_of_le {start expiresAt now : Timestamp} (begun : start ≤ now)
    (going : now < expiresAt) : Contains ⟨some start, expiresAt⟩ now := by
  refine ⟨?_, Timestamp.instant_le_of_le going.le⟩
  intro first same
  cases same
  exact Timestamp.instant_le_of_le begun

omit [Primitives] in
theorem within_of_sub_le {start expiresAt : Timestamp} {lifetime : Nat}
    (lasts : expiresAt.instant - start.instant ≤ lifetime) :
    Within ⟨some start, expiresAt⟩ lifetime :=
  ⟨start, rfl, Nat.sub_le_iff_le_add'.mp lasts⟩

end Validity

/-- How long a permission of a kind lasts at most, where its validator bounds it. -/
def SignedKind.lifetime : SignedKind → Option Nat
  | .environmentPolicy => some maxPolicyLifetime
  | .executionGrant => some maxExecutionGrantLifetime
  | _ => none

namespace SignedRecord

/-- The purpose that a permission serves, at one time. -/
def purpose (record : SignedRecord) (now : Timestamp) : Option Purpose :=
  match record with
  | ⟨.environmentPolicy, (policy : EnvironmentPolicy)⟩ =>
      some (.environmentPolicy policy.organizationId policy.signerKeyId)
  | ⟨.executorCapabilityEvidence, (evidence : ExecutorCapabilityEvidence)⟩ =>
      some (.executorCapabilityEvidence evidence.organizationId evidence.projectId
        evidence.serviceId)
  | ⟨.executionGrant, (grant : ExecutionGrant)⟩ =>
      some (.executionGrant grant.executorId
        { debuggerCapabilityDigest := grant.debuggerCapabilityDigest
          now
          operation := grant.operation
          processingMode := grant.processingMode
          requesterIdentity := grant.requesterIdentity
          reproDigest := grant.reproDigest
          scope :=
            { organizationId := grant.organizationId
              projectId := grant.projectId
              serviceId := grant.serviceId }
          workClass := grant.workClass })
  | ⟨.fuzzContext, (context : FuzzContext)⟩ =>
      some (.fuzzContext context.projectId context.serviceId)
  | ⟨.managedCandidateCaptureGrant, (grant : ManagedCandidateCaptureGrant)⟩ =>
      some (.managedCandidateCaptureGrant
        { candidateIdentityDigest := grant.candidateIdentityDigest
          candidateKeyReference := grant.candidateKeyReference
          captureId := grant.captureId
          organizationId := grant.organizationId
          projectId := grant.projectId
          serviceId := grant.serviceId
          signerKeyId := grant.signerKeyId })
  | ⟨.managedWorkerGrant, (grant : ManagedWorkerGrant)⟩ =>
      some (.managedWorkerGrant grant.leaseId grant.operation grant.encryptedCandidateDigest)
  | ⟨.managedKeyGrant, (grant : ManagedKeyGrant)⟩ => some (.managedKeyGrant grant.workerGrantDigest)
  | _ => none

/-- When a permission is in force. -/
def validity : SignedRecord → Option Validity
  | ⟨.environmentPolicy, (policy : EnvironmentPolicy)⟩ => some ⟨policy.issuedAt, policy.expiresAt⟩
  | ⟨.executorCapabilityEvidence, (evidence : ExecutorCapabilityEvidence)⟩ =>
      some ⟨evidence.issuedAt, evidence.expiresAt⟩
  | ⟨.executionGrant, (grant : ExecutionGrant)⟩ => some ⟨grant.issuedAt, grant.expiresAt⟩
  | ⟨.fuzzContext, (context : FuzzContext)⟩ => some ⟨none, context.expiresAt⟩
  | ⟨.managedCandidateCaptureGrant, (grant : ManagedCandidateCaptureGrant)⟩ =>
      some ⟨grant.notBefore, grant.expiresAt⟩
  | ⟨.managedWorkerGrant, (grant : ManagedWorkerGrant)⟩ => some ⟨grant.notBefore, grant.expiresAt⟩
  | ⟨.managedKeyGrant, (grant : ManagedKeyGrant)⟩ => some ⟨grant.notBefore, grant.expiresAt⟩
  | _ => none

end SignedRecord

/-- A signed permission is accepted for a purpose, at one time and with one key. -/
inductive Accepted (publicKey : SecretKey) (now : Timestamp) : SignedRecord → Purpose → Prop
  | environmentPolicy {policy : EnvironmentPolicy} {organizationId : OrganizationId}
      {signerKeyId : String} {currentRevision : Option UInt64}
      (verified : verifyEnvironmentPolicy policy organizationId signerKeyId currentRevision now
        publicKey = .ok ()) :
      Accepted publicKey now ⟨.environmentPolicy, policy⟩
        (.environmentPolicy organizationId signerKeyId)
  | executorCapabilityEvidence {evidence : ExecutorCapabilityEvidence}
      {scope : ExecutorEvidenceScope}
      (verified : verifyExecutorCapabilityEvidence evidence scope now publicKey = .ok ()) :
      Accepted publicKey now ⟨.executorCapabilityEvidence, evidence⟩
        (.executorCapabilityEvidence scope.organizationId scope.projectId scope.serviceId)
  | executionGrant {grant : ExecutionGrant} {evidence : ExecutorCapabilityEvidence}
      {expectation : ExecutionGrantExpectation}
      (verified : verifyExecutionGrant grant evidence { expectation with now } publicKey =
        .ok ()) :
      Accepted publicKey now ⟨.executionGrant, grant⟩
        (.executionGrant evidence.executorId { expectation with now })
  | fuzzContext {context : FuzzContext} {projectId : ProjectId} {serviceId : ServiceId}
      (verified : verifyFuzzContext context publicKey projectId serviceId now = .ok ()) :
      Accepted publicKey now ⟨.fuzzContext, context⟩ (.fuzzContext projectId serviceId)
  | managedCandidateCaptureGrant {grant : ManagedCandidateCaptureGrant}
      {expected : ManagedCandidateCaptureGrantExpectation}
      (verified : verifyManagedCandidateCaptureGrant grant expected now publicKey = .ok ()) :
      Accepted publicKey now ⟨.managedCandidateCaptureGrant, grant⟩
        (.managedCandidateCaptureGrant expected)
  | managedWorkerGrant {worker : ManagedWorkerGrant} {key : ManagedKeyGrant}
      {keyPublicKey : SecretKey}
      (verified : verifyManagedWorkerKeyGrants worker key now publicKey keyPublicKey = .ok ()) :
      Accepted publicKey now ⟨.managedWorkerGrant, worker⟩
        (.managedWorkerGrant key.leaseId key.operation key.encryptedCandidateDigest)
  | managedKeyGrant {worker : ManagedWorkerGrant} {key : ManagedKeyGrant}
      {workerPublicKey : SecretKey} {workerGrantDigest : Digest}
      (verified : verifyManagedWorkerKeyGrants worker key now workerPublicKey publicKey = .ok ())
      (digest : Canonical.digest worker = .ok workerGrantDigest) :
      Accepted publicKey now ⟨.managedKeyGrant, key⟩ (.managedKeyGrant workerGrantDigest)

/-! ## One permission -/

/-- What accepting a permission establishes. -/
structure Accepted.Sound (publicKey : SecretKey) (now : Timestamp) (record : SignedRecord)
    (purpose : Purpose) : Prop where
  verifies : verifySignedValue record.value publicKey = .ok ()
  stated : record.purpose now = some purpose
  inForce : ∃ validity, record.validity = some validity ∧ validity.Contains now ∧
    ∀ lifetime ∈ record.kind.lifetime, validity.Within lifetime

section Permissions

variable {publicKey : SecretKey} {now : Timestamp}

theorem sound_of_verifyEnvironmentPolicy {policy : EnvironmentPolicy}
    {organizationId : OrganizationId} {signerKeyId : String} {currentRevision : Option UInt64}
    (verified : verifyEnvironmentPolicy policy organizationId signerKeyId currentRevision now
      publicKey = .ok ()) :
    Accepted.Sound publicKey now ⟨.environmentPolicy, policy⟩
      (.environmentPolicy organizationId signerKeyId) := by
  simp only [verifyEnvironmentPolicy, EnvironmentPolicy.validate, bind_eq_ok, rejectIf_eq_ok,
    not_or, not_not, not_lt, not_le] at verified
  obtain ⟨_, ⟨rfl, rfl⟩, _, ⟨_, -, _, -, _, ⟨-, lasts⟩, -⟩, _, -, _, ⟨begun, going⟩, verifies⟩ :=
    verified
  refine ⟨verifies, rfl, _, rfl, Validity.contains_of_le begun going, ?_⟩
  intro lifetime same
  cases same
  exact Validity.within_of_sub_le lasts

theorem sound_of_verifyExecutorCapabilityEvidence {evidence : ExecutorCapabilityEvidence}
    {scope : ExecutorEvidenceScope}
    (verified : verifyExecutorCapabilityEvidence evidence scope now publicKey = .ok ()) :
    Accepted.Sound publicKey now ⟨.executorCapabilityEvidence, evidence⟩
      (.executorCapabilityEvidence scope.organizationId scope.projectId scope.serviceId) := by
  simp only [verifyExecutorCapabilityEvidence, bind_eq_ok, rejectIf_eq_ok, not_or, not_not, not_lt,
    not_le] at verified
  obtain ⟨_, -, _, -, _, ⟨organization, project, service⟩, _, ⟨begun, going⟩, verifies⟩ := verified
  refine ⟨verifies, ?_, _, rfl, Validity.contains_of_le begun going, ?_⟩
  · rw [← organization, ← project, ← service]
    rfl
  · intro lifetime same
    cases same

theorem sound_of_verifyExecutionGrant {grant : ExecutionGrant}
    {evidence : ExecutorCapabilityEvidence} {expectation : ExecutionGrantExpectation}
    (verified : verifyExecutionGrant grant evidence { expectation with now } publicKey = .ok ()) :
    Accepted.Sound publicKey now ⟨.executionGrant, grant⟩
      (.executionGrant evidence.executorId { expectation with now }) := by
  obtain ⟨_, _, _, _, _, _, ⟨_, _, _⟩, _⟩ := expectation
  simp only [verifyExecutionGrant, ExecutionGrant.validate, bind_eq_ok, rejectIf_eq_ok, not_or,
    not_not, not_lt, not_le] at verified
  obtain ⟨_, ⟨_, -, _, -, -, lasts⟩, _, ⟨executor, rfl, rfl, rfl, rfl, rfl, rfl, rfl, rfl, begun,
    going, rfl⟩, verifies⟩ := verified
  refine ⟨verifies, ?_, _, rfl, Validity.contains_of_le begun going, ?_⟩
  · rw [← executor]
    rfl
  · intro lifetime same
    cases same
    exact Validity.within_of_sub_le lasts

theorem sound_of_verifyFuzzContext {context : FuzzContext} {projectId : ProjectId}
    {serviceId : ServiceId}
    (verified : verifyFuzzContext context publicKey projectId serviceId now = .ok ()) :
    Accepted.Sound publicKey now ⟨.fuzzContext, context⟩ (.fuzzContext projectId serviceId) := by
  simp only [verifyFuzzContext, bind_eq_ok, rejectIf_eq_ok, not_or, not_not, not_le] at verified
  obtain ⟨_, -, _, ⟨rfl, rfl, going⟩, verifies⟩ := verified
  refine ⟨verifies, rfl, _, rfl, ⟨?_, ?_⟩, ?_⟩
  · intro start same
    cases same
  · exact Timestamp.instant_le_of_le (show now < context.expiresAt from going).le
  · intro lifetime same
    cases same

theorem sound_of_verifyManagedCandidateCaptureGrant {grant : ManagedCandidateCaptureGrant}
    {expected : ManagedCandidateCaptureGrantExpectation}
    (verified : verifyManagedCandidateCaptureGrant grant expected now publicKey = .ok ()) :
    Accepted.Sound publicKey now ⟨.managedCandidateCaptureGrant, grant⟩
      (.managedCandidateCaptureGrant expected) := by
  simp only [verifyManagedCandidateCaptureGrant, bind_eq_ok, rejectIf_eq_ok, not_or, not_not,
    not_lt, not_le] at verified
  obtain ⟨_, -, _, ⟨digest, reference, capture, organization, project, service, signer, begun,
    going⟩, verifies⟩ := verified
  refine ⟨verifies, ?_, _, rfl, ⟨?_, going.le⟩, ?_⟩
  · rw [SignedRecord.purpose, digest, reference, capture, organization, project, service, signer]
  · intro start same
    cases same
    exact begun
  · intro lifetime same
    cases same

/-- What the grants of a worker are checked for, beside their own validators. -/
structure GrantsAgree (worker : ManagedWorkerGrant) (key : ManagedKeyGrant) (now : Timestamp) :
    Prop where
  workerInForce : worker.notBefore ≤ now ∧ now < worker.expiresAt
  keyInForce : key.notBefore ≤ now ∧ now < key.expiresAt ∧ key.expiresAt ≤ worker.expiresAt
  candidateIdentityDigest : key.candidateIdentityDigest = worker.candidateIdentityDigest
  candidateKeyReference : key.candidateKeyReference = worker.candidateKeyReference
  capabilities : key.capabilities = worker.capabilities
  captureId : key.captureId = worker.captureId
  encryptedCandidateDigest : key.encryptedCandidateDigest = worker.encryptedCandidateDigest
  leaseId : key.leaseId = worker.leaseId
  operation : key.operation = worker.operation
  organizationId : key.organizationId = worker.organizationId
  processingMode : key.processingMode = worker.processingMode
  projectId : key.projectId = worker.projectId
  serviceId : key.serviceId = worker.serviceId
  workerId : key.workerId = worker.workerId
  workerRelease : key.workerRelease = worker.workerRelease

theorem verifyManagedWorkerKeyGrants_eq_ok {worker : ManagedWorkerGrant} {key : ManagedKeyGrant}
    {workerPublicKey keyPublicKey : SecretKey} :
    verifyManagedWorkerKeyGrants worker key now workerPublicKey keyPublicKey = .ok () ↔
      worker.validate = .ok () ∧ key.validate = .ok () ∧ GrantsAgree worker key now ∧
      Canonical.digest worker = .ok key.workerGrantDigest ∧
      verifySignedValue (Document.encode worker) workerPublicKey = .ok () ∧
      verifySignedValue (Document.encode key) keyPublicKey = .ok () := by
  simp only [verifyManagedWorkerKeyGrants, bind_eq_ok, rejectIf_eq_ok, not_or, not_not, not_lt,
    not_le]
  constructor
  · rintro ⟨_, workerValid, _, keyValid, _, ⟨begun, going, keyBegun, keyGoing, last, identity,
      reference, capabilities, capture, encrypted, lease, operation, organization, mode, project,
      service⟩, _, digest, _, ⟨rfl, workerId, release⟩, _, workerSigned, keySigned⟩
    exact ⟨workerValid, keyValid, ⟨⟨begun, going⟩, ⟨keyBegun, keyGoing, last⟩, identity, reference,
      capabilities, capture, encrypted, lease, operation, organization, mode, project, service,
      workerId, release⟩, digest, workerSigned, keySigned⟩
  · rintro ⟨workerValid, keyValid, agree, digest, workerSigned, keySigned⟩
    exact ⟨(), workerValid, (), keyValid, (), ⟨agree.workerInForce.1, agree.workerInForce.2,
      agree.keyInForce.1, agree.keyInForce.2.1, agree.keyInForce.2.2,
      agree.candidateIdentityDigest, agree.candidateKeyReference, agree.capabilities,
      agree.captureId, agree.encryptedCandidateDigest, agree.leaseId, agree.operation,
      agree.organizationId, agree.processingMode, agree.projectId, agree.serviceId⟩,
      _, digest, (), ⟨rfl, agree.workerId, agree.workerRelease⟩, (), workerSigned, keySigned⟩

theorem sound_of_workerGrant {worker : ManagedWorkerGrant} {key : ManagedKeyGrant}
    {keyPublicKey : SecretKey}
    (verified : verifyManagedWorkerKeyGrants worker key now publicKey keyPublicKey = .ok ()) :
    Accepted.Sound publicKey now ⟨.managedWorkerGrant, worker⟩
      (.managedWorkerGrant key.leaseId key.operation key.encryptedCandidateDigest) := by
  obtain ⟨-, -, agree, -, verifies, -⟩ := verifyManagedWorkerKeyGrants_eq_ok.mp verified
  have inForce := agree.workerInForce
  refine ⟨verifies, ?_, _, rfl, Validity.contains_of_le inForce.1 inForce.2, ?_⟩
  · rw [agree.leaseId, agree.operation, agree.encryptedCandidateDigest]
    rfl
  · intro lifetime same
    cases same

theorem sound_of_keyGrant {worker : ManagedWorkerGrant} {key : ManagedKeyGrant}
    {workerPublicKey : SecretKey} {workerGrantDigest : Digest}
    (verified : verifyManagedWorkerKeyGrants worker key now workerPublicKey publicKey = .ok ())
    (digest : Canonical.digest worker = .ok workerGrantDigest) :
    Accepted.Sound publicKey now ⟨.managedKeyGrant, key⟩ (.managedKeyGrant workerGrantDigest) := by
  obtain ⟨-, -, agree, same, -, verifies⟩ := verifyManagedWorkerKeyGrants_eq_ok.mp verified
  obtain rfl := Except.ok.inj (same.symm.trans digest)
  have inForce := agree.keyInForce
  refine ⟨verifies, rfl, _, rfl, Validity.contains_of_le inForce.1 inForce.2.1, ?_⟩
  intro lifetime same
  cases same

end Permissions

/-- A permission is accepted while it is in force, for what it states. -/
theorem Accepted.sound {publicKey : SecretKey} {now : Timestamp} {record : SignedRecord}
    {purpose : Purpose} (accepted : Accepted publicKey now record purpose) :
    Sound publicKey now record purpose := by
  cases accepted with
  | environmentPolicy verified => exact sound_of_verifyEnvironmentPolicy verified
  | executorCapabilityEvidence verified =>
      exact sound_of_verifyExecutorCapabilityEvidence verified
  | executionGrant verified => exact sound_of_verifyExecutionGrant verified
  | fuzzContext verified => exact sound_of_verifyFuzzContext verified
  | managedCandidateCaptureGrant verified =>
      exact sound_of_verifyManagedCandidateCaptureGrant verified
  | managedWorkerGrant verified => exact sound_of_workerGrant verified
  | managedKeyGrant verified digest => exact sound_of_keyGrant verified digest

/-! ## A permission that is presented again -/

omit [Primitives] in
/-- What a permission states does not depend on the time. -/
theorem SignedRecord.purpose_at {record : SignedRecord} {now : Timestamp} {purpose : Purpose}
    (stated : record.purpose now = some purpose) (later : Timestamp) :
    record.purpose later = some (purpose.at later) := by
  obtain ⟨kind, document⟩ := record
  cases kind <;> cases stated <;> rfl

/-- The signature of a permission is accepted again for the same document and the same purpose
only, and not later than its kind allows. -/
theorem Accepted.again {publicKey : SecretKey} {now later : Timestamp}
    {first second : SignedRecord} {purpose other : Purpose} {signature : Vector UInt8 64}
    (hfirst : Accepted publicKey now first purpose)
    (hsecond : Accepted publicKey later second other)
    (decoded : decodeBase64Url 64 first.signature = .ok signature)
    (shared : second.signature = first.signature)
    (oneMessage : ∀ message others, first.signedBytes = .ok message →
      second.signedBytes = .ok others → Primitives.ed25519Verify publicKey message signature →
      Primitives.ed25519Verify publicKey others signature → message = others) :
    first = second ∧ other = purpose.at later ∧
      (∃ validity, first.validity = some validity ∧ validity.Contains now ∧
        validity.Contains later) ∧
      ∀ lifetime ∈ first.kind.lifetime, later.instant ≤ now.instant + lifetime := by
  have one := hfirst.sound
  have two := hsecond.sound
  obtain ⟨_, message, read, -, canonical, verifies⟩ :=
    SignedRecord.verifySignedValue_eq_ok.mp one.verifies
  obtain ⟨_, others, read', -, canonical', verifies'⟩ :=
    SignedRecord.verifySignedValue_eq_ok.mp two.verifies
  obtain rfl := Except.ok.inj (decoded.symm.trans read)
  rw [shared] at read'
  obtain rfl := Except.ok.inj (decoded.symm.trans read')
  obtain rfl := oneMessage message others canonical canonical' verifies verifies'
  obtain rfl : first = second := by
    have same := (SignedRecord.binds canonical canonical').2
    rw [shared] at same
    rw [← same, SignedRecord.withSignature, SignedRecord.signature,
      SignedDocument.withSignature_signature]
  obtain ⟨validity, found, holds, within⟩ := one.inForce
  obtain ⟨_, found', holds', -⟩ := two.inForce
  obtain rfl := Option.some.inj (found.symm.trans found')
  refine ⟨rfl, ?_, ⟨validity, found, holds, holds'⟩, ?_⟩
  · have stated := SignedRecord.purpose_at one.stated later
    exact Option.some.inj (two.stated.symm.trans stated)
  · intro lifetime bounded
    exact holds.near holds' (within lifetime bounded)

namespace AuthorizationSample

open Backend.Sample (id time checksum numberBytes)

/-- A signature is a checksum of the key and the message. -/
structure Checksums : Prop where
  key : ∀ publicKey : SecretKey, Primitives.ed25519PublicKey publicKey
  verify : ∀ (publicKey : SecretKey) (message : Bytes), Primitives.ed25519Verify publicKey message
    (numberBytes 64 (checksum (publicKey.toList ++ message)))

omit [Primitives] in
/-- The signature of a document. -/
@[irreducible]
def signature {α : Type} [SignedDocument α] (publicKey : SecretKey) (value : α) :
    Vector UInt8 64 :=
  numberBytes 64 (checksum (publicKey.toList ++
    Canonical.text (SignedDocument.withSignature value "")))

omit [Primitives] in
/-- The document with its signature. -/
def signed {α : Type} [SignedDocument α] (publicKey : SecretKey) (value : α) : α :=
  SignedDocument.withSignature value (encodeBase64Url (signature publicKey value).toList)

omit [Primitives] in
theorem decode_signed {α : Type} [SignedDocument α] (publicKey : SecretKey) (value : α) :
    decodeBase64Url 64 (SignedDocument.signature (signed publicKey value)) =
      .ok (signature publicKey value) := by
  rw [signed, SignedDocument.signature_withSignature]
  exact decodeBase64Url_eq_ok.mpr rfl

omit [Primitives] in
theorem size_signed {α : Type} [SignedDocument α] (publicKey : SecretKey) (value : α) :
    (SignedDocument.signature (signed publicKey value)).utf8ByteSize = 86 := by
  rw [signed, SignedDocument.signature_withSignature, utf8ByteSize_encodeBase64Url,
    Vector.length_toList]

/-- A signed document verifies. -/
theorem verifySignedValue_signed {α : Type} [SignedDocument α] (checks : Checksums)
    (publicKey : SecretKey) {value : α}
    (exact : Document.Exact (SignedDocument.withSignature value "")) :
    verifySignedValue (Document.encode (signed publicKey value)) publicKey = .ok () := by
  apply SignedDocument.verifySignedValue_eq_ok.mpr
  refine ⟨_, Canonical.text (SignedDocument.withSignature value ""),
    decode_signed publicKey value, checks.key publicKey, ?_, ?_⟩
  · rw [SignedDocument.signedBytes_eq, signed, SignedDocument.withSignature_withSignature]
    exact Canonical.bytes_of_exact exact
  · rw [signature]
    exact checks.verify publicKey _

omit [Primitives] in
theorem checksums_marked : @Checksums Backend.Sample.marked :=
  @Checksums.mk Backend.Sample.marked (fun _ => rfl) fun _ _ => decide_eq_true rfl

def key : SecretKey := Vector.replicate 32 7

def issued : Timestamp := ⟨"2026-07-01T10:00:00.000Z", by decide⟩
def used : Timestamp := ⟨"2026-07-01T10:05:00.000Z", by decide⟩
def usedAgain : Timestamp := ⟨"2026-07-01T10:55:00.000Z", by decide⟩
def expires : Timestamp := ⟨"2026-07-01T11:00:00.000Z", by decide⟩

def grant : ExecutionGrant where
  debuggerCapabilityDigest := default
  executorId := "executor"
  expiresAt := expires
  format := .v1
  grantId := "grant"
  issuedAt := issued
  operation := .replay
  organizationId := id 0
  processingMode := .managed
  projectId := id 0
  requesterIdentity := "developer"
  reproDigest := default
  serviceId := id 0
  signature := ""
  workClass := .developer

def evidence : ExecutorCapabilityEvidence where
  capabilities := ["architecture.x86-64"]
  executorId := "executor"
  expiresAt := expires
  format := .v1
  issuedAt := issued
  locality := .managedWorker
  organizationId := id 0
  platformIdentityDigest := default
  projectId := id 0
  serviceId := id 0
  signature := ""
  signerKeyId := "key"
  status := .active

def expectation : ExecutionGrantExpectation where
  debuggerCapabilityDigest := default
  now := issued
  operation := .replay
  processingMode := .managed
  requesterIdentity := "developer"
  reproDigest := default
  scope := { organizationId := id 0, projectId := id 0, serviceId := id 0 }
  workClass := .developer

omit [Primitives] in
set_option maxRecDepth 20000 in
/-- The grant lasts one hour. -/
theorem lasts : ¬ (expires.instant ≤ issued.instant ∨
    expires.instant - issued.instant > maxExecutionGrantLifetime) := by
  decide

theorem accepted_grant (checks : Checksums) {now : Timestamp} (begun : issued ≤ now)
    (going : now < expires) :
    Accepted key now ⟨.executionGrant, signed key grant⟩
      (.executionGrant "executor" { expectation with now }) := by
  have valid : (signed key grant).validate = .ok () := by
    simp only [ExecutionGrant.validate, bind_eq_ok, rejectIf_eq_ok]
    refine ⟨(), ?_, _, decode_signed key grant, ?_⟩
    · have size : (signed key grant).signature.utf8ByteSize = 86 := size_signed key grant
      rw [size]
      show ¬ (grant.executorId.isEmpty ∨ grant.executorId.utf8ByteSize > 128 ∨
        ¬ validLowerIdentity grant.executorId ∨ grant.grantId.isEmpty ∨
        grant.grantId.utf8ByteSize > 128 ∨ ¬ validLowerIdentity grant.grantId ∨
        grant.requesterIdentity.isEmpty ∨
        grant.requesterIdentity.utf8ByteSize > maxRequesterIdentityBytes ∨
        grant.requesterIdentity.toList.any controlChar ∨ 86 ≠ 86)
      decide
    · have begins : (signed key grant).issuedAt = issued := rfl
      have ends : (signed key grant).expiresAt = expires := rfl
      rw [begins, ends]
      exact lasts
  apply @Accepted.executionGrant _ key now (signed key grant) evidence expectation
  have exact : Document.Exact (SignedDocument.withSignature grant "") := by decide
  simp only [verifyExecutionGrant, bind_eq_ok, rejectIf_eq_ok, not_or, not_not, not_lt, not_le]
  exact ⟨(), valid, (), ⟨rfl, rfl, rfl, rfl, rfl, rfl, rfl, rfl, rfl, begun, going, rfl⟩,
    verifySignedValue_signed checks key exact⟩

end AuthorizationSample

omit [Primitives] in
/-- A grant is presented twice within the hour that it lasts. -/
theorem Accepted.again_sample :
    letI := Backend.Sample.marked
    let record : SignedRecord := ⟨.executionGrant,
      AuthorizationSample.signed AuthorizationSample.key AuthorizationSample.grant⟩
    let purpose := fun now =>
      Purpose.executionGrant "executor" { AuthorizationSample.expectation with now }
    Accepted AuthorizationSample.key AuthorizationSample.used record
        (purpose AuthorizationSample.used) ∧
      Accepted AuthorizationSample.key AuthorizationSample.usedAgain record
        (purpose AuthorizationSample.usedAgain) ∧
      AuthorizationSample.usedAgain.instant ≤
        AuthorizationSample.used.instant + maxExecutionGrantLifetime := by
  let _ := Backend.Sample.marked
  have first := @AuthorizationSample.accepted_grant _ AuthorizationSample.checksums_marked
    AuthorizationSample.used (by decide) (by decide)
  have second := @AuthorizationSample.accepted_grant _ AuthorizationSample.checksums_marked
    AuthorizationSample.usedAgain (by decide) (by decide)
  have near := (Accepted.again first second (AuthorizationSample.decode_signed _ _) rfl
    fun message others canonical canonical' _ _ =>
      Except.ok.inj (canonical.symm.trans canonical')).2.2.2
  exact ⟨first, second, near _ rfl⟩

/-! ## The registration of a workload -/

/-- Byte strings with one digest are the same. -/
def NoCollision (first second : Bytes) : Prop :=
  Digest.of first = Digest.of second → first = second

theorem Canonical.eq_of_digest {α : Type} [Document α] {first second : α} {identity : Digest}
    (hfirst : digest first = .ok identity) (hsecond : digest second = .ok identity)
    (apart : NoCollision (text first) (text second)) : first = second := by
  apply digest_injective hfirst hsecond
  intro firstBytes secondBytes writtenFirst writtenSecond same
  obtain ⟨-, rfl⟩ := bytes_eq_ok.mp writtenFirst
  obtain ⟨-, rfl⟩ := bytes_eq_ok.mp writtenSecond
  exact apart same

/-- The bytes of the text of a key. -/
def keyTextBytes (publicKey : String) : Bytes := Json.textBytes publicKey.toList

theorem managedWorkloadKeyId_eq_ok {publicKey keyId : String} :
    managedWorkloadKeyId publicKey = .ok keyId ↔
      (∃ bytes, decodeBase64Url 32 publicKey = .ok bytes) ∧
        "managed-workload-" ++ (Digest.of (keyTextBytes publicKey)).toText = keyId := by
  simp only [managedWorkloadKeyId, bind_eq_ok, pure_eq_ok]
  constructor
  · rintro ⟨bytes, decoded, same⟩
    exact ⟨⟨bytes, decoded⟩, same⟩
  · rintro ⟨⟨bytes, decoded⟩, same⟩
    exact ⟨bytes, decoded, same⟩

/-- A key identifier names one key. -/
theorem eq_of_managedWorkloadKeyId {first second keyId : String}
    (hfirst : managedWorkloadKeyId first = .ok keyId)
    (hsecond : managedWorkloadKeyId second = .ok keyId)
    (apart : NoCollision (keyTextBytes first) (keyTextBytes second)) : first = second := by
  obtain ⟨-, named⟩ := managedWorkloadKeyId_eq_ok.mp hfirst
  obtain ⟨-, rfl⟩ := managedWorkloadKeyId_eq_ok.mp hsecond
  have digests := Digest.toText_injective (String.append_right_inj _ |>.mp named)
  exact String.toList_injective (Backend.textBytes_injective (apart digests))

omit [Primitives] in
theorem workloadText_eq (digest : Digest) : "managed-workload-" ++ digest.toText =
    "managed-workload-sha256:" ++ String.ofList (Radix.hexText 64 digest.number.val) := by
  have lead : "managed-workload-".toList ++ Digest.tag = "managed-workload-sha256:".toList := by
    decide
  apply String.toList_injective
  calc ("managed-workload-" ++ digest.toText).toList
      = "managed-workload-".toList ++ (Digest.tag ++ Radix.hexText 64 digest.number.val) := by
        rw [String.toList_append]
        exact congrArg _ String.toList_ofList
    _ = "managed-workload-sha256:".toList ++ Radix.hexText 64 digest.number.val := by
        rw [← List.append_assoc, lead]
    _ = ("managed-workload-sha256:" ++
          String.ofList (Radix.hexText 64 digest.number.val)).toList := by
        rw [String.toList_append]
        exact congrArg _ String.toList_ofList.symm

omit [Primitives] in
theorem lowercase_of_hexValue {digit : Char} (held : (Radix.hexValue digit).isSome) :
    (digit.isDigit || ('a' ≤ digit && digit ≤ 'f')) = true := by
  unfold Radix.hexValue at held
  split_ifs at held with number letter
  · rw [Bool.or_eq_true]
    left
    rw [Char.isDigit, Bool.and_eq_true, decide_eq_true_eq, decide_eq_true_eq]
    exact number
  · simp [letter]
  · cases held

/-- The identifier of a key passes its own check. -/
theorem validateManagedWorkloadKeyId_of_key {publicKey keyId : String}
    (derived : managedWorkloadKeyId publicKey = .ok keyId) :
    validateManagedWorkloadKeyId keyId = .ok () := by
  obtain ⟨-, rfl⟩ := managedWorkloadKeyId_eq_ok.mp derived
  rw [workloadText_eq]
  generalize (Digest.of (keyTextBytes publicKey)).number.val = number
  have digits : ∀ c ∈ Radix.hexText 64 number, (Radix.hexValue c).isSome := fun _ listed =>
    Radix.hexValue_isSome_of_mem_hexText listed
  simp only [validateManagedWorkloadKeyId, bind_eq_ok, okOr_eq_ok, rejectIf_eq_ok, not_or, not_not]
  refine ⟨_, stripStart_append _ _, ?_, ?_⟩
  · rw [Json.utf8ByteSize_ofList, Json.length_textBytes_of_ascii fun c listed =>
      (plain_of_hexValue (digits c listed)).2, Radix.length_hexText]
  · rw [String.toList_ofList, List.all_eq_true]
    exact fun c listed => lowercase_of_hexValue (digits c listed)

namespace WorkloadKeyRegistration

/-- What the validator establishes. -/
structure Valid (registration : WorkloadKeyRegistration) : Prop where
  algorithm : registration.algorithm = "Ed25519"
  managed : registration.deployment.processingMode = .managed
  deployment : registration.deployment.validate = .ok ()
  serviceId : registration.deployment.serviceId = registration.serviceId
  keyId : managedWorkloadKeyId registration.publicKey = .ok registration.deployment.signerKeyId
  signed : ∃ publicKey, decodeBase64Url 32 registration.publicKey = .ok publicKey ∧
    verifySignedValue (Document.encode registration.deployment) publicKey = .ok ()

theorem validate_eq_ok {registration : WorkloadKeyRegistration} :
    registration.validate = .ok () ↔ registration.Valid := by
  simp only [validate, bind_eq_ok, rejectIf_eq_ok, not_or, not_not]
  constructor
  · rintro ⟨_, ⟨algorithm, managed⟩, _, deployment, _, -, _, serviceId, publicKey, decoded, _,
      keyId, _, rfl, signed⟩
    exact ⟨algorithm, managed, deployment, serviceId, keyId, publicKey, decoded, signed⟩
  · intro valid
    obtain ⟨publicKey, decoded, signed⟩ := valid.signed
    exact ⟨(), ⟨valid.algorithm, valid.managed⟩, (), valid.deployment, (),
      validateManagedWorkloadKeyId_of_key valid.keyId, (), valid.serviceId, publicKey, decoded, _,
      valid.keyId, (), rfl, signed⟩

/-- Two registrations of one deployment have one key. -/
theorem Valid.eq_of_deployment {first second : WorkloadKeyRegistration} (hfirst : first.Valid)
    (hsecond : second.Valid) (same : first.deployment = second.deployment)
    (keys : NoCollision (keyTextBytes first.publicKey) (keyTextBytes second.publicKey)) :
    first = second := by
  have named := same ▸ hfirst.keyId
  have publicKey := eq_of_managedWorkloadKeyId named hsecond.keyId keys
  have algorithm := hfirst.algorithm.trans hsecond.algorithm.symm
  have serviceId := hfirst.serviceId.symm.trans (same ▸ hsecond.serviceId)
  obtain ⟨_, _, _, _⟩ := first
  obtain ⟨_, _, _, _⟩ := second
  cases same
  cases publicKey
  cases algorithm
  cases serviceId
  rfl

end WorkloadKeyRegistration

namespace ManagedCandidateEncryptionGrantRequest

variable {request : ManagedCandidateEncryptionGrantRequest}

theorem verify_eq_ok {publicKey : SecretKey} :
    request.verify publicKey = .ok () ↔ request.validate = .ok () ∧
      managedWorkloadKeyId (encodeBase64Url publicKey.toList) = .ok request.signerKeyId ∧
      verifySignedValue (Document.encode request) publicKey = .ok () := by
  simp only [verify, bind_eq_ok, rejectIf_eq_ok, not_not]
  constructor
  · rintro ⟨_, valid, _, keyId, _, rfl, verifies⟩
    exact ⟨valid, keyId, verifies⟩
  · rintro ⟨valid, keyId, verifies⟩
    exact ⟨(), valid, _, keyId, (), rfl, verifies⟩

/-- What accepting a request for a registration establishes. -/
structure ForRegistration (request : ManagedCandidateEncryptionGrantRequest)
    (registration : WorkloadKeyRegistration) : Prop where
  valid : registration.Valid
  deploymentDigest : Canonical.digest registration.deployment = .ok request.deploymentDigest
  organizationId : request.organizationId = registration.deployment.organizationId
  projectId : request.projectId = registration.deployment.projectId
  serviceId : request.serviceId = registration.deployment.serviceId
  signerKeyId : request.signerKeyId = registration.deployment.signerKeyId
  signed : ∃ publicKey, decodeBase64Url 32 registration.publicKey = .ok publicKey ∧
    request.verify publicKey = .ok ()

theorem validateForRegistration_eq_ok {registration : WorkloadKeyRegistration} :
    request.validateForRegistration registration = .ok () ↔
      request.ForRegistration registration := by
  simp only [validateForRegistration, WorkloadKeyRegistration.deploymentDigest, bind_eq_ok,
    rejectIf_eq_ok, not_or, not_not]
  constructor
  · rintro ⟨_, accepted, _, digest, _, ⟨rfl, organization, project, service, signer⟩, signed⟩
    have valid := WorkloadKeyRegistration.validate_eq_ok.mp accepted
    exact ⟨valid, digest, organization, project, service, signer, signed⟩
  · rintro ⟨valid, digest, organization, project, service, signer, signed⟩
    have accepted := WorkloadKeyRegistration.validate_eq_ok.mpr valid
    exact ⟨(), accepted, _, digest, (), ⟨rfl, organization, project, service, signer⟩, signed⟩

end ManagedCandidateEncryptionGrantRequest

namespace WorkloadKeyRegistrationResult

theorem validateForRegistration_eq_ok {result : WorkloadKeyRegistrationResult}
    {registration : WorkloadKeyRegistration} :
    result.validateForRegistration registration = .ok () ↔ registration.Valid ∧
      managedWorkloadKeyId registration.publicKey = .ok result.keyId ∧
      result.serviceId = registration.serviceId ∧
      Canonical.digest registration.deployment = .ok result.deploymentDigest := by
  simp only [validateForRegistration, validate, WorkloadKeyRegistration.deploymentDigest,
    bind_eq_ok, rejectIf_eq_ok, not_or, not_not]
  constructor
  · rintro ⟨_, -, _, accepted, _, keyId, _, ⟨rfl, serviceId⟩, _, digest, rfl⟩
    have valid := WorkloadKeyRegistration.validate_eq_ok.mp accepted
    exact ⟨valid, keyId, serviceId, digest⟩
  · rintro ⟨valid, keyId, serviceId, digest⟩
    have accepted := WorkloadKeyRegistration.validate_eq_ok.mpr valid
    exact ⟨(), validateManagedWorkloadKeyId_of_key keyId, (), accepted, _, keyId, (),
      ⟨rfl, serviceId⟩, _, digest, rfl⟩

end WorkloadKeyRegistrationResult

/-- The registrations are told apart by their digests. -/
structure WorkloadKeyRegistration.Apart (first second : WorkloadKeyRegistration) : Prop where
  deployments : NoCollision (Canonical.text first.deployment) (Canonical.text second.deployment)
  keys : NoCollision (keyTextBytes first.publicKey) (keyTextBytes second.publicKey)

/-- A signed request is accepted for one registration, and so is the answer to a registration.
The key with which the request verifies is the registered one. -/
theorem registration_unique (registration : WorkloadKeyRegistration) :
    (∀ (request : ManagedCandidateEncryptionGrantRequest) (other : WorkloadKeyRegistration),
      request.validateForRegistration registration = .ok () →
      request.validateForRegistration other = .ok () → other.Apart registration →
        other = registration) ∧
    (∀ (request : ManagedCandidateEncryptionGrantRequest) (publicKey : SecretKey),
      request.validateForRegistration registration = .ok () →
      request.verify publicKey = .ok () →
      NoCollision (keyTextBytes (encodeBase64Url publicKey.toList))
        (keyTextBytes registration.publicKey) →
        decodeBase64Url 32 registration.publicKey = .ok publicKey) ∧
    ∀ (result : WorkloadKeyRegistrationResult) (other : WorkloadKeyRegistration),
      result.validateForRegistration registration = .ok () →
      result.validateForRegistration other = .ok () → other.Apart registration →
        other = registration := by
  refine ⟨?_, ?_, ?_⟩
  · intro request other hfirst hsecond apart
    have one := ManagedCandidateEncryptionGrantRequest.validateForRegistration_eq_ok.mp hfirst
    have two := ManagedCandidateEncryptionGrantRequest.validateForRegistration_eq_ok.mp hsecond
    have same := Canonical.eq_of_digest two.deploymentDigest one.deploymentDigest apart.deployments
    exact two.valid.eq_of_deployment one.valid same apart.keys
  · intro request publicKey accepted verified apart
    have right := ManagedCandidateEncryptionGrantRequest.validateForRegistration_eq_ok.mp accepted
    obtain ⟨-, named, -⟩ := ManagedCandidateEncryptionGrantRequest.verify_eq_ok.mp verified
    have same := eq_of_managedWorkloadKeyId named (right.signerKeyId ▸ right.valid.keyId) apart
    exact decodeBase64Url_eq_ok.mpr same.symm
  · intro result other hfirst hsecond apart
    obtain ⟨one, -, -, digest⟩ :=
      WorkloadKeyRegistrationResult.validateForRegistration_eq_ok.mp hfirst
    obtain ⟨two, -, -, digest'⟩ :=
      WorkloadKeyRegistrationResult.validateForRegistration_eq_ok.mp hsecond
    have same := Canonical.eq_of_digest digest' digest apart.deployments
    exact two.eq_of_deployment one same apart.keys

namespace AuthorizationSample

open Backend.Sample (id)

def keyText : String := encodeBase64Url key.toList

def workloadKeyId : String := "managed-workload-" ++ (Digest.of (keyTextBytes keyText)).toText

theorem derived_workloadKeyId : managedWorkloadKeyId keyText = .ok workloadKeyId :=
  managedWorkloadKeyId_eq_ok.mpr ⟨⟨key, decodeBase64Url_eq_ok.mpr rfl⟩, rfl⟩

theorem size_workloadKeyId :
    workloadKeyId.isEmpty = false ∧ workloadKeyId.utf8ByteSize ≤ 256 := by
  have valid := validateManagedWorkloadKeyId_of_key derived_workloadKeyId
  simp only [validateManagedWorkloadKeyId, bind_eq_ok, okOr_eq_ok, rejectIf_eq_ok, not_or,
    not_not] at valid
  obtain ⟨digits, split, size, -⟩ := valid
  have lead : "managed-workload-sha256:".utf8ByteSize = 24 := by decide
  have whole : workloadKeyId.utf8ByteSize = 88 := by
    rw [stripStart_eq_some.mp split, String.utf8ByteSize_append, lead, size]
  refine ⟨?_, by omega⟩
  rw [Bool.eq_false_iff]
  intro empty
  rw [String.isEmpty_iff.mp empty] at whole
  exact absurd whole (by decide)

def unsignedDeployment : Deployment :=
  { Backend.Sample.deployment with signerKeyId := workloadKeyId }

def deployment : Deployment := signed key unsignedDeployment

theorem decode_deployment :
    decodeBase64Url 64 deployment.signature = .ok (signature key unsignedDeployment) :=
  decode_signed key unsignedDeployment

theorem validate_deployment : deployment.validate = .ok () := by
  have valid := Backend.Sample.validate_deployment
  simp only [Deployment.validate, bind_eq_ok, rejectIf_eq_ok, pure_eq_ok, not_or] at valid ⊢
  obtain ⟨_, texts, _, -, _, subject, -⟩ := valid
  obtain ⟨repository, repositorySize, endpoint, endpointSize, path, relative, inside, -, -,
    revision, revisionSize⟩ := texts
  exact ⟨(), ⟨repository, repositorySize, endpoint, endpointSize, path, relative, inside,
    by rw [Bool.not_eq_true]; exact size_workloadKeyId.1, not_lt.mpr size_workloadKeyId.2, revision,
    revisionSize⟩, (), rfl, (), subject, _, decode_deployment, trivial⟩

def registration : WorkloadKeyRegistration where
  algorithm := "Ed25519"
  deployment
  publicKey := keyText
  serviceId := id 0

theorem valid_registration (checks : Checksums) : registration.Valid where
  algorithm := rfl
  managed := rfl
  deployment := validate_deployment
  serviceId := rfl
  keyId := derived_workloadKeyId
  signed := ⟨key, decodeBase64Url_eq_ok.mpr rfl,
    verifySignedValue_signed checks key (Deployment.exact _)⟩

def unsignedRequest : ManagedCandidateEncryptionGrantRequest where
  candidateIdentityDigest := default
  captureId := id 0
  cipherSuite := .v1
  deploymentDigest := Digest.of (Canonical.text deployment)
  organizationId := id 0
  processingMode := .managed
  projectId := id 0
  serviceId := id 0
  signature := ""
  signerKeyId := workloadKeyId

def request : ManagedCandidateEncryptionGrantRequest := signed key unsignedRequest

theorem decode_request :
    decodeBase64Url 64 request.signature = .ok (signature key unsignedRequest) :=
  decode_signed key unsignedRequest

theorem verify_request (checks : Checksums) : request.verify key = .ok () := by
  apply ManagedCandidateEncryptionGrantRequest.verify_eq_ok.mpr
  refine ⟨?_, derived_workloadKeyId, verifySignedValue_signed checks key ?_⟩
  · simp only [ManagedCandidateEncryptionGrantRequest.validate, bind_eq_ok, rejectIf_eq_ok, not_not]
    exact ⟨(), rfl, (), validateManagedWorkloadKeyId_of_key derived_workloadKeyId, _,
      decode_request, rfl⟩
  · change ManagedCandidateEncryptionGrantRequest.codec.exact _ = true
    simp [ManagedCandidateEncryptionGrantRequest.codec, ProcessingMode.codec, Format.codec,
      Digest.codec, TypedId.codec]

theorem accepted_request (checks : Checksums) :
    request.validateForRegistration registration = .ok () := by
  apply ManagedCandidateEncryptionGrantRequest.validateForRegistration_eq_ok.mpr
  exact ⟨valid_registration checks, Canonical.digest_of_exact (Deployment.exact _), rfl, rfl, rfl,
    rfl, key, decodeBase64Url_eq_ok.mpr rfl, verify_request checks⟩

end AuthorizationSample

omit [Primitives] in
/-- A request verifies with the registered key. -/
theorem registration_unique_sample :
    letI := Backend.Sample.marked
    AuthorizationSample.request.validateForRegistration AuthorizationSample.registration =
        .ok () ∧
      decodeBase64Url 32 AuthorizationSample.registration.publicKey =
        .ok AuthorizationSample.key := by
  let _ := Backend.Sample.marked
  have accepted := AuthorizationSample.accepted_request AuthorizationSample.checksums_marked
  have verified := AuthorizationSample.verify_request AuthorizationSample.checksums_marked
  exact ⟨accepted, (registration_unique AuthorizationSample.registration).2.1 _ _ accepted verified
    fun _ => rfl⟩

/-! ## What a worker opens -/

/-- The bytes of one object that were handed out. -/
def bytesOf (calls : List ChunkCall) (descriptor : LogicalObject) : Bytes :=
  (calls.filter fun call => call.descriptor = descriptor).flatMap ChunkCall.plaintext

omit [Primitives] in
theorem bytesOf_append (first second : List ChunkCall) (descriptor : LogicalObject) :
    bytesOf (first ++ second) descriptor =
      bytesOf first descriptor ++ bytesOf second descriptor := by
  rw [bytesOf, List.filter_append, List.flatMap_append]
  rfl

omit [Primitives] in
theorem bytesOf_same {calls : List ChunkCall} {descriptor : LogicalObject}
    (all : ∀ call ∈ calls, call.descriptor = descriptor) :
    bytesOf calls descriptor = calls.flatMap ChunkCall.plaintext := by
  rw [bytesOf, List.filter_eq_self.mpr fun call listed => decide_eq_true (all call listed)]

omit [Primitives] in
theorem bytesOf_other {calls : List ChunkCall} {descriptor other : LogicalObject}
    (all : ∀ call ∈ calls, call.descriptor = other) (apart : other ≠ descriptor) :
    bytesOf calls descriptor = [] := by
  have none : calls.filter (fun call => call.descriptor = descriptor) = [] := by
    rw [List.filter_eq_nil_iff]
    intro call listed
    rw [all call listed, decide_eq_true_eq]
    exact apart
  rw [bytesOf, none]
  rfl

/-- The calls hand out the bytes of every object, and nothing of any other. -/
theorem bytesOf_streamed {ciphertext : OrderedMap Digest Bytes} {objects : List EncryptedObject}
    {handed : List (List ChunkCall)}
    (distinct : objects.Pairwise fun first second => first.descriptor ≠ second.descriptor)
    (all : List.Forall₂ (StreamsObject ciphertext) objects handed) (descriptor : LogicalObject) :
    (descriptor ∉ objects.map EncryptedObject.descriptor →
      bytesOf handed.flatten descriptor = []) ∧
    (descriptor ∈ objects.map EncryptedObject.descriptor →
      Digest.of (bytesOf handed.flatten descriptor) = descriptor.plainDigest) := by
  induction all with
  | nil => exact ⟨fun _ => rfl, fun listed => absurd listed List.not_mem_nil⟩
  | @cons object calls rest others one _ ih =>
      obtain ⟨first, distinct⟩ := List.pairwise_cons.mp distinct
      obtain ⟨missing, present⟩ := ih distinct
      rw [List.flatten_cons, bytesOf_append, List.map_cons, List.mem_cons, not_or]
      by_cases same : object.descriptor = descriptor
      · subst same
        have last : object.descriptor ∉ rest.map EncryptedObject.descriptor := by
          intro listed
          obtain ⟨other, among, equal⟩ := List.mem_map.mp listed
          exact first other among equal.symm
        rw [bytesOf_same one.descriptor, missing last, List.append_nil]
        exact ⟨fun apart => absurd rfl apart.1, fun _ => one.digest⟩
      · rw [bytesOf_other one.descriptor same, List.nil_append]
        refine ⟨fun apart => missing apart.2, fun listed => present ?_⟩
        exact listed.resolve_left (Ne.symm same)

/-- The capture grant of an upload is for its ciphertext. There is one cipher suite. -/
structure ManagedCandidateUploadRequest.Bound (upload : ManagedCandidateUploadRequest) : Prop where
  candidateIdentityDigest : upload.captureGrant.candidateIdentityDigest =
    upload.ciphertextIdentity.candidateIdentityDigest
  candidateKeyReference : upload.captureGrant.candidateKeyReference =
    upload.ciphertextIdentity.candidateKeyReference
  captureId : upload.captureGrant.captureId = upload.ciphertextIdentity.captureId
  organizationId : upload.captureGrant.organizationId = upload.ciphertextIdentity.organizationId
  projectId : upload.captureGrant.projectId = upload.ciphertextIdentity.projectId
  serviceId : upload.captureGrant.serviceId = upload.ciphertextIdentity.serviceId
  processingMode : upload.captureGrant.processingMode = upload.ciphertextIdentity.processingMode

/-- What the validator of an upload establishes. -/
structure ManagedCandidateUploadRequest.Valid (upload : ManagedCandidateUploadRequest) :
    Prop where
  captureGrant : upload.captureGrant.validate = .ok ()
  ciphertextIdentity : upload.ciphertextIdentity.validate = .ok ()
  bound : upload.Bound
  encryptedCandidateDigest :
    Canonical.digest upload.ciphertextIdentity = .ok upload.encryptedCandidateDigest

theorem ManagedCandidateUploadRequest.validate_eq_ok {upload : ManagedCandidateUploadRequest} :
    upload.validate = .ok () ↔ upload.Valid := by
  simp only [validate, bind_eq_ok, rejectIf_eq_ok, not_or, not_not]
  constructor
  · rintro ⟨_, grant, _, ciphertext, _, ⟨digest, reference, capture, organization, project,
      service, mode, -⟩, _, written, rfl⟩
    exact ⟨grant, ciphertext, ⟨digest, reference, capture, organization, project, service, mode⟩,
      written⟩
  · intro valid
    have bound := valid.bound
    exact ⟨(), valid.captureGrant, (), valid.ciphertextIdentity, (),
      ⟨bound.candidateIdentityDigest, bound.candidateKeyReference, bound.captureId,
        bound.organizationId, bound.projectId, bound.serviceId, bound.processingMode, trivial⟩, _,
      valid.encryptedCandidateDigest, rfl⟩

/-- A candidate that was uploaded under a capture grant and opened to its end. -/
structure CandidateOpening where
  upload : ManagedCandidateUploadRequest
  ciphertext : OrderedMap Digest Bytes
  candidateKey : SecretKey
  consumer : ChunkConsumer
  manifest : ManagedCandidateManifest
  calls : List ChunkCall
  uploaded : upload.validate = .ok ()
  opened : openManagedCandidate consumer candidateKey upload.ciphertextIdentity ciphertext [] =
    .ok manifest calls

namespace CandidateOpening

/-- The capture grant of the upload names what was opened. -/
structure Named (opening : CandidateOpening) : Prop where
  candidateIdentityDigest : Canonical.digest opening.manifest.candidateIdentity =
    .ok opening.upload.captureGrant.candidateIdentityDigest
  candidateKeyReference :
    opening.manifest.candidateKeyReference = opening.upload.captureGrant.candidateKeyReference
  captureId :
    opening.manifest.candidateIdentity.captureId = opening.upload.captureGrant.captureId
  organizationId :
    opening.manifest.candidateIdentity.organizationId = opening.upload.captureGrant.organizationId
  projectId :
    opening.manifest.candidateIdentity.projectId = opening.upload.captureGrant.projectId
  serviceId :
    opening.manifest.candidateIdentity.serviceId = opening.upload.captureGrant.serviceId

/-- The openings are told apart by the digests of what was opened. -/
structure Apart (first second : CandidateOpening) : Prop where
  candidates : NoCollision (Canonical.text first.manifest.candidateIdentity)
    (Canonical.text second.manifest.candidateIdentity)
  objects : ∀ descriptor, NoCollision (bytesOf first.calls descriptor)
    (bytesOf second.calls descriptor)

/-- What opening a candidate to its end establishes. -/
structure Opens (opening : CandidateOpening) : Prop where
  valid : opening.upload.ciphertextIdentity.Valid
  binding :
    validateManagedManifestBinding opening.manifest opening.upload.ciphertextIdentity = .ok ()
  streams : ∃ handed : List (List ChunkCall), opening.calls = handed.flatten ∧
    List.Forall₂ (StreamsObject opening.ciphertext) opening.upload.ciphertextIdentity.objects handed

theorem opens (opening : CandidateOpening) : opening.Opens := by
  have ran := opening.opened
  simp only [openManagedCandidate, Update.bind_eq_ok, Update.attempt_eq_ok,
    Update.pure_run] at ran
  obtain ⟨_, _, ⟨accepted, rfl⟩, _, _, ⟨-, rfl⟩, manifest, _, ⟨read, rfl⟩, _, between, handed,
    same⟩ := ran
  cases same
  have valid := ManagedCandidateCiphertextIdentity.validate_eq_ok.mp accepted
  simp only [openManagedManifest, bind_eq_ok, pure_eq_ok] at read
  obtain ⟨_, -, _, -, _, -, _, -, _, -, _, -, _, -, _, binding, same⟩ := read
  obtain ⟨parts, calls, all⟩ := openManagedObjects_ok
    (fun object listed => validateChunks_eq_ok.mp (valid.objects object listed).2) handed
  exact ⟨valid, same ▸ binding, parts, calls, all⟩

/-- The manifest and the ciphertext name the identity of the opened candidate. -/
theorem identityDigest (opening : CandidateOpening) :
    Canonical.digest opening.manifest.candidateIdentity =
      .ok opening.upload.ciphertextIdentity.candidateIdentityDigest := by
  have valid := (validateManagedManifestBinding_eq_ok.mp opening.opens.binding).1
  have digest := (validateManagedManifestBinding_eq_ok.mp opening.opens.binding).2.1
  simp only [ManagedCandidateManifest.validate, bind_eq_ok, rejectIf_eq_ok, not_not] at valid
  obtain ⟨_, -, _, -, identity, written, same⟩ := valid
  rw [written, same, digest]

theorem named (opening : CandidateOpening) : opening.Named := by
  obtain ⟨-, -, reference, -, capture, organization, -, project, -, service, -⟩ :=
    validateManagedManifestBinding_eq_ok.mp opening.opens.binding
  have bound := (ManagedCandidateUploadRequest.validate_eq_ok.mp opening.uploaded).bound
  constructor
  case candidateIdentityDigest => rw [opening.identityDigest, bound.candidateIdentityDigest]
  case candidateKeyReference => rw [reference, bound.candidateKeyReference]
  case captureId => rw [capture, bound.captureId]
  case organizationId => rw [organization, bound.organizationId]
  case projectId => rw [project, bound.projectId]
  case serviceId => rw [service, bound.serviceId]

/-- The bytes of an object of the candidate have its digest, and no other object has any. -/
theorem streamed (opening : CandidateOpening) (descriptor : LogicalObject) :
    (descriptor ∉ opening.manifest.candidateIdentity.objects →
      bytesOf opening.calls descriptor = []) ∧
    (descriptor ∈ opening.manifest.candidateIdentity.objects →
      Digest.of (bytesOf opening.calls descriptor) = descriptor.plainDigest) := by
  obtain ⟨valid, binding, handed, calls, all⟩ := opening.opens
  have objects := (validateManagedManifestBinding_eq_ok.mp binding).2.2.2.2.2.2.2.2.2.2
  have distinct : opening.upload.ciphertextIdentity.objects.Pairwise
      fun first second => first.descriptor ≠ second.descriptor := by
    apply (List.isChain_iff_pairwise.mp valid.ordered).imp
    intro first second below same
    rw [same] at below
    exact lt_irrefl _ below
  rw [objects, calls]
  exact bytesOf_streamed distinct all descriptor

/-- Openings of one candidate identity hand out the same bytes. -/
theorem bytesOf_eq {first second : CandidateOpening}
    (same : first.manifest.candidateIdentity = second.manifest.candidateIdentity)
    (apart : first.Apart second) (descriptor : LogicalObject) :
    bytesOf first.calls descriptor = bytesOf second.calls descriptor := by
  have one := first.streamed descriptor
  have two := second.streamed descriptor
  rw [same] at one
  by_cases listed : descriptor ∈ second.manifest.candidateIdentity.objects
  · exact apart.objects descriptor ((one.2 listed).trans (two.2 listed).symm)
  · rw [one.1 listed, two.1 listed]

/-- Openings of one ciphertext have one manifest. -/
theorem manifest_eq {first second : CandidateOpening}
    (same : first.upload.ciphertextIdentity = second.upload.ciphertextIdentity)
    (apart : first.Apart second) : first.manifest = second.manifest := by
  obtain ⟨-, digest, reference, -⟩ :=
    validateManagedManifestBinding_eq_ok.mp first.opens.binding
  obtain ⟨-, digest', reference', -⟩ :=
    validateManagedManifestBinding_eq_ok.mp second.opens.binding
  have identity := Canonical.eq_of_digest (same ▸ first.identityDigest) second.identityDigest
    apart.candidates
  have digests := digest.trans (same ▸ digest'.symm)
  have references := reference.trans (same ▸ reference'.symm)
  generalize first.manifest = one at *
  generalize second.manifest = two at *
  obtain ⟨_, _, _, suite, format⟩ := one
  obtain ⟨_, _, _, suite', format'⟩ := two
  cases suite
  cases suite'
  cases format
  cases format'
  cases identity
  cases digests
  cases references
  rfl

end CandidateOpening

/-- A key was granted to a worker, who opened the candidate of the grant with it. -/
structure GrantedOpening (keyGrant : ManagedKeyGrant) extends CandidateOpening where
  workerGrant : ManagedWorkerGrant
  now : Timestamp
  workerPublicKey : SecretKey
  keyPublicKey : SecretKey
  granted : verifyManagedWorkerKeyGrants workerGrant keyGrant now workerPublicKey keyPublicKey =
    .ok ()
  encrypted : upload.encryptedCandidateDigest = keyGrant.encryptedCandidateDigest

/-- The openings are told apart by the digests of the grants, of the ciphertexts and of what was
opened. -/
structure GrantedOpening.Apart {keyGrant : ManagedKeyGrant}
    (first second : GrantedOpening keyGrant) : Prop where
  grants : NoCollision (Canonical.text first.workerGrant) (Canonical.text second.workerGrant)
  ciphertexts : NoCollision (Canonical.text first.upload.ciphertextIdentity)
    (Canonical.text second.upload.ciphertextIdentity)
  opened : first.toCandidateOpening.Apart second.toCandidateOpening

/-- Whatever is opened under one key grant is one candidate of one worker grant, byte for byte,
and it is what the capture grant of its upload names. -/
theorem granted_opening_fixed {keyGrant : ManagedKeyGrant} (first second : GrantedOpening keyGrant)
    (apart : first.Apart second) :
    first.workerGrant = second.workerGrant ∧
      first.upload.ciphertextIdentity = second.upload.ciphertextIdentity ∧
      first.manifest = second.manifest ∧
      (∀ descriptor, bytesOf first.calls descriptor = bytesOf second.calls descriptor) ∧
      first.toCandidateOpening.Named ∧ second.toCandidateOpening.Named := by
  obtain ⟨-, -, -, one, -⟩ := verifyManagedWorkerKeyGrants_eq_ok.mp first.granted
  obtain ⟨-, -, -, two, -⟩ := verifyManagedWorkerKeyGrants_eq_ok.mp second.granted
  have workers := Canonical.eq_of_digest one two apart.grants
  have stored := (ManagedCandidateUploadRequest.validate_eq_ok.mp
    first.uploaded).encryptedCandidateDigest
  have stored' := (ManagedCandidateUploadRequest.validate_eq_ok.mp
    second.uploaded).encryptedCandidateDigest
  rw [first.encrypted] at stored
  rw [second.encrypted] at stored'
  have identities := Canonical.eq_of_digest stored stored' apart.ciphertexts
  have manifests := CandidateOpening.manifest_eq identities apart.opened
  exact ⟨workers, identities, manifests, CandidateOpening.bytesOf_eq
    (congrArg ManagedCandidateManifest.candidateIdentity manifests) apart.opened,
    first.named, second.named⟩

namespace AuthorizationSample

open Backend.Sample (id)
open StoredSample (reference)
open OpenedSample (cipher)

/-- The ciphertext of a valid identity has no large integer. -/
theorem exact_cipher : Document.Exact cipher := by
  have valid := ManagedCandidateCiphertextIdentity.validate_eq_ok.mp OpenedSample.accepted
  have objects : cipher.objects.all EncryptedObject.codec.exact = true :=
    List.all_eq_true.mpr fun object listed => EncryptedObject.exact (valid.objects object listed).1
      (validateChunks_eq_ok.mp (valid.objects object listed).2)
  have total : cipher.totalCiphertextBytes.toNat ≤ Json.maxExactInteger := by
    rw [← valid.total.1]
    exact valid.total.2.trans (by decide)
  have stored := valid.manifest
  rw [ManifestUploadObject.validate, UploadObject.validate, rejectIf_eq_ok _ _ (), not_or,
    not_not] at stored
  have size : cipher.manifestObject.cipherSize.toNat ≤ Json.maxExactInteger :=
    stored.1.2.trans (by decide)
  have manifest : ManifestUploadObject.codec.exact cipher.manifestObject = true := by
    simp only [ManifestUploadObject.codec, Digest.codec, TypedId.codec, Codec.exact_record,
      Fields.exact_required, Fields.exact_done, Codec.exact_text, Codec.exact_string,
      Codec.exact_uint64, Bool.and_true, Bool.true_and, decide_eq_true_eq]
    exact size
  change ManagedCandidateCiphertextIdentity.codec.exact cipher = true
  simp [ManagedCandidateCiphertextIdentity.codec, ProcessingMode.codec, Format.codec, Digest.codec,
    TypedId.codec, objects, manifest, total]

def captureGrant : ManagedCandidateCaptureGrant where
  candidateIdentityDigest := cipher.candidateIdentityDigest
  candidateKeyReference := reference
  captureId := id 1
  cipherSuite := .v1
  expiresAt := expires
  format := .v1
  grantId := reference
  notBefore := issued
  operation := .v1
  organizationId := id 1
  processingMode := .managed
  projectId := id 1
  serviceId := id 1
  signature := encodeBase64Url (Vector.replicate 64 (0 : UInt8)).toList
  signerKeyId := "key"

theorem validate_captureGrant : captureGrant.validate = .ok () := by
  have size : (encodeBase64Url (Vector.replicate 64 (0 : UInt8)).toList).utf8ByteSize = 86 := by
    rw [utf8ByteSize_encodeBase64Url, Vector.length_toList]
  have signer : "key".isEmpty = false ∧ "key".utf8ByteSize ≤ 256 := by decide
  simp only [ManagedCandidateCaptureGrant.validate, bind_eq_ok, rejectIf_eq_ok, not_or, not_not,
    Bool.not_eq_true, not_lt, not_le]
  refine ⟨(), StoredSample.validate_reference, (), StoredSample.validate_reference, (),
    ⟨rfl, signer.1, signer.2, size, ?_⟩, _, decodeBase64Url_eq_ok.mpr rfl, rfl⟩
  have begins : captureGrant.notBefore = issued := rfl
  have ends : captureGrant.expiresAt = expires := rfl
  rw [begins, ends]
  exact not_le.mp (not_or.mp lasts).1

def upload : ManagedCandidateUploadRequest where
  captureGrant
  ciphertextIdentity := cipher
  encryptedCandidateDigest := Digest.of (Canonical.text cipher)

theorem validate_upload : upload.validate = .ok () :=
  ManagedCandidateUploadRequest.validate_eq_ok.mpr ⟨validate_captureGrant, OpenedSample.accepted,
    ⟨rfl, rfl, rfl, rfl, rfl, rfl, rfl⟩, Canonical.digest_of_exact exact_cipher⟩

def unsignedWorkerGrant : ManagedWorkerGrant where
  candidateIdentityDigest := cipher.candidateIdentityDigest
  candidateKeyReference := reference
  capabilities := []
  captureId := id 1
  encryptedCandidateDigest := Digest.of (Canonical.text cipher)
  expiresAt := expires
  format := .v1
  grantId := reference
  leaseId := id 1
  notBefore := issued
  operation := .replay
  organizationId := id 1
  processingMode := .managed
  projectId := id 1
  serviceId := id 1
  signature := ""
  signerKeyId := "key"
  workerId := "worker"
  workerRelease := default

def workerGrant : ManagedWorkerGrant := signed key unsignedWorkerGrant

def unsignedKeyGrant : ManagedKeyGrant where
  candidateIdentityDigest := cipher.candidateIdentityDigest
  candidateKeyReference := reference
  capabilities := []
  captureId := id 1
  encryptedCandidateDigest := Digest.of (Canonical.text cipher)
  expiresAt := expires
  format := .v1
  grantId := reference
  leaseId := id 1
  notBefore := issued
  operation := .replay
  organizationId := id 1
  processingMode := .managed
  projectId := id 1
  serviceId := id 1
  signature := ""
  signerKeyId := "key"
  workerId := "worker"
  workerGrantDigest := Digest.of (Canonical.text workerGrant)
  workerRelease := default

def keyGrant : ManagedKeyGrant := signed key unsignedKeyGrant

omit [Primitives] in
theorem exact_workerGrant (grant : ManagedWorkerGrant) : Document.Exact grant := by
  change ManagedWorkerGrant.codec.exact grant = true
  simp [ManagedWorkerGrant.codec, ManagedOperation.codec, ProcessingMode.codec, Format.codec,
    Digest.codec, TypedId.codec, Timestamp.codec]

omit [Primitives] in
theorem exact_keyGrant (grant : ManagedKeyGrant) : Document.Exact grant := by
  change ManagedKeyGrant.codec.exact grant = true
  simp [ManagedKeyGrant.codec, ManagedOperation.codec, ProcessingMode.codec, Format.codec,
    Digest.codec, TypedId.codec, Timestamp.codec]

omit [Primitives] in
theorem validate_opaqueReference : validateOpaqueIdentity reference = .ok () := by
  simp only [validateOpaqueIdentity, bind_eq_ok]
  exact ⟨_, decodeBase64Url_eq_ok.mpr rfl, rfl⟩

omit [Primitives] in
theorem validate_signedGrant {text : String} {bytes : Vector UInt8 64}
    (decoded : decodeBase64Url 64 text = .ok bytes) :
    validateSignedGrant [] issued expires .managed text "key" "worker" = .ok () := by
  have checked : ¬ (ProcessingMode.managed ≠ .managed ∨ issued ≥ expires ∨
      ([] : List String).length > 64 ∨ ¬ ([] : List String).IsChain (· < ·) ∨ "key".isEmpty ∨
      "key".utf8ByteSize > 256 ∨ "worker".isEmpty ∨ "worker".utf8ByteSize > 256) := by decide
  simp only [validateSignedGrant, bind_eq_ok]
  exact ⟨(), (rejectIf_eq_ok _ _ ()).mpr checked, bytes, decoded, rfl⟩

theorem verify_grants (checks : Checksums) {now : Timestamp} (begun : issued ≤ now)
    (going : now < expires) :
    verifyManagedWorkerKeyGrants workerGrant keyGrant now key key = .ok () := by
  have worker : decodeBase64Url 64 workerGrant.signature =
    .ok (signature key unsignedWorkerGrant) := decode_signed key unsignedWorkerGrant
  have granted : decodeBase64Url 64 keyGrant.signature =
    .ok (signature key unsignedKeyGrant) := decode_signed key unsignedKeyGrant
  apply verifyManagedWorkerKeyGrants_eq_ok.mpr
  refine ⟨?_, ?_, ⟨⟨begun, going⟩, ⟨begun, going, le_rfl⟩, rfl, rfl, rfl, rfl, rfl, rfl, rfl, rfl,
    rfl, rfl, rfl, rfl, rfl⟩, Canonical.digest_of_exact (exact_workerGrant _),
    verifySignedValue_signed checks key (exact_workerGrant _),
    verifySignedValue_signed checks key (exact_keyGrant _)⟩
  · simp only [ManagedWorkerGrant.validate, bind_eq_ok]
    exact ⟨(), validate_opaqueReference, (), validate_opaqueReference, validate_signedGrant worker⟩
  · simp only [ManagedKeyGrant.validate, bind_eq_ok]
    exact ⟨(), validate_opaqueReference, (), validate_opaqueReference,
      validate_signedGrant granted⟩

end AuthorizationSample

omit [Primitives] in
/-- A candidate of five empty manifests is opened twice under one key grant. -/
theorem granted_opening_fixed_sample :
    letI := OpenedSample.leading
    ∃ first second : GrantedOpening AuthorizationSample.keyGrant,
      first.now ≠ second.now ∧ first.manifest = second.manifest := by
  let _ := OpenedSample.leading
  have checks : AuthorizationSample.Checksums :=
    @AuthorizationSample.Checksums.mk OpenedSample.leading (fun _ => rfl)
      fun _ _ => decide_eq_true rfl
  obtain ⟨ciphertext, calls, opened⟩ := OpenedSample.exists_openManagedCandidate
    OpenedSample.leads_leading (Vector.replicate 32 0)
  let opening : CandidateOpening :=
    { upload := AuthorizationSample.upload, ciphertext, candidateKey := Vector.replicate 32 0
      consumer := fun _ _ => .ok (), manifest := OpenedSample.manifest, calls
      uploaded := AuthorizationSample.validate_upload, opened }
  let release (now : Timestamp) (begun : AuthorizationSample.issued ≤ now)
      (going : now < AuthorizationSample.expires) : GrantedOpening AuthorizationSample.keyGrant :=
    { toCandidateOpening := opening
      workerGrant := AuthorizationSample.workerGrant
      now
      workerPublicKey := AuthorizationSample.key
      keyPublicKey := AuthorizationSample.key
      granted := AuthorizationSample.verify_grants checks begun going
      encrypted := rfl }
  let first := release AuthorizationSample.used (by decide) (by decide)
  let second := release AuthorizationSample.usedAgain (by decide) (by decide)
  have apart : AuthorizationSample.used ≠ AuthorizationSample.usedAgain := by decide
  refine ⟨first, second, apart, (granted_opening_fixed first second ?_).2.2.1⟩
  exact ⟨fun _ => rfl, fun _ => rfl, fun _ => rfl, fun _ _ => rfl⟩

end Reproit
