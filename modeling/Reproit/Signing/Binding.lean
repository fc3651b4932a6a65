/-
# A signature is bound to one document of one type

Twelve types of documents are signed in one way and may be signed with one key.  Eleven of
them name their format and no two name the same one, so that the bytes under a signature
belong to one type and, within the type, to one document.
-/

import Reproit.Cloud.Grants
import Reproit.Core.Model.Candidate
import Reproit.Core.Model.Environment
import Reproit.Core.Model.Executor
import Reproit.Core.Model.ObservationFence
import Reproit.Core.Model.Support
import Reproit.Core.Signed

namespace Reproit

/-! ## The signed types -/

instance : SignedDocument Deployment where
  signature := Deployment.signature
  withSignature deployment signature := { deployment with signature }
  signature_withSignature _ _ := rfl
  withSignature_signature _ := rfl
  withSignature_withSignature _ _ _ := rfl
  format := some "reproit.deployment.v1"
  signature_encode _ := by
    apply memberText_encode rfl
    simp [Codec.encode_string]
  clear_encode _ := by
    apply clearSignature_of_rewrites rfl rfl
    simp [clearMember, Codec.encode_string]
  format_encode _ := by
    apply memberText_encode rfl
    simp [Format.encode_codec]

instance : SignedDocument NativeObservationFenceReceipt where
  signature := NativeObservationFenceReceipt.signature
  withSignature receipt signature := { receipt with signature }
  signature_withSignature _ _ := rfl
  withSignature_signature _ := rfl
  withSignature_withSignature _ _ _ := rfl
  format := some "reproit.native-observation-fence-receipt.v1"
  signature_encode _ := by
    apply memberText_encode rfl
    simp [Codec.encode_string]
  clear_encode _ := by
    apply clearSignature_of_rewrites rfl rfl
    simp [clearMember, Codec.encode_string]
  format_encode _ := by
    apply memberText_encode rfl
    simp [Format.encode_codec]

instance : SignedDocument UploadEnvelope where
  signature := UploadEnvelope.signature
  withSignature envelope signature := { envelope with signature }
  signature_withSignature _ _ := rfl
  withSignature_signature _ := rfl
  withSignature_withSignature _ _ _ := rfl
  format := some "reproit.upload.v1"
  signature_encode _ := by
    apply memberText_encode rfl
    simp [Fields.skipped, Fields.skippedList, Fields.mem_encode_field, Codec.encode_string]
  clear_encode _ := by
    apply clearSignature_of_rewrites rfl rfl
    simp [Fields.skipped, Fields.skippedList, Fields.Rewrites, clearMember, Codec.encode_string]
  format_encode _ := by
    apply memberText_encode rfl
    simp [Fields.skipped, Fields.skippedList, Fields.mem_encode_field, Format.encode_codec]

instance : SignedDocument SupportRegistry where
  signature := SupportRegistry.signature
  withSignature registry signature := { registry with signature }
  signature_withSignature _ _ := rfl
  withSignature_signature _ := rfl
  withSignature_withSignature _ _ _ := rfl
  format := some "reproit.support-registry.v1"
  signature_encode _ := by
    apply memberText_encode rfl
    simp [Codec.encode_string]
  clear_encode _ := by
    apply clearSignature_of_rewrites rfl rfl
    simp [clearMember, Codec.encode_string]
  format_encode _ := by
    apply memberText_encode rfl
    simp [Format.encode_codec]

instance : SignedDocument EnvironmentPolicy where
  signature := EnvironmentPolicy.signature
  withSignature policy signature := { policy with signature }
  signature_withSignature _ _ := rfl
  withSignature_signature _ := rfl
  withSignature_withSignature _ _ _ := rfl
  format := some "reproit.environment-policy.v1"
  signature_encode _ := by
    apply memberText_encode rfl
    simp [Codec.encode_string]
  clear_encode _ := by
    apply clearSignature_of_rewrites rfl rfl
    simp [clearMember, Codec.encode_string]
  format_encode _ := by
    apply memberText_encode rfl
    simp [Format.encode_codec]

instance : SignedDocument ExecutorCapabilityEvidence where
  signature := ExecutorCapabilityEvidence.signature
  withSignature evidence signature := { evidence with signature }
  signature_withSignature _ _ := rfl
  withSignature_signature _ := rfl
  withSignature_withSignature _ _ _ := rfl
  format := some "reproit.executor-capability-evidence.v1"
  signature_encode _ := by
    apply memberText_encode rfl
    simp [Codec.encode_string]
  clear_encode _ := by
    apply clearSignature_of_rewrites rfl rfl
    simp [clearMember, Codec.encode_string]
  format_encode _ := by
    apply memberText_encode rfl
    simp [Format.encode_codec]

instance : SignedDocument ExecutionGrant where
  signature := ExecutionGrant.signature
  withSignature grant signature := { grant with signature }
  signature_withSignature _ _ := rfl
  withSignature_signature _ := rfl
  withSignature_withSignature _ _ _ := rfl
  format := some "reproit.execution-grant.v1"
  signature_encode _ := by
    apply memberText_encode rfl
    simp [Codec.encode_string]
  clear_encode _ := by
    apply clearSignature_of_rewrites rfl rfl
    simp [clearMember, Codec.encode_string]
  format_encode _ := by
    apply memberText_encode rfl
    simp [Format.encode_codec]

instance : SignedDocument FuzzContext where
  signature := FuzzContext.signature
  withSignature context signature := { context with signature }
  signature_withSignature _ _ := rfl
  withSignature_signature _ := rfl
  withSignature_withSignature _ _ _ := rfl
  format := some "reproit.fuzz-context.v1"
  signature_encode _ := by
    apply memberText_encode rfl
    simp [Codec.encode_string]
  clear_encode _ := by
    apply clearSignature_of_rewrites rfl rfl
    simp [clearMember, Codec.encode_string]
  format_encode _ := by
    apply memberText_encode rfl
    simp [Format.encode_codec]

instance : SignedDocument ManagedCandidateCaptureGrant where
  signature := ManagedCandidateCaptureGrant.signature
  withSignature grant signature := { grant with signature }
  signature_withSignature _ _ := rfl
  withSignature_signature _ := rfl
  withSignature_withSignature _ _ _ := rfl
  format := some "reproit.managed-candidate-capture-grant.v1"
  signature_encode _ := by
    apply memberText_encode rfl
    simp [Codec.encode_string]
  clear_encode _ := by
    apply clearSignature_of_rewrites rfl rfl
    simp [clearMember, Codec.encode_string]
  format_encode _ := by
    apply memberText_encode rfl
    simp [Format.encode_codec]

instance : SignedDocument ManagedCandidateEncryptionGrantRequest where
  signature := ManagedCandidateEncryptionGrantRequest.signature
  withSignature request signature := { request with signature }
  signature_withSignature _ _ := rfl
  withSignature_signature _ := rfl
  withSignature_withSignature _ _ _ := rfl
  format := none
  signature_encode _ := by
    apply memberText_encode rfl
    simp [Codec.encode_string]
  clear_encode _ := by
    apply clearSignature_of_rewrites rfl rfl
    simp [clearMember, Codec.encode_string]
  format_encode _ := by
    apply memberText_encode_eq_none rfl
    decide

instance : SignedDocument ManagedWorkerGrant where
  signature := ManagedWorkerGrant.signature
  withSignature grant signature := { grant with signature }
  signature_withSignature _ _ := rfl
  withSignature_signature _ := rfl
  withSignature_withSignature _ _ _ := rfl
  format := some "reproit.managed-worker-grant.v1"
  signature_encode _ := by
    apply memberText_encode rfl
    simp [Codec.encode_string]
  clear_encode _ := by
    apply clearSignature_of_rewrites rfl rfl
    simp [clearMember, Codec.encode_string]
  format_encode _ := by
    apply memberText_encode rfl
    simp [Format.encode_codec]

instance : SignedDocument ManagedKeyGrant where
  signature := ManagedKeyGrant.signature
  withSignature grant signature := { grant with signature }
  signature_withSignature _ _ := rfl
  withSignature_signature _ := rfl
  withSignature_withSignature _ _ _ := rfl
  format := some "reproit.managed-key-grant.v1"
  signature_encode _ := by
    apply memberText_encode rfl
    simp [Codec.encode_string]
  clear_encode _ := by
    apply clearSignature_of_rewrites rfl rfl
    simp [clearMember, Codec.encode_string]
  format_encode _ := by
    apply memberText_encode rfl
    simp [Format.encode_codec]

/-! ## Any signed document -/

/-- The types of the signed documents. -/
inductive SignedKind
  | deployment | nativeObservationFenceReceipt | uploadEnvelope | supportRegistry
  | environmentPolicy | executorCapabilityEvidence | executionGrant | fuzzContext
  | managedCandidateCaptureGrant | managedCandidateEncryptionGrantRequest | managedWorkerGrant
  | managedKeyGrant
  deriving DecidableEq

namespace SignedKind

def all : List SignedKind :=
  [.deployment, .nativeObservationFenceReceipt, .uploadEnvelope, .supportRegistry,
    .environmentPolicy, .executorCapabilityEvidence, .executionGrant, .fuzzContext,
    .managedCandidateCaptureGrant, .managedCandidateEncryptionGrantRequest, .managedWorkerGrant,
    .managedKeyGrant]

theorem mem_all (kind : SignedKind) : kind ∈ all := by cases kind <;> decide

/-- The documents of a kind. -/
def Record : SignedKind → Type
  | deployment => Deployment
  | nativeObservationFenceReceipt => NativeObservationFenceReceipt
  | uploadEnvelope => UploadEnvelope
  | supportRegistry => SupportRegistry
  | environmentPolicy => EnvironmentPolicy
  | executorCapabilityEvidence => ExecutorCapabilityEvidence
  | executionGrant => ExecutionGrant
  | fuzzContext => FuzzContext
  | managedCandidateCaptureGrant => ManagedCandidateCaptureGrant
  | managedCandidateEncryptionGrantRequest => ManagedCandidateEncryptionGrantRequest
  | managedWorkerGrant => ManagedWorkerGrant
  | managedKeyGrant => ManagedKeyGrant

instance signedDocument : (kind : SignedKind) → SignedDocument kind.Record
  | deployment => inferInstanceAs (SignedDocument Deployment)
  | nativeObservationFenceReceipt => inferInstanceAs (SignedDocument NativeObservationFenceReceipt)
  | uploadEnvelope => inferInstanceAs (SignedDocument UploadEnvelope)
  | supportRegistry => inferInstanceAs (SignedDocument SupportRegistry)
  | environmentPolicy => inferInstanceAs (SignedDocument EnvironmentPolicy)
  | executorCapabilityEvidence => inferInstanceAs (SignedDocument ExecutorCapabilityEvidence)
  | executionGrant => inferInstanceAs (SignedDocument ExecutionGrant)
  | fuzzContext => inferInstanceAs (SignedDocument FuzzContext)
  | managedCandidateCaptureGrant => inferInstanceAs (SignedDocument ManagedCandidateCaptureGrant)
  | managedCandidateEncryptionGrantRequest =>
      inferInstanceAs (SignedDocument ManagedCandidateEncryptionGrantRequest)
  | managedWorkerGrant => inferInstanceAs (SignedDocument ManagedWorkerGrant)
  | managedKeyGrant => inferInstanceAs (SignedDocument ManagedKeyGrant)

/-- The format that the documents of a kind name. -/
def format (kind : SignedKind) : Option String := SignedDocument.format kind.Record

/-- No two kinds name one format, and only one of them names none. -/
theorem format_injective : Function.Injective format := by
  have distinct : (all.map format).Nodup := by decide
  intro first second same
  exact List.inj_on_of_nodup_map distinct (mem_all first) (mem_all second) same

end SignedKind

/-- A signed document of any of the types. -/
structure SignedRecord where
  kind : SignedKind
  document : kind.Record

namespace SignedRecord

/-- The document of the record. -/
def value (record : SignedRecord) : Json.Value := Document.encode record.document

def signature (record : SignedRecord) : String := SignedDocument.signature record.document

/-- The record with another signature and every other field unchanged. -/
def withSignature (record : SignedRecord) (signature : String) : SignedRecord :=
  ⟨record.kind, SignedDocument.withSignature record.document signature⟩

/-- The bytes that the signature of the record covers. -/
def signedBytes (record : SignedRecord) : Result Bytes :=
  Canonical.valueBytes (clearSignature record.value)

theorem binds {first second : SignedRecord} {covered : Bytes}
    (hfirst : first.signedBytes = .ok covered) (hsecond : second.signedBytes = .ok covered) :
    first.kind = second.kind ∧ first.withSignature second.signature = second := by
  obtain ⟨kind, first⟩ := first
  obtain ⟨other, second⟩ := second
  have same : kind = other := SignedKind.format_injective
    (SignedDocument.format_eq_of_signedBytes hfirst hsecond)
  subst same
  apply And.intro rfl
  rw [withSignature]
  exact congrArg (SignedRecord.mk kind)
    (SignedDocument.withSignature_eq_of_signedBytes hfirst hsecond)

variable [Primitives]

theorem verifySignedValue_eq_ok {record : SignedRecord} {publicKey : SecretKey} :
    verifySignedValue record.value publicKey = .ok () ↔
      ∃ signature covered, decodeBase64Url 64 record.signature = .ok signature ∧
        Primitives.ed25519PublicKey publicKey ∧ record.signedBytes = .ok covered ∧
          Primitives.ed25519Verify publicKey covered signature :=
  SignedDocument.verifySignedValue_eq_ok

end SignedRecord

variable [Primitives]

/-- The bytes under a signature belong to one document of one type, whether or not its
validator accepts it.  A document verifies with a signature of exactly these bytes, so a
signature that holds for one message verifies for one document. -/
theorem signature_binds_document :
    (∀ (first second : SignedRecord) (covered : Bytes), first.signedBytes = .ok covered →
      second.signedBytes = .ok covered →
        first.kind = second.kind ∧ first.withSignature second.signature = second) ∧
    (∀ (record : SignedRecord) (publicKey : SecretKey),
      verifySignedValue record.value publicKey = .ok () ↔
        ∃ signature covered, decodeBase64Url 64 record.signature = .ok signature ∧
          Primitives.ed25519PublicKey publicKey ∧ record.signedBytes = .ok covered ∧
            Primitives.ed25519Verify publicKey covered signature) ∧
    (∀ (first second : SignedRecord) (publicKey : SecretKey) (signature : Vector UInt8 64),
      decodeBase64Url 64 first.signature = .ok signature → second.signature = first.signature →
      (∀ message other, Primitives.ed25519Verify publicKey message signature →
        Primitives.ed25519Verify publicKey other signature → message = other) →
      verifySignedValue first.value publicKey = .ok () →
      verifySignedValue second.value publicKey = .ok () → first = second) := by
  refine ⟨fun _ _ _ => SignedRecord.binds, fun _ _ => SignedRecord.verifySignedValue_eq_ok, ?_⟩
  intro first second publicKey signature decoded shared oneMessage hfirst hsecond
  obtain ⟨_, covered, read, _, canonical, verifies⟩ :=
    SignedRecord.verifySignedValue_eq_ok.mp hfirst
  obtain ⟨_, others, read', _, canonical', verifies'⟩ :=
    SignedRecord.verifySignedValue_eq_ok.mp hsecond
  obtain rfl := Except.ok.inj (decoded.symm.trans read)
  rw [shared] at read'
  obtain rfl := Except.ok.inj (decoded.symm.trans read')
  obtain rfl := oneMessage covered others verifies verifies'
  have same := (SignedRecord.binds canonical canonical').2
  rw [shared] at same
  rw [← same, SignedRecord.withSignature, SignedRecord.signature,
    SignedDocument.withSignature_signature]

end Reproit
