/-
# The sizes of the documents of an admitted capture

A valid capsule and the proofs of its runs are small enough for every integer that records
their size.  The manifest of a sealed capture is counted object by object and chunk by chunk,
and the envelope is always short enough.
-/

import Reproit.Core.Crypto
import Reproit.Core.ManifestSize
import Reproit.Data.Pieces

namespace Reproit

open Json

theorem stringSize_encodeBase64Url (bytes : Bytes) :
    stringSize (encodeBase64Url bytes) = 2 + (bytes.length * 4 + 2) / 3 := by
  have every : Base64.alphabet.all (fun c => c ≠ quote ∧ c ≠ backslash ∧ 32 ≤ c.toNat ∧
      c.toNat < 128) = true := by decide
  have length : (encodeBase64Url bytes).toList.length = (bytes.length * 4 + 2) / 3 := by
    rw [encodeBase64Url, String.toList_ofList, Base64.length_encode]
  rw [stringSize_of_plain, length]
  intro c listed
  rw [encodeBase64Url, String.toList_ofList] at listed
  obtain ⟨noQuote, noEscape, printed, ascii⟩ := of_decide_eq_true
    (List.all_eq_true.mp every c (Base64.mem_alphabet_of_mem_encode listed))
  exact ⟨⟨noQuote, noEscape, printed⟩, ascii⟩

theorem Proof.length_text_le (proof : Proof) : (Canonical.text proof).length ≤ 2000 := by
  have names : stringSize "capsule_digest" = 16 ∧ stringSize "executor_capabilities_digest" = 30 ∧
      stringSize "failure_digest" = 16 ∧ stringSize "format" = 8 ∧
      stringSize "perturbation_digest" = 21 ∧ stringSize "processing_mode" = 17 ∧
      stringSize "result" = 8 ∧ stringSize "run_index" = 11 ∧ stringSize "subject_digest" = 16 ∧
      stringSize "trigger_digest" = 16 ∧ stringSize "world_digest" = 14 := by decide
  have mode : ProcessingMode.codec.size proof.processingMode ≤ 20 := by
    cases proof.processingMode <;> decide
  have result : ExecutionResultKind.codec.size proof.result ≤ 40 := by
    cases proof.result
    decide
  have format : (Format.codec _).size proof.format ≤ 60 := by
    cases proof.format
    decide
  have run : Codec.uint8.size proof.runIndex ≤ 3 :=
    Codec.size_unsigned_le _ (by decide) (by have := proof.runIndex.toNat_lt; omega)
  rw [Canonical.length_text]
  change Proof.codec.size proof ≤ _
  simp only [Proof.codec, Digest.codec, Codec.size_record, Codec.size_text, Fields.size_required,
    Fields.size_done, Digest.stringSize_toText, names]
  omega

theorem LogicalObject.size_le {object : LogicalObject} (valid : object.validate = .ok ()) :
    LogicalObject.codec.size object ≤ 1100 := by
  have length := (LogicalObject.validate_eq_ok.mp valid).length
  have names : stringSize "media_type" = 12 ∧ stringSize "object_id" = 11 ∧
      stringSize "plain_digest" = 14 ∧ stringSize "plain_size" = 12 ∧ stringSize "role" = 6 := by
    decide
  have tag : IdKind.object.tag.toList.length = 4 := by decide
  have role : LogicalObjectRole.codec.size object.role ≤ 40 := by
    cases object.role <;> decide
  have mediaType := stringSize_le object.mediaType
  have plainSize := Codec.size_uint64_le object.plainSize
  simp only [LogicalObject.codec, TypedId.codec, Digest.codec, Codec.size_record, Codec.size_text,
    Codec.size_string, Fields.size_required, Fields.size_done, Digest.stringSize_toText,
    TypedId.stringSize_toText, names, tag]
  omega

def LogicalObject.documentBytes (object : LogicalObject) : Nat :=
  181 + stringSize object.mediaType + digits object.plainSize.toNat + stringSize object.role.name

theorem LogicalObject.size_eq : LogicalObject.codec.size = LogicalObject.documentBytes := by
  funext object
  have names : stringSize "media_type" = 12 ∧ stringSize "object_id" = 11 ∧
      stringSize "plain_digest" = 14 ∧ stringSize "plain_size" = 12 ∧ stringSize "role" = 6 := by
    decide
  have tag : IdKind.object.tag.toList.length = 4 := by decide
  simp only [codec, TypedId.codec, Digest.codec, LogicalObjectRole.codec, Codec.size_record,
    Codec.size_text, Codec.size_enumeration, Codec.size_uint64, Codec.size_string,
    Fields.size_required, Fields.size_done, Digest.stringSize_toText, TypedId.stringSize_toText,
    names, tag, documentBytes]
  omega

/-- The bytes of a list of short texts. -/
theorem size_texts_le {texts : List String} {count bound : Nat} (few : texts.length ≤ count)
    (short : ∀ text ∈ texts, text.utf8ByteSize ≤ bound) :
    Codec.string.list.size texts ≤ 2 + count * (3 + 6 * bound) := by
  rw [Codec.size_list_eq]
  have whole : arrayBytes (texts.map Codec.string.size) ≤ 2 + count * (1 + (2 + 6 * bound)) := by
    apply arrayBytes_le ((List.length_map _).trans_le few)
    intro size member
    obtain ⟨text, listed, rfl⟩ := List.mem_map.mp member
    rw [Codec.size_string]
    exact (stringSize_le text).trans
      (Nat.add_le_add_left (Nat.mul_le_mul_left 6 (short text listed)) 2)
  exact whole.trans (Nat.add_le_add_left (Nat.mul_le_mul_left count (by omega)) 2)

theorem size_capabilities_le {capabilities : List String}
    (valid : validateCapabilities capabilities = .ok ()) :
    Codec.string.list.size capabilities ≤ 2 + 64 * (3 + 6 * 128) := by
  simp only [validateCapabilities, bind_eq_ok, rejectIf_eq_ok, not_lt, not_exists, not_and,
    not_or] at valid
  obtain ⟨_, few, _, -, short⟩ := valid
  exact size_texts_le few fun text listed => (short text listed).2.1

theorem Subject.size_le {subject : Subject} (valid : subject.validate = .ok ()) :
    Subject.codec.size subject ≤ 4000000 := by
  simp only [Subject.validate, validateCapabilities, bind_eq_ok, rejectIf_eq_ok, not_or, not_lt,
    not_exists, not_and, List.mem_singleton, forall_eq, not_not] at valid
  obtain ⟨_, ⟨fewArguments, arguments, fewNames, -, -, mediaType, -, uri, -, executable, -, -,
    workingDirectory⟩, _, ⟨_, -, _, -, -, architecture, -⟩, _, ⟨_, -, _, -, -, operatingSystem, -⟩,
    _, -, environmentNames⟩ := valid
  have names : stringSize "architecture" = 14 ∧ stringSize "arguments" = 11 ∧
      stringSize "artifact_digest" = 17 ∧ stringSize "artifact_media_type" = 21 ∧
      stringSize "artifact_uri" = 14 ∧ stringSize "environment_names" = 19 ∧
      stringSize "executable" = 12 ∧ stringSize "format" = 8 ∧
      stringSize "operating_system" = 18 ∧ stringSize "working_directory" = 19 := by decide
  have argumentSizes := size_texts_le fewArguments arguments
  have nameSizes := size_texts_le fewNames fun name listed => by
    have valid := environmentNames name listed
    simp only [validEnvironmentName, Bool.and_eq_true, decide_eq_true_eq] at valid
    exact valid.1.2
  have format : (Format.codec _).size subject.format ≤ 60 := by
    cases subject.format
    decide
  have mediaTypeSize := stringSize_le subject.artifactMediaType
  have uriSize := stringSize_le subject.artifactUri
  have executableSize := stringSize_le subject.executable
  have workingSize := stringSize_le subject.workingDirectory
  have architectureSize := stringSize_le subject.architecture
  have operatingSize := stringSize_le subject.operatingSystem
  simp only [Subject.codec, Digest.codec, Codec.size_record, Codec.size_text, Codec.size_string,
    Fields.size_required, Fields.size_done, Digest.stringSize_toText, names]
  omega

/-- A valid capsule is shorter than sixty-four mebibytes. -/
theorem ReplayCapsule.length_text_le {capsule : ReplayCapsule} (valid : capsule.Valid) :
    (Canonical.text capsule).length ≤ 67108864 := by
  have names : stringSize "closure_manifest_digest" = 25 ∧ stringSize "failure_digest" = 16 ∧
      stringSize "format" = 8 ∧ stringSize "objects" = 9 ∧ stringSize "perturbation_suite" = 20 ∧
      stringSize "processing_mode" = 17 ∧ stringSize "profile" = 9 ∧
      stringSize "profile_format" = 16 ∧ stringSize "required_capabilities" = 23 ∧
      stringSize "subject" = 9 ∧ stringSize "subject_digest" = 16 ∧
      stringSize "support_bundle_digest" = 23 ∧ stringSize "trigger_digest" = 16 ∧
      stringSize "world_digest" = 14 ∧
      stringSize "reproit.controlled-perturbation.v1" = 36 := by decide
  have objects : arrayBytes (capsule.objects.map LogicalObject.codec.size) ≤
      2 + 32767 * (1 + 1100) := by
    apply arrayBytes_le ((List.length_map _).trans_le valid.count)
    intro size member
    obtain ⟨object, listed, rfl⟩ := List.mem_map.mp member
    exact LogicalObject.size_le (valid.objects object listed).1
  have capabilities := size_capabilities_le valid.capabilities
  have subject := Subject.size_le valid.subject
  have profile := stringSize_le capsule.profile
  have profileLength := valid.profile.2
  have profileFormat := Codec.size_uint64_le capsule.profileFormat
  have mode : ProcessingMode.codec.size capsule.processingMode ≤ 20 := by
    cases capsule.processingMode <;> decide
  have format : (Format.codec _).size capsule.format ≤ 60 := by
    cases capsule.format
    decide
  rw [Canonical.length_text]
  change ReplayCapsule.codec.size capsule ≤ _
  simp only [ReplayCapsule.codec, Digest.codec, Codec.size_record, Codec.size_text,
    Codec.size_list_eq LogicalObject.codec, Codec.size_string, Fields.size_required,
    Fields.size_done, Digest.stringSize_toText, valid.suite, names]
  omega

/-! ## The manifest of a sealed capture -/

/-- The bytes of the entry of a stored chunk. -/
def chunkEntryBytes (cipherSize index : Nat) : Nat :=
  142 + digits cipherSize + digits index

theorem EncryptedChunk.size_eq {chunk : EncryptedChunk} {nonce : Vector UInt8 12}
    (text : chunk.nonce = encodeBase64Url nonce.toList) :
    EncryptedChunk.codec.size chunk =
      chunkEntryBytes chunk.cipherSize.toNat chunk.index.toNat := by
  have names : stringSize "cipher_digest" = 15 ∧ stringSize "cipher_size" = 13 ∧
      stringSize "index" = 7 ∧ stringSize "nonce" = 7 := by decide
  have index : Codec.uint32.size chunk.index = digits chunk.index.toNat := rfl
  have nonceSize : stringSize chunk.nonce = 18 := by
    rw [text, stringSize_encodeBase64Url, Vector.length_toList]
  simp only [EncryptedChunk.codec, Digest.codec, Codec.size_record, Codec.size_text,
    Codec.size_uint64, Codec.size_string, Fields.size_required, Fields.size_done,
    Digest.stringSize_toText, names, nonceSize, index, chunkEntryBytes]
  omega

/-- The bytes of the entry of an object whose chunks are of the usual sizes. -/
def objectEntryBytes (descriptor : LogicalObject) : Nat :=
  25 + descriptor.documentBytes +
    arrayBytes ((pieceSizes chunkBytes descriptor.plainSize.toNat).zipIdx.map fun (size, index) =>
      chunkEntryBytes (size + minCipherSize) index)

/-- The bytes of the manifest by its objects and texts. -/
def CaptureBatchManifest.documentBytes (manifest : CaptureBatchManifest) : Nat :=
  617 + arrayBytes (manifest.objects.map EncryptedObject.codec.size) +
    arrayBytes (manifest.proofDigests.map fun _ => 73) +
    arrayBytes (manifest.requiredCapabilities.map stringSize) +
    stringSize manifest.processingMode.name + stringSize manifest.profile +
    digits manifest.profileFormat.toNat + digits manifest.encryptionContextVersion.toNat +
    stringSize manifest.repositoryId + stringSize manifest.servicePath +
    stringSize manifest.sourceRevision

theorem CaptureBatchManifest.length_text (manifest : CaptureBatchManifest) :
    (Canonical.text manifest).length = manifest.documentBytes := by
  have names : stringSize "capture_id" = 12 ∧ stringSize "encryption_context_version" = 28 ∧
      stringSize "format" = 8 ∧ stringSize "objects" = 9 ∧ stringSize "organization_id" = 17 ∧
      stringSize "processing_mode" = 17 ∧ stringSize "profile" = 9 ∧
      stringSize "profile_format" = 16 ∧ stringSize "project_id" = 12 ∧
      stringSize "proof_digests" = 15 ∧ stringSize "replay_capsule_digest" = 23 ∧
      stringSize "replay_capsule_object_id" = 26 ∧ stringSize "repository_id" = 15 ∧
      stringSize "required_capabilities" = 23 ∧ stringSize "service_id" = 12 ∧
      stringSize "service_path" = 14 ∧ stringSize "source_revision" = 17 := by decide
  have tags : IdKind.capture.tag.toList.length = 4 ∧ IdKind.organization.tag.toList.length = 4 ∧
      IdKind.project.tag.toList.length = 4 ∧ IdKind.service.tag.toList.length = 4 ∧
      IdKind.object.tag.toList.length = 4 := by decide
  have format : (Format.codec "reproit.capture-batch.v1").size manifest.format = 26 := by
    cases manifest.format
    decide
  have strings : Codec.string.size = stringSize := funext Codec.size_string
  have digests : Digest.codec.size = fun _ => 73 := by
    funext digest
    rw [Digest.codec, Codec.size_text, Digest.stringSize_toText]
  have version : Codec.uint8.size manifest.encryptionContextVersion =
      digits manifest.encryptionContextVersion.toNat := rfl
  rw [Canonical.length_text]
  change CaptureBatchManifest.codec.size manifest = _
  simp only [CaptureBatchManifest.codec, TypedId.codec, ProcessingMode.codec, Codec.size_record,
    Codec.size_text, Codec.size_enumeration, Codec.size_uint64, Codec.size_list_eq,
    Fields.size_required, Fields.size_done, TypedId.stringSize_toText, strings, digests, names,
    tags, format, version, documentBytes]
  omega

/-! ## The envelope of a sealed capture -/

theorem Fields.size_skippedList {α β : Type} (name : String) (codec : Codec α) (rest : Fields β)
    (values : List α) (others : β) :
    (skippedList name codec rest).size (values, others) =
      (if values.isEmpty then 0 else 2 + stringSize name + codec.list.size values) +
        rest.size others := rfl

theorem UploadObject.size_le {object : UploadObject} (nonce : object.nonce.utf8ByteSize ≤ 16) :
    UploadObject.codec.size object ≤ 233 := by
  have names : stringSize "cipher_digest" = 15 ∧ stringSize "cipher_size" = 13 ∧
      stringSize "nonce" = 7 := by decide
  have text := stringSize_le object.nonce
  have size := Codec.size_uint64_le object.cipherSize
  simp only [UploadObject.codec, Digest.codec, Codec.size_record, Codec.size_text,
    Codec.size_string, Fields.size_required, Fields.size_done, Digest.stringSize_toText, names]
  omega

theorem WrappedKey.size_le {key : WrappedKey} (valid : key.validate = .ok ()) :
    WrappedKey.codec.size key ≤ 120000 := by
  simp only [WrappedKey.validate, bind_eq_ok, rejectIf_eq_ok, not_or, not_lt, not_not] at valid
  obtain ⟨_, ⟨-, algorithm, -, -, keyReference, -, providerId, -, wrappedBytes⟩, -⟩ := valid
  have names : stringSize "algorithm" = 11 ∧ stringSize "context_version" = 17 ∧
      stringSize "key_reference" = 15 ∧ stringSize "provider_id" = 13 ∧
      stringSize "wrapped_bytes" = 15 := by decide
  have version : Codec.uint8.size key.contextVersion ≤ 3 :=
    Codec.size_unsigned_le _ (by decide) (by have := key.contextVersion.toNat_lt; omega)
  have algorithmSize := stringSize_le key.algorithm
  have referenceSize := stringSize_le key.keyReference
  have providerSize := stringSize_le key.providerId
  have wrappedSize := stringSize_le key.wrappedBytes
  simp only [WrappedKey.codec, Codec.size_record, Codec.size_string, Fields.size_required,
    Fields.size_done, names]
  omega

theorem FuzzContext.size_le {context : FuzzContext} (valid : context.validate = .ok ()) :
    FuzzContext.codec.size context ≤ 6000 := by
  simp only [FuzzContext.validate, bind_eq_ok, rejectIf_eq_ok, not_not] at valid
  obtain ⟨_, length, -⟩ := valid
  have names : stringSize "campaign_id" = 13 ∧ stringSize "case_id" = 9 ∧
      stringSize "expires_at" = 12 ∧ stringSize "format" = 8 ∧ stringSize "project_id" = 12 ∧
      stringSize "service_id" = 12 ∧ stringSize "signature" = 11 := by decide
  have format : (Format.codec _).size context.format ≤ 60 := by
    cases context.format
    decide
  have campaign := TypedId.size_le context.campaignId
  have case := TypedId.size_le context.caseId
  have project := TypedId.size_le context.projectId
  have service := TypedId.size_le context.serviceId
  have expires := Timestamp.size_le context.expiresAt
  have signature := stringSize_le context.signature
  simp only [FuzzContext.codec, Codec.size_record, Codec.size_string, Fields.size_required,
    Fields.size_done, names]
  omega

theorem FailureSummary.size_le {summary : FailureSummary} {mode : ProcessingMode}
    (valid : summary.validateForMode mode = .ok ()) :
    FailureSummary.codec.size summary ≤ 4000 := by
  simp only [FailureSummary.validateForMode, bind_eq_ok, rejectIf_eq_ok, not_or, not_lt] at valid
  obtain ⟨_, ⟨-, operation, -, typeName, stableCode⟩, -⟩ := valid
  have names : stringSize "category" = 10 ∧ stringSize "operation" = 11 ∧
      stringSize "stable_code" = 13 ∧ stringSize "type" = 6 := by decide
  have category : FailureCategory.codec.size summary.category ≤ 30 := by
    cases summary.category <;> decide
  have code : (Codec.string.option Codec.decode_null_string).size summary.stableCode ≤ 800 := by
    cases held : summary.stableCode with
    | none => exact Nat.le_of_ble_eq_true rfl
    | some value =>
        rw [held, Option.any_some, Bool.or_eq_true, not_or, decide_eq_true_eq, not_lt] at stableCode
        have size := stringSize_le value
        rw [Codec.size_option_some, Codec.size_string]
        omega
  have operationSize := stringSize_le summary.operation
  have typeSize := stringSize_le summary.typeName
  simp only [FailureSummary.codec, Codec.size_record, Codec.size_string, Fields.size_required,
    Fields.size_optional, Fields.size_done, names]
  omega

theorem TriggerSummary.size_le {summary : TriggerSummary}
    (operation : summary.operation.utf8ByteSize ≤ 128) :
    TriggerSummary.codec.size summary ≤ 1000 := by
  have names : stringSize "kind" = 6 ∧ stringSize "operation" = 11 := by decide
  have kind : OperationKind.codec.size summary.kind ≤ 40 := by
    cases summary.kind <;> decide
  have operationSize := stringSize_le summary.operation
  simp only [TriggerSummary.codec, Codec.size_record, Codec.size_string, Fields.size_required,
    Fields.size_done, names]
  omega

theorem ManifestUploadObject.size_le {object : ManifestUploadObject}
    (nonce : object.nonce.utf8ByteSize ≤ 16) : ManifestUploadObject.codec.size object ≤ 2000 := by
  have names : stringSize "cipher_digest" = 15 ∧ stringSize "cipher_size" = 13 ∧
      stringSize "nonce" = 7 ∧ stringSize "object_id" = 11 := by decide
  have text := stringSize_le object.nonce
  have size := Codec.size_uint64_le object.cipherSize
  have id := TypedId.size_le object.objectId
  simp only [ManifestUploadObject.codec, Digest.codec, Codec.size_record, Codec.size_text,
    Codec.size_string, Fields.size_required, Fields.size_done, Digest.stringSize_toText, names]
  omega

/-- The bounds that keep an envelope short. -/
structure UploadEnvelope.Bounded (envelope : UploadEnvelope) : Prop where
  proofDigests : envelope.admission.proofDigests.length ≤ 3
  signerKeyId : envelope.admission.signerKeyId.utf8ByteSize ≤ 256
  campaignContext : ∀ context, envelope.campaignContext = some context → context.validate = .ok ()
  causalParentIds : envelope.causalParentIds.length ≤ 32
  cipherSuite : envelope.cipherSuite = Reproit.cipherSuite
  failureFingerprint : envelope.failureFingerprint.utf8ByteSize ≤ 128
  failureSummary : ∃ mode, envelope.failureSummary.validateForMode mode = .ok ()
  manifestNonce : envelope.manifestObject.nonce.utf8ByteSize ≤ 16
  count : envelope.objects.length ≤ 32767
  nonces : ∀ object ∈ envelope.objects, object.nonce.utf8ByteSize ≤ 16
  profile : envelope.profile.utf8ByteSize ≤ 128
  requiredCapabilities : validateCapabilities envelope.requiredCapabilities = .ok ()
  signature : envelope.signature.utf8ByteSize ≤ 128
  sourceRevision : envelope.sourceRevision.utf8ByteSize ≤ 256
  triggerSummary : envelope.triggerSummary.operation.utf8ByteSize ≤ 128
  wrappedKey : envelope.wrappedKey.validate = .ok ()

/-- An envelope is always short enough. -/
theorem UploadEnvelope.length_text_le {envelope : UploadEnvelope} (bounded : envelope.Bounded) :
    (Canonical.text envelope).length ≤ maxBatchDocumentBytes := by
  have names : stringSize "admission" = 11 ∧ stringSize "campaign_context" = 18 ∧
      stringSize "causal_parent_ids" = 19 ∧ stringSize "capture_batch_digest" = 22 ∧
      stringSize "capture_id" = 12 ∧ stringSize "cipher_suite" = 14 ∧
      stringSize "discovery_source" = 18 ∧ stringSize "failure_fingerprint" = 21 ∧
      stringSize "failure_summary" = 17 ∧ stringSize "format" = 8 ∧
      stringSize "manifest_object" = 17 ∧ stringSize "objects" = 9 ∧
      stringSize "operation_id" = 14 ∧ stringSize "organization_id" = 17 ∧
      stringSize "processing_mode" = 17 ∧ stringSize "profile" = 9 ∧
      stringSize "profile_format" = 16 ∧ stringSize "project_id" = 12 ∧
      stringSize "replay_capsule_digest" = 23 ∧ stringSize "required_capabilities" = 23 ∧
      stringSize "service_id" = 12 ∧ stringSize "signature" = 11 ∧ stringSize "signed_at" = 11 ∧
      stringSize "source_revision" = 17 ∧ stringSize "trigger_summary" = 17 ∧
      stringSize "wrapped_key" = 13 ∧ stringSize "proof_digests" = 15 ∧
      stringSize "run_count" = 11 ∧ stringSize "signer_key_id" = 15 := by decide
  have uploads : arrayBytes (envelope.objects.map UploadObject.codec.size) ≤
      2 + 32767 * (1 + 233) := by
    apply arrayBytes_le ((List.length_map _).trans_le bounded.count)
    intro size member
    obtain ⟨object, listed, rfl⟩ := List.mem_map.mp member
    exact UploadObject.size_le (bounded.nonces object listed)
  have parents : arrayBytes (envelope.causalParentIds.map TypedId.codec.size) ≤
      2 + 32 * (1 + 1000) := by
    apply arrayBytes_le ((List.length_map _).trans_le bounded.causalParentIds)
    intro size member
    obtain ⟨id, -, rfl⟩ := List.mem_map.mp member
    exact TypedId.size_le id
  have parentField : (if envelope.causalParentIds.isEmpty = true then 0
      else 2 + 19 + arrayBytes (envelope.causalParentIds.map TypedId.codec.size)) ≤ 32060 := by
    split_ifs
    · exact Nat.zero_le _
    · omega
  have proofs : arrayBytes (envelope.admission.proofDigests.map Digest.codec.size) ≤
      2 + 3 * (1 + 73) := by
    apply arrayBytes_le ((List.length_map _).trans_le bounded.proofDigests)
    intro size member
    obtain ⟨digest, -, rfl⟩ := List.mem_map.mp member
    rw [Digest.codec, Codec.size_text, Digest.stringSize_toText]
  have admission : AdmissionAttestation.codec.size envelope.admission ≤ 3000 := by
    have run : Codec.uint8.size envelope.admission.runCount ≤ 3 :=
      Codec.size_unsigned_le _ (by decide) (by have := envelope.admission.runCount.toNat_lt; omega)
    have signer := stringSize_le envelope.admission.signerKeyId
    have length := bounded.signerKeyId
    simp only [AdmissionAttestation.codec, Codec.size_record, Codec.size_list_eq,
      Codec.size_string, Fields.size_required, Fields.size_done, names]
    omega
  have campaign : (envelope.campaignContext.elim 0 fun held =>
      2 + stringSize "campaign_context" + FuzzContext.codec.size held) ≤ 6020 := by
    cases held : envelope.campaignContext with
    | none => exact Nat.zero_le _
    | some context =>
        have size := FuzzContext.size_le (bounded.campaignContext context held)
        simp only [Option.elim_some, names]
        omega
  have discovery : (envelope.discoverySource.elim 0 fun held =>
      2 + stringSize "discovery_source" + DiscoverySource.codec.size held) ≤ 60 := by
    cases envelope.discoverySource with
    | none => exact Nat.zero_le _
    | some source => cases source <;> decide
  have operation : (envelope.operationId.elim 0 fun held =>
      2 + stringSize "operation_id" + TypedId.codec.size held) ≤ 1016 := by
    cases envelope.operationId with
    | none => exact Nat.zero_le _
    | some id =>
        have size := TypedId.size_le id
        simp only [Option.elim_some, names]
        omega
  have summary : FailureSummary.codec.size envelope.failureSummary ≤ 4000 := by
    obtain ⟨mode, valid⟩ := bounded.failureSummary
    exact FailureSummary.size_le valid
  have trigger := TriggerSummary.size_le bounded.triggerSummary
  have manifest := ManifestUploadObject.size_le bounded.manifestNonce
  have wrapped := WrappedKey.size_le bounded.wrappedKey
  have capabilities := size_capabilities_le bounded.requiredCapabilities
  have ids := And.intro (TypedId.size_le envelope.captureId)
    (And.intro (TypedId.size_le envelope.organizationId)
      (And.intro (TypedId.size_le envelope.projectId) (TypedId.size_le envelope.serviceId)))
  have format : (Format.codec _).size envelope.format ≤ 60 := by
    cases envelope.format
    decide
  have mode : ProcessingMode.codec.size envelope.processingMode ≤ 20 := by
    cases envelope.processingMode <;> decide
  have suite : stringSize envelope.cipherSuite ≤ 60 := by
    rw [bounded.cipherSuite]
    decide
  have profileFormat := Codec.size_uint64_le envelope.profileFormat
  have signed := Timestamp.size_le envelope.signedAt
  have fingerprint := (stringSize_le envelope.failureFingerprint).trans
    (Nat.add_le_add_left (Nat.mul_le_mul_left 6 bounded.failureFingerprint) 2)
  have profile := (stringSize_le envelope.profile).trans
    (Nat.add_le_add_left (Nat.mul_le_mul_left 6 bounded.profile) 2)
  have signature := (stringSize_le envelope.signature).trans
    (Nat.add_le_add_left (Nat.mul_le_mul_left 6 bounded.signature) 2)
  have revision := (stringSize_le envelope.sourceRevision).trans
    (Nat.add_le_add_left (Nat.mul_le_mul_left 6 bounded.sourceRevision) 2)
  rw [Canonical.length_text, maxBatchDocumentBytes]
  change UploadEnvelope.codec.size envelope ≤ _
  simp only [names, OperationId] at campaign discovery operation
  simp only [UploadEnvelope.codec, Digest.codec, Codec.size_record, Codec.size_text,
    Codec.size_list_eq UploadObject.codec, Codec.size_list_eq TypedId.codec, Codec.size_string,
    Fields.size_required, Fields.size_skipped, Fields.size_skippedList, Fields.size_done,
    Digest.stringSize_toText, names]
  omega

end Reproit
