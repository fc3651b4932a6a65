/-
# The envelope of a sealed capture

The uploads of a sealed capture are sorted and their nonces and digests are different.  With a
description within the limits of the validator, every envelope of an accepted manifest is
accepted.
-/

import Reproit.Backend.SealedManifest
import Reproit.Failure.Grouping

namespace Reproit.Backend

variable [Primitives]

/-- The fields that come from outside of the capture are within the limits of an envelope, and
the signer answers with the text of a signature. -/
structure SealRequest.Described (request : SealRequest) : Prop where
  failure : request.input.expectedFailure.validate = .ok ()
  failureSummary : (request.input.expectedFailure.safeSummaries
    request.input.capsule.processingMode).1.validateForMode
      request.input.capsule.processingMode = .ok ()
  triggerSummary : (request.input.expectedFailure.safeSummaries
    request.input.capsule.processingMode).2.validateForMode
      request.input.capsule.processingMode = .ok ()
  campaign : ∀ context, request.metadata.campaignContext = some context →
    context.validate = .ok () ∧ context.projectId = request.metadata.projectId ∧
      request.metadata.operationId.isSome ∧ request.metadata.causalParentIds.length ≤ 32 ∧
        request.metadata.causalParentIds.Nodup ∧
          request.metadata.discoverySource ≠ some .production
  ordinary : request.metadata.campaignContext = none →
    request.metadata.operationId = none ∧ request.metadata.causalParentIds = []
  signerKeyId : request.signer.signerKeyId.isEmpty = false ∧
    request.signer.signerKeyId.utf8ByteSize ≤ 256
  sourceRevision : request.metadata.sourceRevision.isEmpty = false ∧
    request.metadata.sourceRevision.utf8ByteSize ≤ 256
  wrappedKey : request.metadata.wrappedKey.validate = .ok ()
  signs : ∀ unsigned, ∃ (signature : String) (bytes : Vector UInt8 64),
    request.signer.sign unsigned = .ok signature ∧ decodeBase64Url 64 signature = .ok bytes

/-! ## The uploads -/

namespace SealsObject

variable {request : SealRequest} {descriptor : LogicalObject} {bytes : Bytes}
  {material : EncryptedMaterial}

theorem nonce_of_mem (seals : SealsObject request descriptor bytes material)
    {chunk : EncryptedChunk} (listed : chunk ∈ material.object.chunks) :
    ∃ nonce, chunk.nonce = nonceText nonce := by
  rw [← List.map_fst_zip seals.length.le] at listed
  obtain ⟨entry, among, rfl⟩ := List.mem_map.mp listed
  obtain ⟨objectKey, objectContextDigest, -, -, all⟩ := seals.chunks
  obtain ⟨piece, -, one⟩ := exists_source all among
  obtain ⟨nonce, -, -, text, -⟩ := one.encrypted
  exact ⟨nonce, text⟩

theorem validate_upload (correct : AeadCorrect)
    (seals : SealsObject request descriptor bytes material) {upload : UploadObject}
    (listed : upload ∈ material.uploads) : upload.validate = .ok () := by
  obtain ⟨chunk, among, rfl⟩ := List.mem_map.mp listed
  obtain ⟨nonce, text⟩ := seals.nonce_of_mem among
  exact UploadObject.validate_of_nonce ((seals.validChunks correct).sizes chunk among) text

end SealsObject

omit [Primitives] in
theorem map_nonce_uploads (materials : List EncryptedMaterial) :
    (materials.flatMap EncryptedMaterial.uploads).map UploadObject.nonce =
      materials.flatMap EncryptedMaterial.nonces := by
  rw [List.map_flatMap]
  apply congrArg (materials.flatMap ·)
  funext material
  exact List.map_map

/-- The uploads of the materials in the order of the envelope. -/
def sortedUploads (materials : List EncryptedMaterial) : List UploadObject :=
  (materials.flatMap EncryptedMaterial.uploads).insertionSort (·.key ≤ ·.key)

/-- The blobs that sealed materials store. -/
structure StoresAll (request : SealRequest) (plaintext : OrderedMap ObjectId Bytes)
    (materials : List EncryptedMaterial) (last : EncryptedMaterial) (chunk : EncryptedChunk) :
    Prop where
  all : SealRequest.Prepared.SealsAll request plaintext materials
  single : last.object.chunks = [chunk]
  manifest : ∃ descriptor bytes, SealsObject request descriptor bytes last
  digests : (((materials ++ [last]).flatMap EncryptedMaterial.entries).map Prod.fst).Nodup
  nonces : ∃ drawn : List Nonce, drawn.Nodup ∧
    (materials ++ [last]).flatMap EncryptedMaterial.nonces = drawn.map nonceText

namespace StoresAll

variable {request : SealRequest} {plaintext : OrderedMap ObjectId Bytes}
  {materials : List EncryptedMaterial} {last : EncryptedMaterial} {chunk : EncryptedChunk}

omit [Primitives] in
theorem perm_sortedUploads (materials : List EncryptedMaterial) :
    (sortedUploads materials).Perm (materials.flatMap EncryptedMaterial.uploads) :=
  List.perm_insertionSort _ _

theorem length_uploads (stores : StoresAll request plaintext materials last chunk) :
    1 + (sortedUploads materials).length = request.storedChunks := by
  have count := SealRequest.Prepared.chunkCount_manifest stores.all
  rw [CaptureBatchManifest.chunkCount] at count
  rw [← count, (perm_sortedUploads materials).length_eq, List.length_flatMap]
  change _ = 1 + ((materials.map EncryptedMaterial.object).map fun object =>
    object.chunks.length).sum
  rw [List.map_map]
  apply congrArg (1 + ·)
  apply congrArg List.sum
  apply List.map_congr_left
  intro material _
  exact List.length_map _

/-- The digests of the uploads are different. -/
theorem nodup_digests (stores : StoresAll request plaintext materials last chunk) :
    ((materials.flatMap EncryptedMaterial.uploads).map UploadObject.cipherDigest).Nodup := by
  have entries : ∀ material ∈ materials, material.entries.map Prod.fst =
      material.uploads.map UploadObject.cipherDigest := by
    intro material listed
    obtain ⟨descriptor, -, bytes, -, one⟩ := exists_source stores.all listed
    apply List.map_fst_zip
    rw [EncryptedMaterial.uploads, List.length_map, List.length_map, one.length]
  have digests := stores.digests
  rw [List.flatMap_append, List.map_append, List.nodup_append, List.map_flatMap] at digests
  rw [List.map_flatMap]
  rw [List.flatMap_congr entries] at digests
  exact digests.1

theorem nodup_nonces (stores : StoresAll request plaintext materials last chunk) :
    (chunk.nonce :: (sortedUploads materials).map UploadObject.nonce).Nodup := by
  obtain ⟨drawn, distinct, texts⟩ := stores.nonces
  have apart : ((materials ++ [last]).flatMap EncryptedMaterial.nonces).Nodup := by
    rw [texts]
    exact distinct.map nonceText_injective
  rw [List.flatMap_append, List.flatMap_singleton, EncryptedMaterial.nonces, stores.single,
    List.map_singleton, ← map_nonce_uploads] at apart
  have moved := (List.perm_append_singleton _ _).nodup_iff.mp apart
  exact (((perm_sortedUploads materials).map UploadObject.nonce).cons _).nodup_iff.mpr moved

theorem validate_uploads (correct : AeadCorrect)
    (stores : StoresAll request plaintext materials last chunk) :
    ∀ upload ∈ sortedUploads materials, upload.validate = .ok () := by
  intro upload listed
  rw [(perm_sortedUploads materials).mem_iff] at listed
  obtain ⟨material, among, part⟩ := List.mem_flatMap.mp listed
  obtain ⟨descriptor, -, bytes, -, one⟩ := exists_source stores.all among
  exact one.validate_upload correct part

theorem validate_manifestObject (correct : AeadCorrect)
    (stores : StoresAll request plaintext materials last chunk) (objectId : ObjectId) :
    (manifestObjectOf chunk objectId).validate = .ok () := by
  obtain ⟨descriptor, bytes, one⟩ := stores.manifest
  apply one.validate_upload correct
  rw [EncryptedMaterial.uploads, stores.single]
  exact List.mem_singleton_self _

/-- The blobs that the envelope of the materials names. -/
def identity (request : SealRequest) (materials : List EncryptedMaterial)
    (chunk : EncryptedChunk) : CaptureBatchIdentity where
  captureId := request.metadata.captureId
  cipherSuite := cipherSuite
  format := .v1
  manifestObject := manifestObjectOf chunk request.ids.manifestObjectId
  objects := sortedUploads materials
  processingMode := request.input.capsule.processingMode

/-- The stored blobs are accepted when there are few enough of them. -/
theorem valid_identity (correct : AeadCorrect)
    (stores : StoresAll request plaintext materials last chunk)
    (few : request.storedChunks ≤ 32768) : (identity request materials chunk).Valid := by
  have count := stores.length_uploads
  have manifest := stores.validate_manifestObject correct request.ids.manifestObjectId
  have uploads := stores.validate_uploads correct
  have size : ∀ {upload : UploadObject}, upload.validate = .ok () →
      upload.cipherSize.toNat ≤ maxCipherSize := by
    intro upload valid
    rw [UploadObject.validate, rejectIf_eq_ok _ _ (), not_or, not_not] at valid
    exact valid.1.2
  constructor
  case cipherSuite => rfl
  case least =>
    have objects := congrArg List.length (SealRequest.Prepared.map_descriptor stores.all)
    have each := List.card_nsmul_le_sum
      (request.descriptors.map fun object => pieceCount chunkBytes object.plainSize.toNat) 1
      fun pieces listed => by
        obtain ⟨object, -, rfl⟩ := List.mem_map.mp listed
        exact pieceCount_pos _ _
    rw [List.length_map, smul_eq_mul, mul_one, SealRequest.descriptors, List.length_append,
      addedObjects, List.length_cons, List.length_map, SealRequest.length_proofs] at each
    rw [SealRequest.storedChunks] at count
    change 4 ≤ (sortedUploads materials).length
    rw [SealRequest.descriptors, addedObjects] at count
    omega
  case few =>
    change (sortedUploads materials).length ≤ 32767
    omega
  case manifestObject => exact manifest
  case total =>
    have each := List.sum_le_card_nsmul
      ((sortedUploads materials).map fun object => object.cipherSize.toNat) maxCipherSize
      fun bytes listed => by
        obtain ⟨upload, among, rfl⟩ := List.mem_map.mp listed
        exact size (uploads upload among)
    rw [List.length_map, smul_eq_mul] at each
    have blobs : (1 + (sortedUploads materials).length) * maxCipherSize ≤ maxObjectBytes := by
      rw [count]
      exact (Nat.mul_le_mul_right maxCipherSize few).trans (by decide)
    rw [Nat.add_mul, one_mul] at blobs
    exact (Nat.add_le_add (size manifest) each).trans blobs
  case objects => exact uploads
  case distinct => exact stores.nodup_nonces
  case ordered =>
    have keys : ((materials.flatMap EncryptedMaterial.uploads).map UploadObject.key).map
        (fun key => (ofLex key).1) =
          (materials.flatMap EncryptedMaterial.uploads).map UploadObject.cipherDigest :=
      List.map_map
    apply List.isChain_iff_pairwise.mpr
    apply List.pairwise_map.mpr
    apply pairwise_lt_insertionSort_key
    apply List.Nodup.of_map fun key => (ofLex key).1
    rw [keys]
    exact stores.nodup_digests

/-! ## The envelope is accepted -/

theorem validate_manifest (correct : AeadCorrect) (prepared : request.Prepared)
    (stores : StoresAll request plaintext materials last chunk)
    (few : request.storedChunks ≤ 32768) (short : request.manifestBytes ≤ maxBatchDocumentBytes) :
    (request.manifest (materials.map EncryptedMaterial.object)).validate = .ok () := by
  rw [CaptureBatchManifest.validate_eq_ok,
    SealRequest.Prepared.chunkCount_manifest stores.all,
    SealRequest.Prepared.documentBytes_manifest correct stores.all]
  exact ⟨SealRequest.Prepared.wellFormed correct prepared stores.all, few, short⟩

theorem validateManifestBinding_manifest (correct : AeadCorrect) (prepared : request.Prepared)
    (stores : StoresAll request plaintext materials last chunk)
    (few : request.storedChunks ≤ 32768) (short : request.manifestBytes ≤ maxBatchDocumentBytes) :
    validateManifestBinding (request.manifest (materials.map EncryptedMaterial.object))
      (manifestObjectOf chunk request.ids.manifestObjectId) request.admitted.capsuleDigest =
        .ok () := by
  simp only [validateManifestBinding, bind_eq_ok, rejectIf_eq_ok, not_or, not_not, not_exists,
    not_and]
  refine ⟨(), stores.validate_manifest correct prepared few short, (),
    stores.validate_manifestObject correct _, rfl, fun object listed same => ?_⟩
  have among : object.descriptor ∈ request.sorted := by
    rw [← SealRequest.Prepared.map_descriptor stores.all]
    exact List.mem_map_of_mem listed
  rw [(SealRequest.Prepared.perm_sorted request).mem_iff] at among
  rcases List.mem_append.mp among with inner | added
  · apply prepared.ids_fresh.2.2 request.ids.manifestObjectId
    · exact List.mem_cons_of_mem _ List.mem_cons_self
    · apply prepared.mem_objects
      exact List.mem_map.mpr ⟨object.descriptor, inner, same⟩
  · have id := List.mem_map_of_mem (f := LogicalObject.objectId) added
    rw [SealRequest.map_objectId_addedObjects] at id
    exact (request.mem_ids id).2 prepared.ids_fresh.1 same

omit [Primitives] in
theorem validateCampaign_of (described : request.Described) {envelope : UploadEnvelope}
    (campaign : envelope.campaignContext = request.metadata.campaignContext)
    (project : envelope.projectId = request.metadata.projectId)
    (operation : envelope.operationId = request.metadata.operationId)
    (parents : envelope.causalParentIds = request.metadata.causalParentIds) :
    envelope.validateCampaign = .ok () := by
  rw [UploadEnvelope.validateCampaign, campaign, project, operation, parents]
  cases held : request.metadata.campaignContext with
  | none =>
      obtain ⟨operation, parents⟩ := described.ordinary held
      rw [rejectIf_eq_ok, operation, parents]
      exact fun either => either.elim (fun present => absurd present (by decide)) fun some => some rfl
  | some context =>
      obtain ⟨valid, project, operation, few, distinct, -⟩ := described.campaign context held
      simp only [bind_eq_ok, rejectIf_eq_ok, not_or, not_not, not_lt]
      refine ⟨(), valid, project, ?_, few, distinct⟩
      rw [Option.isNone_iff_eq_none]
      intro none
      rw [none] at operation
      cases operation

/-- The envelope of an accepted manifest is accepted. -/
theorem exists_buildEnvelope (correct : AeadCorrect) (prepared : request.Prepared)
    (described : request.Described) (stores : StoresAll request plaintext materials last chunk)
    (few : request.storedChunks ≤ 32768) (short : request.manifestBytes ≤ maxBatchDocumentBytes) :
    ∃ envelope, buildEnvelope request
      (request.manifest (materials.map EncryptedMaterial.object))
      (manifestObjectOf chunk request.ids.manifestObjectId) (sortedUploads materials) =
        .ok envelope := by
  have stored := stores.valid_identity correct few
  have grouped := FailureIdentity.grouping_of_valid described.failure
  have hashed := Canonical.digest_of_exact stored.exact
  have names : (validLowerIdentity "backend" = true ∧ "backend".utf8ByteSize ≤ 128) ∧
      1 ≤ (1 : UInt64).toNat ∧ (1 : UInt64).toNat ≤ maxExactInteger := by decide
  obtain ⟨grouping, group⟩ : ∃ grouping,
      request.input.expectedFailure.grouping = .ok grouping := ⟨_, grouped⟩
  have printed : failureFingerprint request.groupingKey grouping =
      .ok (String.ofList (fingerprintTag ++ Radix.hexText 64
        (Primitives.hmacSha256 request.groupingKey (Canonical.text grouping)).number)) := by
    rw [failureFingerprint, Canonical.bytes_of_exact grouping.exact, ok_bind]
    rfl
  obtain ⟨unsigned, built⟩ : ∃ unsigned, unsigned = request.envelope
      (request.manifest (materials.map EncryptedMaterial.object))
      (manifestObjectOf chunk request.ids.manifestObjectId) (sortedUploads materials)
      (Digest.of (Canonical.text (identity request materials chunk)))
      (String.ofList (fingerprintTag ++ Radix.hexText 64
        (Primitives.hmacSha256 request.groupingKey (Canonical.text grouping)).number)) :=
    ⟨_, rfl⟩
  have exact : Document.Exact unsigned := by
    apply UploadEnvelope.exact_of_identity
    · rw [built]
      exact stored.exact
    · rw [built]
      exact names.2.2
  obtain ⟨signature, bytes, signed, decoded⟩ := described.signs (Canonical.text unsigned)
  have valid : ({ unsigned with signature } : UploadEnvelope).validate = .ok () := by
    rw [UploadEnvelope.validate_eq_ok, built]
    constructor
    case proofs => exact ⟨(List.length_map _).trans Vector.length_toList, prepared.distinct, rfl⟩
    case signerKeyId => exact described.signerKeyId
    case failureFingerprint => exact validFailureFingerprint_hexText _
    case profile => exact names.1
    case profileFormat => exact names.2
    case sourceRevision => exact described.sourceRevision
    case capabilities => exact prepared.capsule.capabilities
    case failureSummary => exact described.failureSummary
    case triggerSummary => exact described.triggerSummary
    case campaign => exact validateCampaign_of described rfl rfl rfl rfl
    case discovery =>
      rintro ⟨present, production⟩
      obtain ⟨context, held⟩ := Option.isSome_iff_exists.mp present
      obtain ⟨-, -, -, -, -, other⟩ := described.campaign context held
      exact other production
    case signature => exact ⟨bytes, decoded⟩
    case wrappedKey => exact described.wrappedKey
    case identity => exact stored
    case digest => rfl
  refine ⟨{ unsigned with signature }, ?_⟩
  simp only [buildEnvelope, bind_eq_ok, pure_eq_ok]
  refine ⟨(), stores.validateManifestBinding_manifest correct prepared few short, (),
    CaptureBatchIdentity.validate_eq_ok.mpr stored, grouping, group, _, hashed, _, printed, ?_⟩
  subst built
  exact ⟨_, Canonical.bytes_of_exact exact, signature, signed, (), valid, rfl⟩

end StoresAll

end Reproit.Backend
