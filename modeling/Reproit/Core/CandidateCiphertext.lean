/-
# Every candidate identity and its ciphertext

The ciphertext of a candidate is cut into chunks, and every chunk takes a nonce and a tag
more than its plaintext.  A valid identity has a valid ciphertext identity exactly when it
names a capability, has few enough chunks and bytes, and its manifest fits into one chunk.
-/

import Reproit.Core.CaptureSize
import Reproit.Core.Crypto
import Reproit.Core.Model.ManagedCandidate
import Reproit.Data.Pieces
import Mathlib.Data.List.Chain

namespace Reproit

/-! ## What the validators establish -/

namespace ManagedCandidateIdentity

theorem requiredManifest_eq_ok {identity : ManagedCandidateIdentity}
    {kind : LogicalObjectRole × String} {object : LogicalObject} :
    identity.requiredManifest kind = .ok object ↔
      identity.objects.filter (isManifest kind) = [object] := by
  rw [requiredManifest]
  split
  · rename_i found one
    rw [Except.ok.injEq, one, List.singleton_inj]
  · rename_i others
    exact ⟨nofun, fun one => absurd one (others object)⟩

structure Valid (identity : ManagedCandidateIdentity) : Prop where
  managed : identity.processingMode = .managed
  count : 5 ≤ identity.objects.length ∧ identity.objects.length ≤ maxCandidateObjects
  capabilities : identity.requiredCapabilities.length ≤ 64 ∧
    identity.requiredCapabilities.IsChain (· < ·)
  ordered : identity.objects.IsChain (·.objectId < ·.objectId)
  objects : ∀ object ∈ identity.objects, object.validate = .ok ()
  roles : requireCandidateRoles (identity.objects.map LogicalObject.role) = .ok ()
  candidate : ∃ candidate,
    identity.objects.filter (isManifest (.candidate, candidateMediaType)) = [candidate] ∧
      candidate.plainDigest = identity.candidateDigest ∧
      candidate.plainSize.toNat ≤ maxCandidatePlaintextBytes
  manifests : ∀ kind ∈ candidateManifests, ∃ object,
    identity.objects.filter (isManifest kind) = [object]
  subject : ∀ object,
    identity.objects.filter (isManifest (.subject, subjectClosureMediaType)) = [object] →
      object.plainDigest = identity.subjectDigest
  total : (identity.objects.map fun object => object.plainSize.toNat).sum =
      identity.totalPlaintextBytes.toNat ∧
    identity.totalPlaintextBytes.toNat ≤ maxTotalCandidateCiphertextBytes

theorem validate_eq_ok {identity : ManagedCandidateIdentity} :
    identity.validate = .ok () ↔ identity.Valid := by
  have sizes : (identity.objects.map LogicalObject.plainSize).map UInt64.toNat =
      identity.objects.map fun object => object.plainSize.toNat := List.map_map
  simp only [validate, bind_eq_ok, rejectIf_eq_ok, okOr_eq_ok, forEach_eq_ok, checkedSum_eq_some,
    requiredManifest_eq_ok, UInt64.toNat_zero, zero_add, sizes, not_or, not_not, not_lt]
  constructor
  · rintro ⟨_, ⟨managed, few, many, capabilities, sorted, ordered⟩, _, objects, total, summed, _,
      roles, candidate, one, failure, oneFailure, trigger, oneTrigger, world, oneWorld, subject,
      oneSubject, digest, small, subjectDigest, same, limit⟩
    refine
      { managed, count := ⟨few, many⟩, capabilities := ⟨capabilities, sorted⟩, ordered, objects
        roles, candidate := ⟨candidate, one, digest, small⟩, manifests := ?_, subject := ?_
        total := ⟨summed.trans (congrArg _ same), same ▸ limit⟩ }
    · simp only [candidateManifests, List.forall_mem_cons, List.not_mem_nil, false_implies,
        implies_true, and_true]
      exact ⟨⟨_, oneFailure⟩, ⟨_, oneSubject⟩, ⟨_, oneTrigger⟩, ⟨_, oneWorld⟩⟩
    · intro object found
      obtain rfl := List.singleton_injective (oneSubject.symm.trans found)
      exact subjectDigest
  · intro valid
    obtain ⟨candidate, one, digest, small⟩ := valid.candidate
    have manifests := valid.manifests
    simp only [candidateManifests, List.forall_mem_cons, List.not_mem_nil, false_implies,
      implies_true, and_true] at manifests
    obtain ⟨⟨failure, oneFailure⟩, ⟨subject, oneSubject⟩, ⟨trigger, oneTrigger⟩,
      ⟨world, oneWorld⟩⟩ := manifests
    exact ⟨(), ⟨valid.managed, valid.count.1, valid.count.2, valid.capabilities.1,
      valid.capabilities.2, valid.ordered⟩, (), valid.objects, _, valid.total.1, (), valid.roles,
      candidate, one, failure, oneFailure, trigger, oneTrigger, world, oneWorld, subject,
      oneSubject, digest, small, valid.subject subject oneSubject, rfl, valid.total.2⟩

end ManagedCandidateIdentity

namespace ManagedCandidateCiphertextIdentity

theorem addChunks_append (nonces : List String) (total : UInt64)
    (first second : List EncryptedChunk) :
    addChunks nonces total (first ++ second) =
      addChunks nonces total first >>= fun held => addChunks held.1 held.2 second := by
  induction first generalizing nonces total with
  | nil => rfl
  | cons chunk rest ih =>
      simp only [List.cons_append, addChunks, ih, bind_assoc]

/-- The nonces of the chunks are new and different, and the stored bytes are summed up. -/
theorem addChunks_eq_ok {nonces after : List String} {total sum : UInt64}
    {chunks : List EncryptedChunk} (distinct : nonces.Nodup) :
    addChunks nonces total chunks = .ok (after, sum) ↔
      (∀ chunk ∈ chunks, ∃ bytes, decodeBase64Url 12 chunk.nonce = .ok bytes) ∧
        after = (chunks.map EncryptedChunk.nonce).reverse ++ nonces ∧ after.Nodup ∧
          total.toNat + (chunks.map fun chunk => chunk.cipherSize.toNat).sum = sum.toNat := by
  induction chunks generalizing nonces total with
  | nil =>
      rw [addChunks, Except.ok.injEq, Prod.mk.injEq]
      simp only [List.not_mem_nil, false_implies, implies_true, List.map_nil, List.reverse_nil,
        List.nil_append, List.sum_nil, add_zero, true_and, UInt64.toNat_inj]
      constructor
      · rintro ⟨rfl, rfl⟩
        exact ⟨rfl, distinct, rfl⟩
      · rintro ⟨rfl, -, rfl⟩
        exact ⟨rfl, rfl⟩
  | cons chunk rest ih =>
      simp only [addChunks, bind_eq_ok, rejectIf_eq_ok, okOr_eq_ok, checkedAdd_eq_some,
        List.forall_mem_cons, List.map_cons, List.reverse_cons, List.append_assoc,
        List.singleton_append, List.sum_cons]
      constructor
      · rintro ⟨bytes, decoded, _, new, next, added, others⟩
        obtain ⟨all, held, apart, summed⟩ := (ih (List.nodup_cons.mpr ⟨new, distinct⟩)).mp others
        exact ⟨⟨⟨bytes, decoded⟩, all⟩, held, apart, by omega⟩
      · rintro ⟨⟨⟨bytes, decoded⟩, all⟩, held, apart, summed⟩
        have both : (chunk.nonce :: nonces).Nodup := by
          rw [held] at apart
          exact apart.of_append_right
        have bound := sum.toNat_lt
        obtain ⟨next, added⟩ : ∃ next : UInt64, total.toNat + chunk.cipherSize.toNat = next.toNat :=
          ⟨UInt64.ofNat (total.toNat + chunk.cipherSize.toNat),
            (UInt64.toNat_ofNat_of_lt' (lt_of_le_of_lt (by omega) bound)).symm⟩
        refine ⟨bytes, decoded, (), (List.nodup_cons.mp both).1, next, added, ?_⟩
        exact (ih both).mpr ⟨all, held, apart, by omega⟩

theorem addObjects_eq_ok {nonces after : List String} {total sum : UInt64}
    {objects : List EncryptedObject} :
    addObjects nonces total objects = .ok (after, sum) ↔
      (∀ object ∈ objects, object.descriptor.validate = .ok () ∧
        validateChunks object.chunks = .ok ()) ∧
      addChunks nonces total (objects.flatMap EncryptedObject.chunks) = .ok (after, sum) := by
  induction objects generalizing nonces total with
  | nil =>
      rw [addObjects, List.flatMap_nil, addChunks]
      exact (and_iff_right (List.forall_mem_nil _)).symm
  | cons object rest ih =>
      simp only [addObjects, List.flatMap_cons, addChunks_append, bind_eq_ok, Prod.exists, ih,
        List.forall_mem_cons]
      constructor
      · rintro ⟨_, descriptor, _, chunks, held, next, added, all, others⟩
        exact ⟨⟨⟨descriptor, chunks⟩, all⟩, held, next, added, others⟩
      · rintro ⟨⟨⟨descriptor, chunks⟩, all⟩, held, next, added, others⟩
        exact ⟨(), descriptor, (), chunks, held, next, added, all, others⟩

/-- The chunks of all objects in order. -/
def allChunks (identity : ManagedCandidateCiphertextIdentity) : List EncryptedChunk :=
  identity.objects.flatMap EncryptedObject.chunks

/-- The stored bytes of all blobs. -/
def storedBytes (identity : ManagedCandidateCiphertextIdentity) : Nat :=
  identity.manifestObject.cipherSize.toNat +
    (identity.allChunks.map fun chunk => chunk.cipherSize.toNat).sum

/-- The descriptors of the objects. -/
def descriptors (identity : ManagedCandidateCiphertextIdentity) : List LogicalObject :=
  identity.objects.map EncryptedObject.descriptor

/-- What the validator establishes. -/
structure Valid (identity : ManagedCandidateCiphertextIdentity) : Prop where
  keyReference : validateOpaqueReference identity.candidateKeyReference = .ok ()
  managed : identity.processingMode = .managed
  count : 5 ≤ identity.objects.length ∧ identity.objects.length ≤ maxCandidateObjects
  capabilities : identity.requiredCapabilities ≠ [] ∧
    identity.requiredCapabilities.length ≤ 64 ∧ identity.requiredCapabilities.IsChain (· < ·)
  ordered : identity.objects.IsChain (·.descriptor.objectId < ·.descriptor.objectId)
  manifest : identity.manifestObject.validate = .ok ()
  objects : ∀ object ∈ identity.objects, object.descriptor.validate = .ok () ∧
    validateChunks object.chunks = .ok ()
  nonces : ∀ chunk ∈ identity.allChunks, ∃ bytes, decodeBase64Url 12 chunk.nonce = .ok bytes
  distinct : (identity.manifestObject.nonce ::
    identity.allChunks.map EncryptedChunk.nonce).Nodup
  roles : requireCandidateRoles (identity.objects.map fun object => object.descriptor.role) = .ok ()
  candidate : ∃ candidate, identity.objects.filter
      (fun object => isManifest (.candidate, candidateMediaType) object.descriptor) = [candidate] ∧
    (candidate.chunks.map fun chunk => chunk.cipherSize.toNat).sum ≤ maxCandidateCiphertextBytes
  manifests : ∀ kind ∈ candidateManifests, identity.hasOneManifest kind = true
  chunks : identity.chunkCount ≤ 32768
  total : identity.storedBytes = identity.totalCiphertextBytes.toNat ∧
    identity.storedBytes ≤ maxTotalCandidateCiphertextBytes
  fresh : ∀ object ∈ identity.objects,
    object.descriptor.objectId ≠ identity.manifestObject.objectId

theorem candidateCiphertextBytes_eq_ok {identity : ManagedCandidateCiphertextIdentity}
    {bytes : UInt64} :
    identity.candidateCiphertextBytes = .ok bytes ↔ ∃ candidate, identity.objects.filter
        (fun object => isManifest (.candidate, candidateMediaType) object.descriptor) =
          [candidate] ∧
      (candidate.chunks.map fun chunk => chunk.cipherSize.toNat).sum = bytes.toNat := by
  rw [candidateCiphertextBytes]
  split
  · rename_i candidate one
    rw [okOr_eq_ok, checkedSum_eq_some, UInt64.toNat_zero, zero_add, List.map_map]
    constructor
    · intro summed
      exact ⟨candidate, one, summed⟩
    · intro ⟨other, same, summed⟩
      obtain rfl := List.singleton_injective (one.symm.trans same)
      exact summed
  · rename_i others
    constructor
    · exact nofun
    · intro ⟨candidate, one, _⟩
      exact absurd one (others candidate)

theorem validate_eq_ok {identity : ManagedCandidateCiphertextIdentity} :
    identity.validate = .ok () ↔ identity.Valid := by
  have nonces : ∀ after : List String, after = (identity.allChunks.map EncryptedChunk.nonce).reverse ++
      [identity.manifestObject.nonce] → (after.Nodup ↔ (identity.manifestObject.nonce ::
        identity.allChunks.map EncryptedChunk.nonce).Nodup) := by
    rintro _ rfl
    rw [← List.reverse_cons, List.nodup_reverse]
  simp only [validate, bind_eq_ok, rejectIf_eq_ok, Prod.exists, addObjects_eq_ok,
    addChunks_eq_ok (List.nodup_singleton _), candidateCiphertextBytes_eq_ok, not_or, not_not,
    not_lt, not_exists, not_and, Bool.not_eq_false, List.isEmpty_iff]
  constructor
  · rintro ⟨_, keyReference, _, ⟨managed, few, many, named, capabilities, sorted, ordered⟩, _,
      manifest, after, total, ⟨objects, decoded, held, distinct, summed⟩, _, roles, bytes,
      ⟨candidate, one, stored⟩, _, manifests, chunks, same, limit, small, fresh⟩
    have whole : identity.storedBytes = total.toNat := summed
    exact
      { keyReference, managed, count := ⟨few, many⟩, capabilities := ⟨named, capabilities, sorted⟩
        ordered, manifest, objects, nonces := decoded, distinct := (nonces after held).mp distinct
        roles, candidate := ⟨candidate, one, stored.trans_le small⟩
        manifests := fun kind => manifests kind.1 kind.2, chunks
        total := ⟨whole.trans (congrArg _ same), whole.trans_le limit⟩, fresh }
  · intro valid
    obtain ⟨candidate, one, small⟩ := valid.candidate
    have bound : (candidate.chunks.map fun chunk => chunk.cipherSize.toNat).sum < 2 ^ 64 :=
      lt_of_le_of_lt small (by decide)
    exact ⟨(), valid.keyReference, (), ⟨valid.managed, valid.count.1, valid.count.2,
      valid.capabilities.1, valid.capabilities.2.1, valid.capabilities.2.2, valid.ordered⟩, (),
      valid.manifest, _, identity.totalCiphertextBytes, ⟨valid.objects, valid.nonces, rfl,
        (nonces _ rfl).mpr valid.distinct, valid.total.1⟩, (), valid.roles,
      UInt64.ofNat (candidate.chunks.map fun chunk => chunk.cipherSize.toNat).sum,
      ⟨candidate, one, (UInt64.toNat_ofNat_of_lt' bound).symm⟩, (),
      fun role mediaType => valid.manifests (role, mediaType), valid.chunks, rfl, valid.total.1 ▸ valid.total.2,
      (UInt64.toNat_ofNat_of_lt' bound).trans_le small, valid.fresh⟩

end ManagedCandidateCiphertextIdentity

open Json

/-! ## The size of the manifest -/

/-- A valid reference is the text of thirty-two bytes. -/
theorem stringSize_of_validateOpaqueReference {reference : String}
    (valid : validateOpaqueReference reference = .ok ()) : stringSize reference = 45 := by
  simp only [validateOpaqueReference, bind_eq_ok, decodeBase64Url_eq_ok] at valid
  obtain ⟨_, -, bytes, rfl, -⟩ := valid
  rw [stringSize_encodeBase64Url, Vector.length_toList]

namespace ManagedCandidateIdentity

variable [Primitives]

/-- The manifest of the identity under a key. -/
def manifest (identity : ManagedCandidateIdentity) (reference : String) :
    ManagedCandidateManifest where
  candidateIdentity := identity
  candidateIdentityDigest := Digest.of (Canonical.text identity)
  candidateKeyReference := reference
  cipherSuite := .v1
  format := .v1

omit [Primitives] in
/-- The bytes of the manifest by the objects and capabilities of the identity. -/
def manifestBytes (identity : ManagedCandidateIdentity) : Nat :=
  934 + arrayBytes (identity.objects.map LogicalObject.documentBytes) +
    arrayBytes (identity.requiredCapabilities.map stringSize) +
    digits identity.totalPlaintextBytes.toNat

theorem length_text_manifest {identity : ManagedCandidateIdentity} {reference : String}
    (managed : identity.processingMode = .managed)
    (valid : validateOpaqueReference reference = .ok ()) :
    (Canonical.text (identity.manifest reference)).length = identity.manifestBytes := by
  have names : stringSize "candidate_digest" = 18 ∧ stringSize "capture_id" = 12 ∧
      stringSize "deployment_digest" = 19 ∧ stringSize "format" = 8 ∧ stringSize "objects" = 9 ∧
      stringSize "organization_id" = 17 ∧ stringSize "processing_mode" = 17 ∧
      stringSize "project_id" = 12 ∧ stringSize "required_capabilities" = 23 ∧
      stringSize "service_id" = 12 ∧ stringSize "subject_digest" = 16 ∧
      stringSize "total_plaintext_bytes" = 23 ∧ stringSize "candidate_identity" = 20 ∧
      stringSize "candidate_identity_digest" = 27 ∧ stringSize "candidate_key_reference" = 25 ∧
      stringSize "cipher_suite" = 14 := by decide
  have tags : IdKind.capture.tag.toList.length = 4 ∧ IdKind.organization.tag.toList.length = 4 ∧
      IdKind.project.tag.toList.length = 4 ∧ IdKind.service.tag.toList.length = 4 := by decide
  have texts : stringSize ProcessingMode.managed.name = 9 ∧
      (Format.codec "AES-256-GCM+HKDF-SHA-256").size .v1 = 26 ∧
      (Format.codec "reproit.managed-candidate-manifest.v1").size .v1 = 39 ∧
      (Format.codec "reproit.managed-candidate-identity.v1").size identity.format = 39 := by
    cases identity.format
    decide
  have strings : Codec.string.size = stringSize := funext Codec.size_string
  rw [Canonical.length_text]
  change ManagedCandidateManifest.codec.size _ = _
  simp only [ManagedCandidateManifest.codec, codec, manifest, TypedId.codec, Digest.codec,
    ProcessingMode.codec, Codec.size_record, Codec.size_text, Codec.size_enumeration,
    Codec.size_uint64, Codec.size_list_eq, Fields.size_required, Fields.size_done,
    Digest.stringSize_toText, TypedId.stringSize_toText, LogicalObject.size_eq, strings,
    stringSize_of_validateOpaqueReference valid, managed, names, tags, texts, manifestBytes]
  omega

theorem Valid.exact_manifest {identity : ManagedCandidateIdentity} (valid : identity.Valid)
    (reference : String) : Document.Exact (identity.manifest reference) := by
  have sizes : ∀ object ∈ identity.objects, object.plainSize.toNat ≤ Json.maxExactInteger := by
    intro object listed
    have bound := (LogicalObject.validate_eq_ok.mp (valid.objects object listed)).size
    exact bound.trans (by decide)
  have total : identity.totalPlaintextBytes.toNat ≤ Json.maxExactInteger :=
    valid.total.2.trans (by decide)
  change ManagedCandidateManifest.codec.exact _ = true
  simp only [ManagedCandidateManifest.codec, codec, manifest, LogicalObject.codec,
    LogicalObjectRole.codec, ProcessingMode.codec, Format.codec, Digest.codec, TypedId.codec,
    Codec.exact_record, Codec.exact_list, Fields.exact_required, Fields.exact_done,
    Codec.exact_enumeration, Codec.exact_text, Codec.exact_string, Codec.exact_uint64,
    Bool.and_true, Bool.true_and, List.all_eq_true, decide_eq_true_eq, Bool.and_eq_true,
    implies_true, true_and]
  exact ⟨sizes, total⟩

end ManagedCandidateIdentity

/-! ## The stored form of an identity -/

variable [Primitives]

/-- The stored chunks of the objects of an identity: every object is cut into chunks of eight
mebibytes, and every chunk and the manifest take a nonce of a supply and a tag. -/
structure ManagedCandidateCiphertextIdentity.Stores (cipher : ManagedCandidateCiphertextIdentity)
    (identity : ManagedCandidateIdentity) (reference : String) : Prop where
  keyReference : cipher.candidateKeyReference = reference
  digest : cipher.candidateIdentityDigest = Digest.of (Canonical.text identity)
  scope : cipher.captureId = identity.captureId ∧
    cipher.organizationId = identity.organizationId ∧ cipher.projectId = identity.projectId ∧
      cipher.serviceId = identity.serviceId ∧ cipher.processingMode = identity.processingMode
  capabilities : cipher.requiredCapabilities = identity.requiredCapabilities
  objects : cipher.descriptors = identity.objects
  sizes : ∀ object ∈ cipher.objects, object.chunks.map (fun chunk => chunk.cipherSize.toNat) =
    (pieceSizes chunkBytes object.descriptor.plainSize.toNat).map (· + minCipherSize)
  indexes : ∀ object ∈ cipher.objects, object.chunks.map (fun chunk => chunk.index.toNat) =
    List.range object.chunks.length
  manifest : cipher.manifestObject.cipherSize.toNat =
    (Canonical.text (identity.manifest reference)).length + minCipherSize
  nonces : ∃ supply : List (Vector UInt8 12), supply.Nodup ∧
    cipher.manifestObject.nonce :: cipher.allChunks.map EncryptedChunk.nonce =
      supply.map fun nonce => encodeBase64Url nonce.toList
  total : cipher.totalCiphertextBytes.toNat = cipher.storedBytes

/-- The chunks of the manifest and of all objects. -/
def ManagedCandidateIdentity.storedChunks (identity : ManagedCandidateIdentity) : Nat :=
  1 + (identity.objects.map fun object => pieceCount chunkBytes object.plainSize.toNat).sum

/-- When an identity can be stored: it names a capability, it has few enough chunks, and its
manifest fits into one of them and has an identifier of its own. -/
structure ManagedCandidateIdentity.Storable (identity : ManagedCandidateIdentity)
    (manifestId : ObjectId) : Prop where
  capabilities : identity.requiredCapabilities ≠ []
  chunks : identity.storedChunks ≤ 32768
  manifest : identity.manifestBytes ≤ chunkBytes
  fresh : ∀ object ∈ identity.objects, object.objectId ≠ manifestId

namespace ManagedCandidateCiphertextIdentity.Stores

variable {cipher : ManagedCandidateCiphertextIdentity} {identity : ManagedCandidateIdentity}
  {reference : String}

theorem length_chunks (stores : cipher.Stores identity reference) {object : EncryptedObject}
    (listed : object ∈ cipher.objects) :
    object.chunks.length = pieceCount chunkBytes object.descriptor.plainSize.toNat := by
  have sizes := congrArg List.length (stores.sizes object listed)
  rwa [List.length_map, List.length_map, length_pieceSizes] at sizes

theorem chunkCount_eq (stores : cipher.Stores identity reference) :
    cipher.chunkCount = identity.storedChunks := by
  rw [chunkCount, ManagedCandidateIdentity.storedChunks, ← stores.objects, descriptors,
    List.map_map, List.map_congr_left fun object listed => stores.length_chunks listed]
  rfl

theorem map_descriptor {β : Type} (stores : cipher.Stores identity reference)
    (f : LogicalObject → β) :
    (cipher.objects.map fun object => f object.descriptor) = identity.objects.map f := by
  rw [← stores.objects, descriptors, List.map_map]
  rfl

theorem map_filter (stores : cipher.Stores identity reference)
    (kind : LogicalObjectRole × String) :
    (cipher.objects.filter fun object => isManifest kind object.descriptor).map
      EncryptedObject.descriptor = identity.objects.filter (isManifest kind) := by
  rw [← stores.objects, descriptors, List.filter_map]
  rfl

theorem forall_descriptor (stores : cipher.Stores identity reference)
    {p : LogicalObject → Prop} (all : ∀ object ∈ identity.objects, p object) :
    ∀ object ∈ cipher.objects, p object.descriptor := by
  intro object listed
  apply all
  rw [← stores.objects]
  exact List.mem_map_of_mem listed

/-- A stored chunk has the size of a piece and twenty-eight bytes more. -/
theorem cipherSize_of_mem (stores : cipher.Stores identity reference) {object : EncryptedObject}
    (listed : object ∈ cipher.objects) {chunk : EncryptedChunk} (part : chunk ∈ object.chunks) :
    minCipherSize ≤ chunk.cipherSize.toNat ∧ chunk.cipherSize.toNat ≤ maxCipherSize := by
  have size := List.mem_map_of_mem (f := fun chunk => chunk.cipherSize.toNat) part
  rw [stores.sizes object listed] at size
  obtain ⟨piece, among, same⟩ := List.mem_map.mp size
  have small := le_of_mem_pieceSizes among
  rw [← same]
  exact ⟨Nat.le_add_left _ _, Nat.add_le_add_right small minCipherSize⟩

/-- Every nonce is the text of twelve bytes. -/
theorem nonce_eq (stores : cipher.Stores identity reference) :
    ∀ nonce ∈ cipher.manifestObject.nonce :: cipher.allChunks.map EncryptedChunk.nonce,
      ∃ bytes : Vector UInt8 12, nonce = encodeBase64Url bytes.toList := by
  obtain ⟨supply, -, same⟩ := stores.nonces
  intro nonce listed
  rw [same] at listed
  obtain ⟨bytes, -, rfl⟩ := List.mem_map.mp listed
  exact ⟨bytes, rfl⟩

theorem nodup_nonces (stores : cipher.Stores identity reference) :
    (cipher.manifestObject.nonce :: cipher.allChunks.map EncryptedChunk.nonce).Nodup := by
  obtain ⟨supply, distinct, same⟩ := stores.nonces
  rw [same]
  apply distinct.map
  intro first second equal
  exact Vector.toList_inj.mp (encodeBase64Url_injective equal)

theorem validate_manifestObject (stores : cipher.Stores identity reference)
    (small : (Canonical.text (identity.manifest reference)).length ≤ chunkBytes) :
    cipher.manifestObject.validate = .ok () := by
  obtain ⟨bytes, nonce⟩ := stores.nonce_eq _ (List.mem_cons_self ..)
  rw [ManifestUploadObject.validate, UploadObject.validate, rejectIf_eq_ok _ _ (), nonce,
    utf8ByteSize_encodeBase64Url, Vector.length_toList, stores.manifest]
  rw [not_or, not_or, not_not, not_not, not_not]
  refine ⟨⟨Nat.le_add_left _ _, Nat.add_le_add_right small minCipherSize⟩, rfl, ?_⟩
  rw [validBase64Url, encodeBase64Url, String.toList_ofList, List.all_eq_true]
  exact fun c member =>
    (isBase64UrlChar_of_mem_alphabet c (Base64.mem_alphabet_of_mem_encode member)).1

theorem validateChunks_of_mem (stores : cipher.Stores identity reference)
    (few : cipher.chunkCount ≤ 32768) {object : EncryptedObject}
    (listed : object ∈ cipher.objects) : validateChunks object.chunks = .ok () := by
  have count := stores.length_chunks listed
  have some := pieceCount_pos chunkBytes object.descriptor.plainSize.toNat
  have within : object.chunks.length ≤ 32767 := by
    have part := List.single_le_sum (l := cipher.objects.map fun object => object.chunks.length)
      (fun _ _ => Nat.zero_le _) _ (List.mem_map_of_mem listed)
    rw [chunkCount] at few
    omega
  simp only [validateChunks, bind_eq_ok, rejectIf_eq_ok, forEach_eq_ok, not_or, not_lt, not_not]
  refine ⟨(), ⟨?_, within⟩, Prod.forall.mpr fun chunk index pair => ?_⟩
  · rw [List.isEmpty_iff, ← List.length_eq_zero_iff]
    omega
  · have part := List.fst_mem_of_mem_zipIdx pair
    obtain ⟨bytes, nonce⟩ := stores.nonce_eq chunk.nonce (List.mem_cons_of_mem _
      (List.mem_map_of_mem (List.mem_flatMap.mpr ⟨object, listed, part⟩)))
    refine ⟨?_, stores.cipherSize_of_mem listed part, ?_⟩
    · have found := List.mk_mem_zipIdx_iff_getElem?.mp pair
      obtain ⟨inside, -⟩ := List.getElem?_eq_some_iff.mp found
      have number := congrArg (·[index]?) (stores.indexes object listed)
      rw [List.getElem?_map, found, List.getElem?_range inside] at number
      exact Option.some.inj number
    · rw [nonce, utf8ByteSize_encodeBase64Url, Vector.length_toList]

/-- A stored byte is a byte of one of the chunks. -/
theorem storedBytes_le (stores : cipher.Stores identity reference)
    (manifest : cipher.manifestObject.cipherSize.toNat ≤ maxCipherSize) :
    cipher.storedBytes ≤ cipher.chunkCount * maxCipherSize := by
  have each := List.sum_le_card_nsmul (cipher.allChunks.map fun chunk => chunk.cipherSize.toNat)
    maxCipherSize fun size member => by
      obtain ⟨chunk, listed, rfl⟩ := List.mem_map.mp member
      obtain ⟨object, among, part⟩ := List.mem_flatMap.mp listed
      exact (stores.cipherSize_of_mem among part).2
  rw [List.length_map, allChunks, List.length_flatMap, smul_eq_mul] at each
  rw [storedBytes, allChunks, chunkCount, Nat.add_mul, one_mul]
  exact Nat.add_le_add manifest each

theorem storable (stores : cipher.Stores identity reference) (valid : identity.Valid)
    (keyReference : validateOpaqueReference reference = .ok ()) (accepted : cipher.Valid) :
    identity.Storable cipher.manifestObject.objectId := by
  constructor
  case capabilities =>
    rw [← stores.capabilities]
    exact accepted.capabilities.1
  case chunks =>
    rw [← stores.chunkCount_eq]
    exact accepted.chunks
  case manifest =>
    have bound := accepted.manifest
    rw [ManifestUploadObject.validate, UploadObject.validate, rejectIf_eq_ok _ _ (), not_or,
      not_not, stores.manifest,
      ManagedCandidateIdentity.length_text_manifest valid.managed keyReference] at bound
    exact Nat.le_of_add_le_add_right bound.1.2
  case fresh =>
    intro object listed
    rw [← stores.objects] at listed
    obtain ⟨stored, among, rfl⟩ := List.mem_map.mp listed
    exact accepted.fresh stored among

theorem valid (stores : cipher.Stores identity reference) (valid : identity.Valid)
    (keyReference : validateOpaqueReference reference = .ok ())
    (storable : identity.Storable cipher.manifestObject.objectId) : cipher.Valid := by
  have small : (Canonical.text (identity.manifest reference)).length ≤ chunkBytes := by
    rw [ManagedCandidateIdentity.length_text_manifest valid.managed keyReference]
    exact storable.manifest
  have few : cipher.chunkCount ≤ 32768 := stores.chunkCount_eq.trans_le storable.chunks
  have manifest := stores.validate_manifestObject small
  have count : cipher.objects.length = identity.objects.length := by
    rw [← stores.objects, ManagedCandidateCiphertextIdentity.descriptors, List.length_map]
  have bytes := stores.storedBytes_le
    (stores.manifest.trans_le (Nat.add_le_add_right small minCipherSize))
  have roles := stores.map_descriptor LogicalObject.role
  constructor
  case keyReference => rwa [stores.keyReference]
  case managed => exact stores.scope.2.2.2.2.trans valid.managed
  case count => rw [count]; exact valid.count
  case capabilities => rw [stores.capabilities]; exact ⟨storable.capabilities, valid.capabilities⟩
  case ordered =>
    have ordered := valid.ordered
    rw [← stores.objects, ManagedCandidateCiphertextIdentity.descriptors,
      List.isChain_map _] at ordered
    exact ordered
  case manifest => exact manifest
  case objects =>
    intro object listed
    exact ⟨stores.forall_descriptor valid.objects object listed,
      stores.validateChunks_of_mem few listed⟩
  case nonces =>
    intro chunk listed
    obtain ⟨bytes, same⟩ := stores.nonce_eq chunk.nonce (List.mem_cons_of_mem _
      (List.mem_map_of_mem listed))
    exact ⟨bytes, decodeBase64Url_eq_ok.mpr same⟩
  case distinct => exact stores.nodup_nonces
  case roles => rw [roles]; exact valid.roles
  case candidate =>
    obtain ⟨candidate, one, -, size⟩ := valid.candidate
    rw [← stores.map_filter] at one
    obtain ⟨stored, found, rfl⟩ := List.map_eq_singleton_iff.mp one
    refine ⟨stored, found, ?_⟩
    have listed : stored ∈ cipher.objects := by
      apply List.mem_of_mem_filter (p := fun object =>
        isManifest (.candidate, candidateMediaType) object.descriptor)
      rw [found]
      exact List.mem_singleton_self stored
    rw [stores.sizes stored listed, pieceSizes_of_le (size.trans (by decide)),
      List.map_singleton, List.sum_singleton]
    exact Nat.add_le_add_right size minCipherSize
  case manifests =>
    intro kind listed
    obtain ⟨object, one⟩ := valid.manifests kind listed
    rw [← stores.map_filter] at one
    have length := congrArg List.length one
    rw [List.length_map] at length
    exact decide_eq_true length
  case chunks => exact few
  case total =>
    refine ⟨stores.total.symm, bytes.trans ?_⟩
    exact (Nat.mul_le_mul_right maxCipherSize few).trans (by decide)
  case fresh => exact stores.forall_descriptor storable.fresh

end ManagedCandidateCiphertextIdentity.Stores

end Reproit
