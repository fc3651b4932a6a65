/-
# A candidate is streamed exactly

The chunks of an opened candidate are handed out object by object, in their order, and the bytes
that were counted and hashed on the way are those of the whole object.  The stored blobs are the
manifest and the chunks, each of which is used once.
-/

import Reproit.Backend.StoredCandidate
import Reproit.Core.CandidateOpening
import Reproit.Core.CaptureBatch
import Reproit.Opening.RoundTrip

namespace Reproit

variable [Primitives]

/-- The calls hand out the object: its chunks in order, and with them its bytes. -/
structure StreamsObject (ciphertext : OrderedMap Digest Bytes) (encrypted : EncryptedObject)
    (calls : List ChunkCall) : Prop where
  descriptor : ∀ call ∈ calls, call.descriptor = encrypted.descriptor
  indexes : calls.map (fun call => call.index.toNat) = List.range encrypted.chunks.length
  size : (calls.flatMap ChunkCall.plaintext).length = encrypted.descriptor.plainSize.toNat
  digest : Digest.of (calls.flatMap ChunkCall.plaintext) = encrypted.descriptor.plainDigest
  opened : List.Forall₂ (fun chunk call => ∃ stored chunkKey context,
    ciphertext[EncryptedChunk.cipherDigest chunk]? = some stored ∧
      decryptChunk chunkKey stored context = .ok (ChunkCall.plaintext call)) encrypted.chunks calls

/-- The candidate is streamed exactly, and its manifest is that of the ciphertext. -/
structure StreamsCandidate (identity : ManagedCandidateCiphertextIdentity)
    (ciphertext : OrderedMap Digest Bytes) (manifest : ManagedCandidateManifest)
    (calls : List ChunkCall) : Prop where
  streams : ∃ handed : List (List ChunkCall), calls = handed.flatten ∧
    List.Forall₂ (StreamsObject ciphertext) identity.objects handed
  ordered : identity.objects.Pairwise (·.descriptor.objectId < ·.descriptor.objectId)
  named : ∀ digest, digest ∈ ciphertext ↔ digest = identity.manifestObject.cipherDigest ∨
    ∃ object ∈ identity.objects, ∃ chunk ∈ object.chunks, chunk.cipherDigest = digest
  once : (identity.manifestObject.cipherDigest :: (identity.objects.flatMap
    EncryptedObject.chunks).map EncryptedChunk.cipherDigest).Nodup
  candidateIdentityDigest : manifest.candidateIdentityDigest = identity.candidateIdentityDigest
  candidateKeyReference : manifest.candidateKeyReference = identity.candidateKeyReference
  cipherSuite : manifest.cipherSuite = identity.cipherSuite
  captureId : manifest.candidateIdentity.captureId = identity.captureId
  organizationId : manifest.candidateIdentity.organizationId = identity.organizationId
  processingMode : manifest.candidateIdentity.processingMode = identity.processingMode
  projectId : manifest.candidateIdentity.projectId = identity.projectId
  serviceId : manifest.candidateIdentity.serviceId = identity.serviceId
  requiredCapabilities :
    manifest.candidateIdentity.requiredCapabilities = identity.requiredCapabilities
  objects : manifest.candidateIdentity.objects = identity.objects.map EncryptedObject.descriptor

/-! ## One object -/

section Objects

variable {consumer : ChunkConsumer} {candidateKey : SecretKey}
  {identity : ManagedCandidateCiphertextIdentity} {ciphertext : OrderedMap Digest Bytes}
  {before after : List ChunkCall}

omit [Primitives] in
/-- The bytes that were counted and hashed are those that were handed out. -/
theorem openManagedChunks_ok {openChunk : EncryptedChunk → Result Bytes}
    {descriptor : LogicalObject} {total sum : UInt64} {hashed fed : Bytes}
    {chunks : List EncryptedChunk}
    (ran : openManagedChunks consumer openChunk descriptor total hashed chunks before =
      .ok (sum, fed) after) :
    ∃ calls : List ChunkCall, after = before ++ calls ∧
      List.Forall₂ (fun chunk call => openChunk chunk = .ok (ChunkCall.plaintext call) ∧
        call.descriptor = descriptor ∧ call.index = chunk.index) chunks calls ∧
      sum.toNat = total.toNat + (calls.flatMap ChunkCall.plaintext).length ∧
      fed = hashed ++ calls.flatMap ChunkCall.plaintext := by
  induction chunks generalizing total hashed before with
  | nil =>
      cases ran
      exact ⟨[], (List.append_nil _).symm, .nil, rfl, (List.append_nil _).symm⟩
  | cons chunk rest ih =>
      simp only [openManagedChunks, Update.bind_eq_ok, Update.attempt_eq_ok,
        Update.consume_eq_ok] at ran
      obtain ⟨plaintext, _, ⟨opened, rfl⟩, size, _, ⟨sized, rfl⟩, added, _, ⟨summed, rfl⟩, _, _,
        ⟨-, rfl⟩, _, _, ⟨-, rfl⟩, others⟩ := ran
      obtain ⟨calls, rfl, all, counted, rfl⟩ := ih others
      rw [okOr_eq_ok, uint64OfNat_eq_some] at sized
      rw [okOr_eq_ok, checkedAdd_eq_some] at summed
      refine ⟨⟨descriptor, chunk.index, plaintext⟩ :: calls, ?_, .cons ⟨opened, rfl, rfl⟩ all, ?_, ?_⟩
      · rw [List.append_assoc, List.singleton_append]
      · rw [List.flatMap_cons, List.length_append, counted, ← summed, sized]
        exact Nat.add_assoc _ _ _
      · rw [List.flatMap_cons, List.append_assoc]

theorem openManagedObject_ok {encrypted : EncryptedObject} (valid : ValidChunks encrypted.chunks)
    (ran : openManagedObject consumer candidateKey identity ciphertext encrypted before =
      .ok () after) :
    ∃ calls, after = before ++ calls ∧ StreamsObject ciphertext encrypted calls := by
  simp only [openManagedObject, Update.bind_eq_ok, Update.attempt_eq_ok] at ran
  obtain ⟨objectKey, _, ⟨-, rfl⟩, objectContextDigest, _, ⟨-, rfl⟩, chunkCount, _, ⟨-, rfl⟩,
    ⟨total, hashed⟩, between, chunks, same, rfl⟩ := ran
  obtain ⟨calls, rfl, all, counted, rfl⟩ := openManagedChunks_ok chunks
  rw [rejectIf_eq_ok, not_or, not_not, not_not] at same
  obtain ⟨whole, digest⟩ := same
  change total = _ at whole
  rw [UInt64.toNat_zero, Nat.zero_add] at counted
  refine ⟨calls, rfl, ?_⟩
  constructor
  case descriptor =>
    intro call listed
    obtain ⟨chunk, -, -, of, -⟩ := exists_source all listed
    exact of
  case indexes =>
    rw [← valid.indexes]
    apply map_eq_of_pairing _ all
    intro chunk call pair
    rw [pair.2.2]
  case size => rw [← counted, whole]
  case digest => exact digest
  case opened =>
    refine all.imp fun chunk call pair => ?_
    have opened := pair.1
    simp only [openManagedChunk, bind_eq_ok, okOr_eq_ok] at opened
    obtain ⟨plainSize, -, chunkKey, -, stored, held, decrypted⟩ := opened
    exact ⟨stored, chunkKey, _, held, decrypted⟩

theorem openManagedObjects_ok {objects : List EncryptedObject}
    (valid : ∀ object ∈ objects, ValidChunks object.chunks)
    (ran : openManagedObjects consumer candidateKey identity ciphertext objects before =
      .ok () after) :
    ∃ handed : List (List ChunkCall), after = before ++ handed.flatten ∧
      List.Forall₂ (StreamsObject ciphertext) objects handed := by
  induction objects generalizing before with
  | nil =>
      cases ran
      exact ⟨[], (List.append_nil _).symm, .nil⟩
  | cons encrypted rest ih =>
      simp only [openManagedObjects, Update.bind_eq_ok] at ran
      obtain ⟨_, between, first, others⟩ := ran
      obtain ⟨calls, rfl, one⟩ := openManagedObject_ok (valid _ List.mem_cons_self) first
      obtain ⟨handed, rfl, all⟩ := ih (fun object listed =>
        valid object (List.mem_cons_of_mem _ listed)) others
      exact ⟨calls :: handed, by rw [List.flatten_cons, List.append_assoc], .cons one all⟩

end Objects

/-! ## The whole candidate -/

theorem validateManagedManifestBinding_eq_ok {manifest : ManagedCandidateManifest}
    {identity : ManagedCandidateCiphertextIdentity} :
    validateManagedManifestBinding manifest identity = .ok () ↔ manifest.validate = .ok () ∧
      manifest.candidateIdentityDigest = identity.candidateIdentityDigest ∧
      manifest.candidateKeyReference = identity.candidateKeyReference ∧
      manifest.cipherSuite = identity.cipherSuite ∧
      manifest.candidateIdentity.captureId = identity.captureId ∧
      manifest.candidateIdentity.organizationId = identity.organizationId ∧
      manifest.candidateIdentity.processingMode = identity.processingMode ∧
      manifest.candidateIdentity.projectId = identity.projectId ∧
      manifest.candidateIdentity.requiredCapabilities = identity.requiredCapabilities ∧
      manifest.candidateIdentity.serviceId = identity.serviceId ∧
      manifest.candidateIdentity.objects = identity.descriptors := by
  simp only [validateManagedManifestBinding, bind_eq_ok, rejectIf_eq_ok, not_or, not_not]
  constructor
  · rintro ⟨_, valid, same⟩
    exact ⟨valid, same⟩
  · rintro ⟨valid, same⟩
    exact ⟨(), valid, same⟩

/-- An accepted blob is stored. -/
theorem mem_of_validateManagedBlob {ciphertext : OrderedMap Digest Bytes}
    {blob : Digest × UInt64 × String}
    (valid : validateManagedBlob ciphertext blob.1 blob.2.1 blob.2.2 = .ok ()) :
    blob.1 ∈ ciphertext := by
  simp only [validateManagedBlob, bind_eq_ok, okOr_eq_ok] at valid
  obtain ⟨stored, found, -⟩ := valid
  rw [Std.ExtTreeMap.mem_iff_isSome_getElem?, found]
  rfl

theorem validateManagedCiphertext_eq_ok {identity : ManagedCandidateCiphertextIdentity}
    {ciphertext : OrderedMap Digest Bytes} :
    validateManagedCiphertext identity ciphertext = .ok () ↔
      (identity.storedBlobs.map Prod.fst).Nodup ∧
      (∀ digest, digest ∈ ciphertext ↔ digest ∈ identity.storedBlobs.map Prod.fst) ∧
      ∀ blob ∈ identity.storedBlobs,
        validateManagedBlob ciphertext blob.1 blob.2.1 blob.2.2 = .ok () := by
  simp only [validateManagedCiphertext, bind_eq_ok, okOr_eq_ok, rejectIf_eq_ok, forEach_eq_ok,
    not_not]
  rw [← OrderedMap.exists_closed_iff fun _ => mem_of_validateManagedBlob]
  constructor
  · rintro ⟨expected, inserted, _, size, each⟩
    exact ⟨expected, inserted, size, each⟩
  · rintro ⟨expected, inserted, size, each⟩
    exact ⟨expected, inserted, (), size, each⟩

/-- Opening a candidate hands out exactly its objects, and a call that the consumer refuses is
the last one and gives the answer. -/
theorem openManagedCandidate_streams (consumer : ChunkConsumer) (candidateKey : SecretKey)
    (identity : ManagedCandidateCiphertextIdentity) (ciphertext : OrderedMap Digest Bytes) :
    (∀ manifest calls, openManagedCandidate consumer candidateKey identity ciphertext [] =
      .ok manifest calls → StreamsCandidate identity ciphertext manifest calls) ∧
    ∀ position call error,
      let run := openManagedCandidate consumer candidateKey identity ciphertext []
      (Update.state run)[position]? = some call →
        consumer ((Update.state run).take position) call = .error error →
          Update.verdict run = .error error ∧ (Update.state run).length = position + 1 := by
  refine ⟨?_, ?_⟩
  · intro manifest calls ran
    simp only [openManagedCandidate, Update.bind_eq_ok, Update.attempt_eq_ok,
      Update.pure_run] at ran
    obtain ⟨_, _, ⟨accepted, rfl⟩, _, _, ⟨closed, rfl⟩, read, _, ⟨opened, rfl⟩, _, between, handed,
      same⟩ := ran
    cases same
    have valid := ManagedCandidateCiphertextIdentity.validate_eq_ok.mp accepted
    obtain ⟨once, named, -⟩ := validateManagedCiphertext_eq_ok.mp closed
    simp only [openManagedManifest, bind_eq_ok, pure_eq_ok] at opened
    obtain ⟨_, -, _, -, _, -, _, -, _, -, _, -, _, -, _, binding, rfl⟩ := opened
    obtain ⟨-, digest, reference, suite, capture, organization, mode, project, capabilities,
      service, objects⟩ := validateManagedManifestBinding_eq_ok.mp binding
    have blobs : identity.storedBlobs.map Prod.fst = identity.manifestObject.cipherDigest ::
        (identity.objects.flatMap EncryptedObject.chunks).map EncryptedChunk.cipherDigest := by
      rw [ManagedCandidateCiphertextIdentity.storedBlobs, List.map_cons, List.map_map]
      rfl
    rw [blobs] at once named
    constructor
    case streams =>
      obtain ⟨parts, rfl, all⟩ := openManagedObjects_ok
        (fun object listed => validateChunks_eq_ok.mp (valid.objects object listed).2) handed
      exact ⟨parts, rfl, all⟩
    case ordered => exact List.isChain_iff_pairwise.mp valid.ordered
    case named =>
      intro digest
      rw [named, List.mem_cons, List.mem_map]
      simp only [List.mem_flatMap]
      apply or_congr_right
      constructor
      · rintro ⟨chunk, ⟨object, listed, inside⟩, same⟩
        exact ⟨object, listed, chunk, inside, same⟩
      · rintro ⟨object, listed, chunk, inside, same⟩
        exact ⟨chunk, ⟨object, listed, inside⟩, same⟩
    case once => exact once
    case candidateIdentityDigest => exact digest
    case candidateKeyReference => exact reference
    case cipherSuite => exact suite
    case captureId => exact capture
    case organizationId => exact organization
    case processingMode => exact mode
    case projectId => exact project
    case serviceId => exact service
    case requiredCapabilities => exact capabilities
    case objects => exact objects
  · intro position call error run found refused
    exact (heeds_openManagedCandidate _ _ _).stops found refused

/-! ## Five empty manifests are opened -/

namespace OpenedSample

open Backend.Sample (id)
open StoredSample (identity nonce reference objects)

omit [Primitives] in
/-- The digest of the bytes that begin with a number. -/
def mark (index : Nat) : Digest := ⟨Fin.castLE (by norm_num) (UInt8.ofNat index).toFin⟩

/-- A digest is the first byte, and a message is in front of its tag. -/
structure Leads : Prop where
  digest : ∀ (index : Nat) (rest : Bytes), Digest.of ((nonce index).toList ++ rest) = mark index
  empty : Digest.of [] = mark 0
  decrypt : ∀ (key : SecretKey) (nonce : Nonce) (message aad : Bytes),
    Primitives.aesGcmDecrypt key nonce message aad = some (message.take (message.length - 16))

omit [Primitives] in
/-- A nonce, a content and an empty tag. -/
def blob (index : Nat) (content : Bytes) : Bytes :=
  (nonce index).toList ++ (content ++ List.replicate 16 0)

omit [Primitives] in
theorem length_blob (index : Nat) (content : Bytes) :
    (blob index content).length = content.length + minCipherSize := by
  rw [blob, List.length_append, List.length_append, Vector.length_toList, List.length_replicate,
    minCipherSize]
  omega

/-- A blob is decrypted to its content. -/
theorem decryptChunk_blob (leads : Leads) (key : SecretKey) (index : Nat) {content : Bytes}
    {context : ChunkKeyContext} (valid : context.validate = .ok ())
    (size : context.plainSize.toNat = content.length) (small : content.length ≤ chunkBytes) :
    decryptChunk key (blob index content) context = .ok content := by
  have length := length_blob index content
  have front : storedNonce (blob index content) = some (nonce index) := storedNonce_append _ _
  have behind : (blob index content).drop 12 = content ++ List.replicate 16 0 :=
    List.drop_left' Vector.length_toList
  have limits : chunkBytes + minCipherSize = maxCipherSize := rfl
  simp only [decryptChunk, bind_eq_ok, rejectIf_eq_ok, okOr_eq_ok, not_not]
  refine ⟨(), valid, (), ⟨?_, ?_⟩, (), ?_, nonce index, front, _,
    Canonical.bytes_of_exact (ChunkKeyContext.exact valid), ?_⟩
  · rw [length]
    exact Nat.le_add_left _ _
  · rw [length]
    omega
  · rw [length, size]
  · rw [behind, leads.decrypt, List.length_append, List.length_replicate, Nat.add_sub_cancel,
      List.take_left]

omit [Primitives] in
theorem exact_identity : Document.Exact (identity ["a"]) := by decide

def manifest : ManagedCandidateManifest := (identity ["a"]).manifest reference

/-- The chunk of an empty object. -/
def chunk (index : Nat) : EncryptedChunk :=
  { StoredSample.chunk index with cipherDigest := mark index }

/-- The identity of the stored candidate, with the digests of its blobs. -/
def cipher : ManagedCandidateCiphertextIdentity :=
  { StoredSample.cipher ["a"] with
    manifestObject := { (StoredSample.cipher ["a"]).manifestObject with cipherDigest := mark 0 }
    objects := objects.zipIdx.map fun (object, index) =>
      { chunks := [chunk (1 + index)], descriptor := object } }

def blobs : List (Digest × Bytes) :=
  (mark 0, blob 0 (Canonical.text manifest)) ::
    (List.range 5).map fun index => (mark (1 + index), blob (1 + index) [])

theorem stores : cipher.Stores (identity ["a"]) reference := by
  have small := StoredSample.stores StoredSample.manifestBytes_le.2
  refine { small with objects := rfl, sizes := ?_, indexes := ?_ }
  · intro stored listed
    obtain ⟨⟨plain, index⟩, pair, rfl⟩ := List.mem_map.mp listed
    have every : ∀ object ∈ objects, object.plainSize.toNat = 0 := by decide
    have zero := every plain (List.fst_mem_of_mem_zipIdx pair)
    dsimp only
    rw [zero, pieceSizes_of_le (Nat.zero_le _)]
    rfl
  · intro stored listed
    obtain ⟨⟨plain, index⟩, _, rfl⟩ := List.mem_map.mp listed
    rfl

theorem accepted : cipher.validate = .ok () := by
  have valid := @StoredSample.validate_identity ["a"] (by decide) (by decide)
  apply ManagedCandidateCiphertextIdentity.validate_eq_ok.mpr
  apply stores.valid (ManagedCandidateIdentity.validate_eq_ok.mp valid)
    StoredSample.validate_reference
  constructor
  case capabilities => exact List.cons_ne_nil _ _
  case chunks =>
    show (identity ["a"]).storedChunks ≤ 32768
    decide
  case manifest => exact StoredSample.manifestBytes_le.2.trans (by decide)
  case fresh => exact StoredSample.fresh ["a"]

theorem nodup_blobs : (blobs.map Prod.fst).Nodup := by
  show [mark 0, mark 1, mark 2, mark 3, mark 4, mark 5].Nodup
  decide

/-- The blobs by their digests. -/
structure Holds (ciphertext : OrderedMap Digest Bytes) : Prop where
  keys : ∀ digest, digest ∈ ciphertext ↔ digest ∈ blobs.map Prod.fst
  manifest : ciphertext[mark 0]? = some (blob 0 (Canonical.text manifest))
  chunks : ∀ index < 5, ciphertext[mark (1 + index)]? = some (blob (1 + index) [])

theorem exists_holds : ∃ ciphertext, Holds ciphertext := by
  obtain ⟨ciphertext, inserted⟩ := OrderedMap.exists_insertAllNew nodup_blobs
    (fun key _ => Std.ExtTreeMap.not_mem_empty)
  have found : ∀ digest stored, ciphertext[digest]? = some stored ↔ (digest, stored) ∈ blobs := by
    intro digest stored
    rw [(OrderedMap.insertAllNew_eq_some.mp inserted).2.2]
    simp
  refine ⟨ciphertext, ?_, ?_, ?_⟩
  · intro digest
    rw [Std.ExtTreeMap.mem_iff_isSome_getElem?, Option.isSome_iff_exists, List.mem_map]
    constructor
    · intro ⟨stored, held⟩
      exact ⟨(digest, stored), (found _ _).mp held, rfl⟩
    · intro ⟨entry, listed, same⟩
      exact ⟨entry.2, (found _ _).mpr (same ▸ listed)⟩
  · exact (found _ _).mpr List.mem_cons_self
  · intro index small
    exact (found _ _).mpr (List.mem_cons_of_mem _
      (List.mem_map.mpr ⟨index, List.mem_range.mpr small, rfl⟩))

theorem validateManagedBlob_blob (leads : Leads) {ciphertext : OrderedMap Digest Bytes}
    {index : Nat} {content : Bytes} {size : UInt64}
    (held : ciphertext[mark index]? = some (blob index content))
    (sized : size.toNat = content.length + minCipherSize) :
    validateManagedBlob ciphertext (mark index) size (encodeBase64Url (nonce index).toList) =
      .ok () := by
  have front : (blob index content).take 12 = (nonce index).toList :=
    List.take_left' Vector.length_toList
  simp only [validateManagedBlob, bind_eq_ok, okOr_eq_ok, rejectIf_eq_ok, not_not]
  refine ⟨_, held, (), leads.digest _ _, size, ?_, (), rfl, nonce index,
    decodeBase64Url_eq_ok.mpr rfl, front⟩
  rw [uint64OfNat_eq_some, sized, length_blob]

theorem storedBlobs_eq : cipher.storedBlobs =
    (mark 0, cipher.manifestObject.cipherSize, encodeBase64Url (nonce 0).toList) ::
      (List.range 5).map fun index =>
        (mark (1 + index), 28, encodeBase64Url (nonce (1 + index)).toList) :=
  rfl

theorem length_manifest : cipher.manifestObject.cipherSize.toNat =
    (Canonical.text manifest).length + minCipherSize := stores.manifest

theorem closed (leads : Leads) {ciphertext : OrderedMap Digest Bytes} (holds : Holds ciphertext) :
    validateManagedCiphertext cipher ciphertext = .ok () := by
  have same : cipher.storedBlobs.map Prod.fst = blobs.map Prod.fst := by
    rw [storedBlobs_eq, blobs, List.map_cons, List.map_cons, List.map_map, List.map_map]
    rfl
  rw [validateManagedCiphertext_eq_ok, same]
  refine ⟨nodup_blobs, holds.keys, ?_⟩
  rw [storedBlobs_eq, List.forall_mem_cons]
  refine ⟨validateManagedBlob_blob leads holds.manifest length_manifest, ?_⟩
  intro stored listed
  obtain ⟨index, small, rfl⟩ := List.mem_map.mp listed
  exact validateManagedBlob_blob leads (holds.chunks index (List.mem_range.mp small)) rfl

/-- Keys are derived for every context of a small chunk. -/
theorem exists_deriveChunkKey (objectKey : SecretKey) {context : ChunkKeyContext}
    (valid : context.validate = .ok ()) :
    ∃ chunkKey, deriveChunkKey objectKey context = .ok chunkKey := by
  rw [deriveChunkKey, valid, ok_bind, Canonical.bytes_of_exact (ChunkKeyContext.exact valid)]
  exact ⟨_, rfl⟩

theorem exists_deriveObjectKey (key : SecretKey) (objectId : ObjectId) (role : LogicalObjectRole) :
    ∃ objectKey, deriveObjectKey key cipher.captureId (managedObjectContext cipher objectId role) =
      .ok objectKey := by
  have valid : (managedObjectContext cipher objectId role).validate = .ok () :=
    (rejectIf_eq_ok _ _ ()).mpr (not_not.mpr rfl)
  have scope : rejectIf (cipher.captureId ≠ (managedObjectContext cipher objectId role).captureId)
      Error.schemaInvalid = .ok () := (rejectIf_eq_ok _ _ ()).mpr (not_not.mpr rfl)
  rw [deriveObjectKey, valid, ok_bind, scope, ok_bind,
    Canonical.bytes_of_exact (ObjectKeyContext.exact _)]
  exact ⟨_, rfl⟩

omit [Primitives] in
theorem exists_plainSize {cipherSize : UInt64} {plain : Nat}
    (size : cipherSize.toNat = plain + minCipherSize) :
    ∃ plainSize, plainSizeOf cipherSize = .ok plainSize ∧ plainSize.toNat = plain := by
  have small : plain < UInt64.size :=
    (Nat.le_add_right _ _).trans_lt (size ▸ cipherSize.toNat_lt)
  refine ⟨UInt64.ofNat plain, ?_, UInt64.toNat_ofNat_of_lt' small⟩
  rw [plainSizeOf_eq_ok, UInt64.toNat_ofNat_of_lt' small, size]

omit [Primitives] in
/-- The first and only chunk of a small object has a valid context. -/
theorem validate_onlyChunk {digest : Digest} {plainSize : UInt64}
    (small : plainSize.toNat ≤ chunkBytes) :
    ({ chunkCount := 1, chunkIndex := 0, format := .v1, objectContextDigest := digest
       plainSize := plainSize } : ChunkKeyContext).validate = .ok () := by
  have size : (8388608 : UInt64).toNat = chunkBytes := rfl
  rw [ChunkKeyContext.validate, rejectIf_eq_ok, not_or, not_or, not_or]
  refine ⟨(by decide : (1 : UInt32) ≠ 0), (by decide : ¬ (1 : UInt32) > 32767),
    (by decide : ¬ (0 : UInt32) ≥ 1), ?_⟩
  rw [gt_iff_lt, UInt64.lt_iff_toNat_lt, size]
  exact Nat.not_lt.mpr small

theorem opened (leads : Leads) (key : SecretKey) {ciphertext : OrderedMap Digest Bytes}
    (holds : Holds ciphertext) : openManagedManifest key cipher ciphertext = .ok manifest := by
  have valid := ManagedCandidateIdentity.validate_eq_ok.mp
    (@StoredSample.validate_identity ["a"] (by decide) (by decide))
  have exact := valid.exact_manifest reference
  have small : (Canonical.text manifest).length ≤ chunkBytes := by
    rw [manifest, ManagedCandidateIdentity.length_text_manifest rfl StoredSample.validate_reference]
    exact StoredSample.manifestBytes_le.2.trans (by decide)
  obtain ⟨plainSize, sized, plain⟩ := exists_plainSize length_manifest
  obtain ⟨objectKey, derived⟩ := exists_deriveObjectKey key cipher.manifestObject.objectId
    .captureBatchManifest
  have context := Canonical.digest_of_exact (ObjectKeyContext.exact
    (managedObjectContext cipher cipher.manifestObject.objectId .captureBatchManifest))
  have chunkValid := @validate_onlyChunk (Digest.of (Canonical.text (managedObjectContext cipher
    cipher.manifestObject.objectId .captureBatchManifest))) plainSize (plain.trans_le small)
  obtain ⟨chunkKey, derivedChunk⟩ := exists_deriveChunkKey objectKey chunkValid
  have decrypted := decryptChunk_blob leads chunkKey 0 chunkValid plain small
  simp only [openManagedManifest, bind_eq_ok, okOr_eq_ok, pure_eq_ok]
  refine ⟨plainSize, sized, _, context, objectKey, derived, chunkKey, derivedChunk, _,
    holds.manifest, _, decrypted, manifest,
    Canonical.parseStrict_bytes (Canonical.bytes_of_exact exact), (), ?_, rfl⟩
  apply validateManagedManifestBinding_eq_ok.mpr
  refine ⟨?_, rfl, rfl, rfl, rfl, rfl, rfl, rfl, rfl, rfl, rfl⟩
  simp only [ManagedCandidateManifest.validate, bind_eq_ok, rejectIf_eq_ok, not_not]
  refine ⟨(), ManagedCandidateIdentity.validate_eq_ok.mpr valid, (), StoredSample.validate_reference,
    _, Canonical.digest_of_exact exact_identity, rfl⟩

theorem openManagedObject_empty (leads : Leads) (key : SecretKey)
    {ciphertext : OrderedMap Digest Bytes} (holds : Holds ciphertext) {index : Nat}
    {descriptor : LogicalObject} (small : index < 5) (empty : descriptor.plainSize = 0)
    (digest : descriptor.plainDigest = mark 0) (before : List ChunkCall) :
    openManagedObject (fun _ _ => .ok ()) key cipher ciphertext
      { chunks := [chunk (1 + index)], descriptor } before =
        .ok () (before ++ [{ descriptor, index := 0, plaintext := [] }]) := by
  obtain ⟨objectKey, derived⟩ := exists_deriveObjectKey key descriptor.objectId descriptor.role
  have context := Canonical.digest_of_exact (ObjectKeyContext.exact
    (managedObjectContext cipher descriptor.objectId descriptor.role))
  have chunkValid := @validate_onlyChunk (Digest.of (Canonical.text (managedObjectContext cipher
    descriptor.objectId descriptor.role))) 0 (Nat.zero_le _)
  obtain ⟨chunkKey, derivedChunk⟩ := exists_deriveChunkKey objectKey chunkValid
  have decrypted := @decryptChunk_blob _ leads chunkKey (1 + index) [] _ chunkValid rfl
    (Nat.zero_le _)
  have opens : openManagedChunk objectKey (Digest.of (Canonical.text (managedObjectContext cipher
      descriptor.objectId descriptor.role))) 1 ciphertext (chunk (1 + index)) = .ok [] := by
    simp only [openManagedChunk, bind_eq_ok, okOr_eq_ok]
    exact ⟨0, plainSizeOf_eq_ok.mpr rfl, chunkKey, derivedChunk, _, holds.chunks index small,
      decrypted⟩
  simp only [openManagedObject, Update.bind_eq_ok, Update.attempt_eq_ok]
  refine ⟨objectKey, before, ⟨derived, rfl⟩, _, before, ⟨context, rfl⟩, 1, before, ⟨rfl, rfl⟩,
    (0, []), _, ?_, ?_, rfl⟩
  · simp only [openManagedChunks, Update.bind_eq_ok, Update.attempt_eq_ok, Update.consume_eq_ok,
      Update.pure_run]
    exact ⟨[], before, ⟨opens, rfl⟩, 0, before, ⟨rfl, rfl⟩, 0, before, ⟨rfl, rfl⟩, (), before,
      ⟨by rw [empty]; rfl, rfl⟩, (), _, ⟨trivial, rfl⟩, rfl⟩
  · rw [rejectIf_eq_ok, not_or, not_not, not_not]
    exact ⟨empty.symm, leads.empty.trans digest.symm⟩

/-- Objects without bytes are opened one after the other. -/
theorem exists_openManagedObjects (leads : Leads) (key : SecretKey)
    {ciphertext : OrderedMap Digest Bytes} (holds : Holds ciphertext)
    {entries : List (LogicalObject × Nat)}
    (empty : ∀ entry ∈ entries, entry.2 < 5 ∧ entry.1.plainSize = 0 ∧ entry.1.plainDigest = mark 0)
    (before : List ChunkCall) :
    ∃ after, openManagedObjects (fun _ _ => .ok ()) key cipher ciphertext
      (entries.map fun (descriptor, index) => { chunks := [chunk (1 + index)], descriptor }) before =
        .ok () after := by
  induction entries generalizing before with
  | nil => exact ⟨before, rfl⟩
  | cons entry rest ih =>
      obtain ⟨⟨small, size, digest⟩, others⟩ := List.forall_mem_cons.mp empty
      have first := openManagedObject_empty leads key holds small size digest before
      obtain ⟨after, ran⟩ := ih others _
      refine ⟨after, ?_⟩
      simp only [List.map_cons, openManagedObjects, Update.bind_eq_ok]
      exact ⟨(), _, first, ran⟩

theorem exists_openManagedCandidate (leads : Leads) (key : SecretKey) :
    ∃ ciphertext calls, openManagedCandidate (fun _ _ => .ok ()) key cipher ciphertext [] =
      .ok manifest calls := by
  obtain ⟨ciphertext, holds⟩ := exists_holds
  have entries : ∀ entry ∈ objects.zipIdx, entry.2 < 5 ∧ entry.1.plainSize = 0 ∧
      entry.1.plainDigest = mark 0 := by decide
  obtain ⟨calls, handed⟩ := exists_openManagedObjects leads key holds entries []
  refine ⟨ciphertext, calls, ?_⟩
  simp only [openManagedCandidate, Update.bind_eq_ok, Update.attempt_eq_ok, Update.pure_run]
  exact ⟨(), [], ⟨accepted, rfl⟩, (), [], ⟨closed leads holds, rfl⟩, manifest, [],
    ⟨opened leads key holds, rfl⟩, (), calls, handed, rfl⟩

omit [Primitives] in
/-- A digest is the first byte, and nothing is encrypted. -/
@[reducible] def leading : Primitives :=
  { Backend.Sample.primitives with
    sha256 := fun bytes => ⟨Fin.castLE (by norm_num) (bytes.headD 0).toFin⟩
    aesGcmDecrypt := fun _ _ message _ => some (message.take (message.length - 16)) }

omit [Primitives] in
theorem leads_leading : @Leads leading :=
  @Leads.mk leading (fun _ _ => rfl) rfl fun _ _ _ _ => rfl


end OpenedSample

omit [Primitives] in
/-- A candidate of five empty manifests is opened, and handed out as it is declared. -/
theorem openManagedCandidate_streams_sample :
    letI := OpenedSample.leading
    ∃ ciphertext calls,
      openManagedCandidate (fun _ _ => .ok ()) (Vector.replicate 32 0) OpenedSample.cipher
        ciphertext [] = .ok OpenedSample.manifest calls ∧
      StreamsCandidate OpenedSample.cipher ciphertext OpenedSample.manifest calls := by
  let _ := OpenedSample.leading
  obtain ⟨ciphertext, calls, ran⟩ := OpenedSample.exists_openManagedCandidate
    OpenedSample.leads_leading (Vector.replicate 32 0)
  exact ⟨ciphertext, calls, ran,
    (openManagedCandidate_streams _ _ _ _).1 OpenedSample.manifest calls ran⟩

end Reproit
