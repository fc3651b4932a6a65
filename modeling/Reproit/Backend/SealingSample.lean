/-
# A sealed capture

The closed capture of a World whose state is one file, with any content of the file.  It is
admitted by an executor that always fails alike, and it can be sealed.
-/

import Reproit.Backend.AdmissionSample
import Reproit.Backend.SamplePrimitives
import Reproit.Backend.Sealing

namespace Reproit.Backend.Sample

open Json

variable [Primitives]

/-! ## A World with one file -/

/-- The artifact of a file. -/
def fileArtifact (content : Bytes) : ArtifactReference where
  digest := Digest.of content
  mediaType := "application/octet-stream"
  size := UInt64.ofNat content.length
  uri := "file:a"

def fileClaim : ProviderResourceClaim where
  materializedBytes := 0
  objects := 2
  pinnedBytes := 536870912
  temporaryBytes := 0

def filePoint (content : Bytes) : Reproit.RecoverablePoint :=
  { point [fileArtifact content] with resourceClaim := fileClaim }

def fileWorld (content : Bytes) : WorldCheckpoint where
  createdAt := time
  format := .v1
  points := [filePoint content]

omit [Primitives] in
theorem toNat_length {content : Bytes} (small : content.length ≤ 536870912) :
    (UInt64.ofNat content.length).toNat = content.length :=
  UInt64.toNat_ofNat_of_lt' (small.trans_lt (by decide))

theorem validate_filePoint {content : Bytes} (small : content.length ≤ 536870912) :
    (filePoint content).validate = .ok () := by
  have empty : ({ point [] with resourceClaim := fileClaim } : Reproit.RecoverablePoint).validate =
      .ok () := by decide
  have texts : "application/octet-stream".isEmpty = false ∧
      "application/octet-stream".utf8ByteSize ≤ 256 ∧ "file:a".isEmpty = false ∧
        "file:a".utf8ByteSize ≤ 2048 ∧
          ("application/octet-stream".toList ++ "file:a".toList).any
            ArtifactReference.isControl = false := by decide
  have size := toNat_length small
  simp only [Reproit.RecoverablePoint.validate, bind_eq_ok, rejectIf_eq_ok, okOr_eq_ok,
    not_or] at empty ⊢
  obtain ⟨_, ⟨-, limits⟩, _, capabilities, _, claim, _, scope, -⟩ := empty
  refine ⟨(), ⟨(by decide : ¬ 1 > 32767), limits⟩, (), capabilities, (), claim, (), scope, (), ?_,
    UInt64.ofNat content.length, ?_, ?_, ?_⟩
  · rw [forEach_eq_ok]
    intro artifact listed
    obtain rfl := List.mem_singleton.mp listed
    rw [ArtifactReference.validate, rejectIf_eq_ok]
    simp only [fileArtifact, texts, size, maxObjectBytes, not_or, not_lt, Bool.false_eq_true,
      not_false_eq_true, true_and, and_true]
    omega
  · rw [checkedSum_eq_some]
    exact Nat.zero_add _
  · rw [gt_iff_lt, UInt64.lt_iff_toNat_lt, size]
    exact not_lt.mpr small
  · exact (by decide : ¬ 1 > (2 : UInt64).toNat)

theorem validate_fileWorld {content : Bytes} (small : content.length ≤ 536870912) :
    (fileWorld content).validate = .ok () :=
  WorldCheckpoint.validate_of_point (validate_filePoint small) (le_refl time)
    (by decide : 1 ≤ 4) (Nat.zero_le _) rfl

theorem storable_fileWorld (content : Bytes) : (fileWorld content).Storable := by
  constructor
  · exact List.nodup_singleton _
  · intro artifact listed
    obtain rfl := List.mem_singleton.mp listed
    exact (by decide : "application/octet-stream".utf8ByteSize ≤ 128)

/-! ## The closed objects -/

/-- The content of every object of the capsule. -/
def contents (content : Bytes) : List (ObjectId × Bytes) :=
  [(id 1, Canonical.text failure), (id 2, Canonical.text subjectManifest), (id 3, []),
    (id 4, Canonical.text trigger), (id 5, []), (id 6, Canonical.text (fileWorld content)),
    (id 7, content)]

def fileObjects (content : Bytes) : ObjectClosure :=
  ⟨Std.ExtTreeMap.ofList (contents content) compare⟩

theorem map_fst_contents (content : Bytes) :
    (contents content).map Prod.fst = (List.range' 1 7).map id := rfl

theorem getElem?_fileObjects {content : Bytes} {objectId : ObjectId} {bytes : Bytes}
    (listed : (objectId, bytes) ∈ contents content) :
    (fileObjects content).objects[objectId]? = some bytes := by
  have distinct : (contents content).Pairwise
      fun first second => ¬ compare first.1 second.1 = .eq := by
    have keys : ((contents content).map Prod.fst).Pairwise (· < ·) := by
      rw [map_fst_contents, List.pairwise_map]
      refine List.Pairwise.imp_of_mem (fun _ member below => id_lt_id below ?_)
        (List.pairwise_lt_range' 1)
      have bound := List.mem_range'_1.mp member
      omega
    exact (List.pairwise_map.mp keys).imp fun below same =>
      ne_of_lt below (compare_eq_iff_eq.mp same)
  exact Std.ExtTreeMap.getElem?_ofList_of_mem (compare_eq_iff_eq.mpr rfl) distinct listed

theorem not_mem_fileObjects (content : Bytes) {index : Nat} (high : 7 < index)
    (small : index < 2 ^ 64) : id index ∉ (fileObjects content).objects := by
  intro held
  rw [fileObjects, Std.ExtTreeMap.mem_ofList, List.contains_iff_mem, map_fst_contents] at held
  obtain ⟨other, listed, same⟩ := List.mem_map.mp held
  have bound := List.mem_range'_1.mp listed
  have equal := id_injective (by omega) small same
  omega

/-- The objects of the capsule are closed, and none is large. -/
theorem closed_fileObjects {content : Bytes} (small : content.length ≤ 536870912)
    {object : LogicalObject} (listed : object ∈ (capsule (fileWorld content) 0).objects) :
    ∃ bytes, (fileObjects content).objects[object.objectId]? = some bytes ∧
      object.plainDigest = Digest.of bytes ∧ object.plainSize.toNat = bytes.length ∧
        bytes.length ≤ 536870912 := by
  have sized : ∀ {length : Nat}, length ≤ 262144 → (UInt64.ofNat length).toNat = length :=
    fun short => UInt64.toNat_ofNat_of_lt' (lt_of_le_of_lt short (by decide))
  have failureLength := length_text_failure
  have subjectLength := length_text_subjectManifest
  have triggerLength := length_text_trigger
  have worldLength := (WorldCheckpoint.exact_of_validate (validate_fileWorld small)).2
  rw [maxWorldManifestBytes] at worldLength
  have objects : (capsule (fileWorld content) 0).objects =
      [failureObject, subjectManifestObject, subjectMember, triggerObject, triggerInput,
        worldObject (fileWorld content), stateObject (fileArtifact content) 7] := rfl
  rw [objects] at listed
  simp only [List.mem_cons, List.not_mem_nil, or_false] at listed
  rcases listed with rfl | rfl | rfl | rfl | rfl | rfl | rfl
  · exact ⟨_, getElem?_fileObjects (.head _), rfl, sized (by omega), by omega⟩
  · exact ⟨_, getElem?_fileObjects (.tail _ (.head _)), rfl, sized (by omega), by omega⟩
  · exact ⟨_, getElem?_fileObjects (.tail _ (.tail _ (.head _))), rfl, rfl, Nat.zero_le _⟩
  · exact ⟨_, getElem?_fileObjects (.tail _ (.tail _ (.tail _ (.head _)))), rfl, sized (by omega),
      by omega⟩
  · exact ⟨_, getElem?_fileObjects (.tail _ (.tail _ (.tail _ (.tail _ (.head _))))), rfl, rfl,
      Nat.zero_le _⟩
  · exact ⟨_, getElem?_fileObjects (.tail _ (.tail _ (.tail _ (.tail _ (.tail _ (.head _)))))), rfl,
      sized (by omega), by omega⟩
  · exact ⟨_, getElem?_fileObjects
      (.tail _ (.tail _ (.tail _ (.tail _ (.tail _ (.tail _ (.head _))))))), rfl,
      toNat_length small, small⟩

/-! ## The request -/

def sealingIds : SealingIds where
  capsuleObjectId := id 100
  manifestObjectId := id 101
  proofObjectIds := #v[id 102, id 103, id 104]

def wrappedKey : WrappedKey where
  algorithm := "AES-256-GCM"
  contextVersion := 1
  keyReference := "key"
  providerId := "provider"
  wrappedBytes := encodeBase64Url [0]

def uploadMetadata : UploadMetadata where
  campaignContext := none
  causalParentIds := []
  captureId := id 0
  discoverySource := some .production
  operationId := none
  organizationId := id 0
  projectId := id 0
  repositoryId := "repository"
  serviceId := id 0
  servicePath := "service"
  signatureTime := time
  sourceRevision := "revision"
  wrappedKey := wrappedKey

/-- A signer whose signature is the one that is verified. -/
def signer (publicKey : SecretKey) : AdmissionSigner where
  signerKeyId := "key"
  sign := fun unsigned =>
    .ok (encodeBase64Url (numberBytes 64 (checksum (publicKey.toList ++ unsigned))).toList)

/-- The request to seal the capture of a file. -/
def sealRequest (content : Bytes) : SealRequest where
  admitted :=
    { capsuleDigest := Digest.of (Canonical.text (capsule (fileWorld content) 0))
      proofs := proofs (fileWorld content) }
  groupingKey := Vector.replicate 32 0
  ids := sealingIds
  input := admissionInput (fileWorld content) (fileObjects content) identity
  metadata := uploadMetadata
  occurrenceKey := Vector.replicate 32 0
  signer := signer (Vector.replicate 32 0)

/-- The nonces are numbered. -/
def nonceSource : NonceSource := fun index => .ok (numberBytes 12 index)

omit [Primitives] in
theorem supplies {count : Nat} (few : count ≤ 65536) :
    Supplies nonceSource (numberBytes 12) count := by
  constructor
  case answers => exact fun _ _ => rfl
  case distinct =>
    intro first firstSmall second secondSmall same
    have low := congrArg (fun bytes : Nonce => bytes[0]) same
    have high := congrArg (fun bytes : Nonce => bytes[1]) same
    simp only [numberBytes, Vector.getElem_ofFn, Nat.pow_zero, Nat.pow_one, Nat.div_one] at low high
    have lowNumber := congrArg UInt8.toNat low
    have highNumber := congrArg UInt8.toNat high
    simp only [UInt8.toNat_ofNat'] at lowNumber highNumber
    omega

omit [Primitives] in
/-- The three proofs have three digests. -/
theorem nodup_proofs (world : WorldCheckpoint) :
    letI := marked
    ((proofs world).toList.map fun proof => Digest.of (Canonical.text proof)).Nodup := by
  let _ := marked
  have runs : PerturbationCase.baseline.runIndex ≠ PerturbationCase.coldAmbient.runIndex ∧
      PerturbationCase.baseline.runIndex ≠ PerturbationCase.timingAmbient.runIndex ∧
        PerturbationCase.coldAmbient.runIndex ≠ PerturbationCase.timingAmbient.runIndex := by
    decide
  have first : Digest.of (Canonical.text (proof world .baseline)) ≠
      Digest.of (Canonical.text (proof world .coldAmbient)) := digest_proof_ne runs.1
  have second : Digest.of (Canonical.text (proof world .baseline)) ≠
      Digest.of (Canonical.text (proof world .timingAmbient)) := digest_proof_ne runs.2.1
  have third : Digest.of (Canonical.text (proof world .coldAmbient)) ≠
      Digest.of (Canonical.text (proof world .timingAmbient)) := digest_proof_ne runs.2.2
  simp [proofs, first, second, third]

omit [Primitives] in
/-- The input of the request is admitted. -/
theorem admitCandidate_sealRequest {content : Bytes} (small : content.length ≤ 536870912) :
    letI := marked
    admitCandidate (sealRequest content).input (executor identity) =
      .ok (sealRequest content).admitted := by
  let _ := marked
  have success := @admitWithCalls_sample marked (fileWorld content) (fileObjects content) identity
    (validate_fileWorld small) (storable_fileWorld content) validate_identity (nodup_proofs _)
  rw [admitCandidate, sealRequest, success]
  rfl

/-! ## The request is sealed -/

omit [Primitives] in
theorem encryptionWorks : @EncryptionWorks marked := by
  let _ := marked
  constructor
  case correct => exact aeadCorrect
  case encrypts => exact fun _ _ _ _ _ => ⟨_, rfl⟩
  case digests => exact fun _ _ _ _ => nonce_eq_of_digest

omit [Primitives] in
theorem prepared {content : Bytes} (small : content.length ≤ 536870912) :
    letI := marked
    (sealRequest content).Prepared := by
  let _ := marked
  have valid := validate_fileWorld small
  have storable := storable_fileWorld content
  constructor
  case ids =>
    have apart : sealingIds.all.Nodup ∧ sealingIds.proofObjectIds.toList.IsChain (· < ·) := by
      decide
    rw [validateSealingIds, rejectIf_eq_ok, not_or, not_or, not_not, not_not]
    refine ⟨apart.1, apart.2, ?_⟩
    rintro ⟨objectId, listed, held⟩
    have indexes : ∃ index, 7 < index ∧ index < 2 ^ 64 ∧ objectId = id index := by
      have listed : objectId = id 100 ∨ objectId = id 101 ∨ objectId = id 102 ∨
          objectId = id 103 ∨ objectId = id 104 := by
        simpa [SealingIds.all, sealRequest, sealingIds] using listed
      rcases listed with rfl | rfl | rfl | rfl | rfl
      · exact ⟨100, by decide, by decide, rfl⟩
      · exact ⟨101, by decide, by decide, rfl⟩
      · exact ⟨102, by decide, by decide, rfl⟩
      · exact ⟨103, by decide, by decide, rfl⟩
      · exact ⟨104, by decide, by decide, rfl⟩
    obtain ⟨index, high, below, rfl⟩ := indexes
    exact not_mem_fileObjects content high below held
  case capsule =>
    exact ReplayCapsule.validate_eq_ok.mp
      (validate_capsule valid storable.mediaTypes (Nat.zero_le _))
  case closed =>
    intro object listed
    obtain ⟨bytes, found, digest, size, -⟩ := closed_fileObjects small listed
    exact ⟨bytes, found, digest, size⟩
  case capsuleDigest => rfl
  case modes =>
    intro proof listed
    have listed : proof ∈ (proofs (fileWorld content)).toList := listed
    simp only [proofs, Vector.toList_mk, List.mem_cons, List.not_mem_nil, or_false] at listed
    rcases listed with rfl | rfl | rfl <;> rfl
  case distinct => exact nodup_proofs _

theorem described (content : Bytes) : (sealRequest content).Described := by
  have texts : ("key".isEmpty = false ∧ "key".utf8ByteSize ≤ 256) ∧
      ("revision".isEmpty = false ∧ "revision".utf8ByteSize ≤ 256) := by decide
  constructor
  case failure => exact validate_identity
  case failureSummary => rfl
  case triggerSummary => rfl
  case campaign => exact nofun
  case ordinary => exact fun _ => ⟨rfl, rfl⟩
  case signerKeyId => exact texts.1
  case sourceRevision => exact texts.2
  case wrappedKey =>
    have fields : ¬ (wrappedKey.algorithm.isEmpty ∨ wrappedKey.algorithm.utf8ByteSize > 128 ∨
        wrappedKey.contextVersion ≠ 1 ∨ wrappedKey.keyReference.isEmpty ∨
        wrappedKey.keyReference.utf8ByteSize > 2048 ∨ wrappedKey.providerId.isEmpty ∨
        wrappedKey.providerId.utf8ByteSize > 256 ∨ wrappedKey.wrappedBytes.isEmpty ∨
        wrappedKey.wrappedBytes.utf8ByteSize > 16384) := by decide
    simp only [WrappedKey.validate, bind_eq_ok, rejectIf_eq_ok, pure_eq_ok]
    exact ⟨(), fields, [0], decodeBase64UrlBytes_eq_ok.mpr rfl, trivial⟩
  case signs => exact fun unsigned => ⟨_, _, rfl, decodeBase64Url_eq_ok.mpr rfl⟩

omit [Primitives] in
theorem pieceCount_le {size : Nat} (small : size ≤ 536870912) :
    pieceCount chunkBytes size ≤ 64 := by
  have count : (size + 8388607) / 8388608 ≤ 64 := by omega
  exact max_le (by decide) count

omit [Primitives] in
theorem objectEntryBytes_le {object : LogicalObject} (valid : object.validate = .ok ())
    (small : object.plainSize.toNat ≤ 536870912) : objectEntryBytes object ≤ 12000 := by
  have descriptor := LogicalObject.size_le valid
  rw [LogicalObject.size_eq] at descriptor
  have chunks : arrayBytes ((pieceSizes chunkBytes object.plainSize.toNat).zipIdx.map
      fun piece => chunkEntryBytes (piece.1 + minCipherSize) piece.2) ≤ 2 + 64 * (1 + 151) := by
    apply arrayBytes_le
    · rw [List.length_map, List.length_zipIdx, length_pieceSizes]
      exact pieceCount_le small
    · intro size listed
      obtain ⟨⟨piece, index⟩, pair, rfl⟩ := List.mem_map.mp listed
      have below := List.snd_lt_of_mem_zipIdx pair
      have width := le_of_mem_pieceSizes (List.fst_mem_of_mem_zipIdx pair)
      rw [length_pieceSizes, Nat.add_zero] at below
      have few := pieceCount_le small
      have length : digits (piece + minCipherSize) ≤ 7 := by
        apply (Nat.length_toDigits_le_iff (by decide) (by decide)).mpr
        simp only [chunkBytes, minCipherSize] at width ⊢
        omega
      have position : digits index ≤ 2 :=
        (Nat.length_toDigits_le_iff (by decide) (by decide)).mpr (by omega)
      simp only [chunkEntryBytes]
      omega
  have whole : 25 + object.documentBytes + arrayBytes
      ((pieceSizes chunkBytes object.plainSize.toNat).zipIdx.map
        fun piece => chunkEntryBytes (piece.1 + minCipherSize) piece.2) ≤ 12000 := by omega
  exact whole

omit [Primitives] in
theorem length_descriptors (content : Bytes) :
    letI := marked
    (sealRequest content).descriptors.length = 11 := rfl

omit [Primitives] in
theorem plainSize_le {content : Bytes} (small : content.length ≤ 536870912) :
    letI := marked
    ∀ object ∈ (sealRequest content).descriptors, object.plainSize.toNat ≤ 536870912 := by
  let _ := marked
  have sealable := prepared small
  intro object listed
  rcases List.mem_append.mp listed with inner | added
  · obtain ⟨bytes, -, -, size, bound⟩ := closed_fileObjects small inner
    exact size.trans_le bound
  · rcases List.mem_cons.mp added with rfl | proof
    · rw [sealable.length_capsule]
      exact (ReplayCapsule.length_text_le sealable.capsule).trans (by decide)
    · obtain ⟨pair, -, rfl⟩ := List.mem_map.mp proof
      exact (SealRequest.Prepared.length_proof pair).trans_le
        ((Proof.length_text_le pair.1).trans (by decide))

omit [Primitives] in
/-- The capture of a file of at most half a gibibyte is sealed. -/
theorem exists_sealUpload {content : Bytes} (small : content.length ≤ 536870912) :
    letI := marked
    ∃ upload, sealUpload (sealRequest content) nonceSource = .ok upload := by
  let _ := marked
  have sealable := prepared small
  have sizes := plainSize_le small
  have few : (sealRequest content).storedChunks ≤ 1 + 11 * 64 := by
    have each := List.sum_le_card_nsmul
      ((sealRequest content).descriptors.map fun object =>
        pieceCount chunkBytes object.plainSize.toNat) 64 fun count listed => by
          obtain ⟨object, among, rfl⟩ := List.mem_map.mp listed
          exact pieceCount_le (sizes object among)
    rw [List.length_map, length_descriptors, smul_eq_mul] at each
    exact Nat.add_le_add_left each 1
  have objects : arrayBytes ((sealRequest content).descriptors.map objectEntryBytes) ≤
      2 + 11 * (1 + 12000) := by
    apply arrayBytes_le (List.length_map _).le
    intro size listed
    obtain ⟨object, among, rfl⟩ := List.mem_map.mp listed
    exact objectEntryBytes_le (sealable.validate_descriptor among) (sizes object among)
  have texts : arrayBytes (["debugger.gdb-remote"].map stringSize) +
      stringSize ProcessingMode.managed.name + stringSize "repository" + stringSize "service" +
        stringSize "revision" ≤ 1000 := by decide
  apply (exists_sealUpload_iff encryptionWorks (supplies (few.trans (by decide))) sealable
    (described content)).mpr
  refine ⟨few.trans (by decide), ?_⟩
  change 851 + _ + arrayBytes (["debugger.gdb-remote"].map stringSize) +
    stringSize ProcessingMode.managed.name + stringSize "repository" + stringSize "service" +
      stringSize "revision" ≤ maxBatchDocumentBytes
  rw [maxBatchDocumentBytes]
  omega

end Reproit.Backend.Sample
