/-
# Which admitted captures are sealed

A capture whose objects are closed was admitted after three executions.  It is sealed
exactly when its stored chunks and the bytes of its manifest are within the limits of a
capture batch and, in private mode, when the texts of its failure are within those of an
envelope.  The validator of a capsule compares none of them: a capsule may have so many
objects that the manifest of its upload is refused.
-/

import Reproit.Backend.SealedAdmission
import Reproit.Cloud.Delivery
import Reproit.Failure.Summaries

namespace Reproit.Backend

open Json

variable [Primitives]

/-! ## Closed objects -/

/-- An entry holds the bytes of an object. -/
structure HoldsBytes (object : LogicalObject) (entry : ObjectId × Bytes) : Prop where
  valid : object.validate = .ok ()
  id : object.objectId = entry.1
  digest : object.plainDigest = Digest.of entry.2
  size : object.plainSize.toNat = entry.2.length

namespace ObjectClosure

/-- The bytes of every object are there, with its digest and its size. -/
theorem held_of_new {descriptors : List LogicalObject} {objects : OrderedMap ObjectId Bytes}
    {closure : ObjectClosure} (closed : ObjectClosure.new descriptors objects = .ok closure)
    {object : LogicalObject} (listed : object ∈ descriptors) :
    ∃ bytes, closure.objects[object.objectId]? = some bytes ∧
      object.plainDigest = Digest.of bytes ∧ object.plainSize.toNat = bytes.length := by
  simp only [ObjectClosure.new, bind_eq_ok, pure_eq_ok, forEach_eq_ok, rejectIf_eq_ok, okOr_eq_ok,
    not_or, not_not] at closed
  obtain ⟨_, -, _, every, rfl⟩ := closed
  obtain ⟨_, -, bytes, found, digest, size⟩ := every object listed
  exact ⟨bytes, found, digest, size⟩

/-- The entries that hold the bytes of different objects close them. -/
theorem new_ofList {descriptors : List LogicalObject} {entries : List (ObjectId × Bytes)}
    (distinct : (descriptors.map LogicalObject.objectId).Nodup)
    (held : List.Forall₂ HoldsBytes descriptors entries) :
    ObjectClosure.new descriptors (Std.ExtTreeMap.ofList entries compare) =
      .ok ⟨Std.ExtTreeMap.ofList entries compare⟩ := by
  have ids : descriptors.map LogicalObject.objectId = entries.map Prod.fst :=
    (map_eq_of_pairing (fun _ _ one => one.id.symm) held).symm
  have apart : entries.Pairwise fun first second => ¬ compare first.1 second.1 = .eq := by
    rw [ids] at distinct
    exact (List.pairwise_map.mp distinct).imp fun different same =>
      different (compare_eq_iff_eq.mp same)
  simp only [ObjectClosure.new, bind_eq_ok, pure_eq_ok, forEach_eq_ok, rejectIf_eq_ok, okOr_eq_ok,
    not_or, not_not]
  refine ⟨(), ⟨distinct, ?_, ?_⟩, (), ?_, trivial⟩
  · rw [Std.ExtTreeMap.size_ofList apart, held.length_eq]
  · rw [ids]
    rintro ⟨objectId, listed, missing⟩
    rw [Std.ExtTreeMap.mem_ofList, List.contains_iff_mem] at missing
    exact missing listed
  · intro object listed
    obtain ⟨entry, among, one⟩ := exists_result held listed
    refine ⟨(), one.valid, entry.2, ?_, one.digest, one.size⟩
    exact Std.ExtTreeMap.getElem?_ofList_of_mem (compare_eq_iff_eq.mpr one.id.symm) apart among

end ObjectClosure

/-! ## Admitted requests -/

/-- The request seals the admitted capture of closed objects, which hold no more bytes than an
admission may.  Its description is within the limits that the validator of an envelope has for
it, and its signer answers with the text of a signature. -/
structure SealRequest.Ready (request : SealRequest) : Prop where
  admission : ∃ executor, admitCandidate request.input executor = .ok request.admitted
  closed : ∃ objects, ObjectClosure.new request.input.capsule.objects objects =
    .ok request.input.objects
  small : (request.input.capsule.objects.map fun object => object.plainSize.toNat).sum ≤
    maxAdmissionPlaintextBytes
  ids : validateSealingIds request = .ok ()
  campaign : ∀ context, request.metadata.campaignContext = some context →
    context.validate = .ok () ∧ context.projectId = request.metadata.projectId ∧
      request.metadata.operationId.isSome ∧ request.metadata.causalParentIds.length ≤ 32 ∧
        request.metadata.causalParentIds.Nodup ∧
          request.metadata.discoverySource ≠ some .production
  ordinary : request.metadata.campaignContext = none →
    request.metadata.operationId = none ∧ request.metadata.causalParentIds = []
  signerKeyId : request.signer.signerKeyId.isEmpty = false ∧
    request.signer.signerKeyId.utf8ByteSize ≤ 256
  sourceRevision : request.metadata.sourceRevision.isEmpty = false ∧
    request.metadata.sourceRevision.utf8ByteSize ≤ 256
  wrappedKey : request.metadata.wrappedKey.validate = .ok ()
  signs : ∀ unsigned, ∃ (signature : String) (bytes : Vector UInt8 64),
    request.signer.sign unsigned = .ok signature ∧ decodeBase64Url 64 signature = .ok bytes

namespace SealRequest.Ready

variable {request : SealRequest}

theorem validate_expectedFailure (ready : request.Ready) :
    request.input.expectedFailure.validate = .ok () := by
  obtain ⟨executor, admission⟩ := ready.admission
  obtain ⟨_, completed, -⟩ := (map_eq_ok _ _ _).mp admission
  simp only [admitWithCalls, validateAdmissionInput, bind_eq_ok] at completed
  obtain ⟨_, ⟨_, -, _, -, _, identified, -⟩, -⟩ := completed
  exact identified

theorem prepared (ready : request.Ready) : request.Prepared := by
  obtain ⟨executor, admission⟩ := ready.admission
  obtain ⟨objects, closed⟩ := ready.closed
  have admitted := SealRequest.admitted_of_admit admission
  obtain ⟨written, modes, distinct⟩ := admitted.proofSet
  constructor
  case ids => exact ready.ids
  case capsule => exact admitted.capsule
  case closed => exact fun object listed => ObjectClosure.held_of_new closed listed
  case capsuleDigest =>
    exact Except.ok.inj (written.symm.trans
      (Canonical.digest_of_exact (ReplayCapsule.exact admitted.capsule)))
  case modes => exact modes
  case distinct => exact distinct

/-- The request is described when the summaries of its failure are accepted. -/
theorem described_iff (ready : request.Ready) : request.Described ↔
    (request.input.capsule.processingMode = .private' →
      request.input.expectedFailure.ShortTexts) := by
  have identified := ready.validate_expectedFailure
  have summaries := FailureIdentity.validate_safeSummaries identified
    request.input.capsule.processingMode
  constructor
  · intro described
    exact summaries.mp ⟨described.failureSummary, described.triggerSummary⟩
  · intro short
    obtain ⟨failure, trigger⟩ := summaries.mpr short
    constructor
    case failure => exact identified
    case failureSummary => exact failure
    case triggerSummary => exact trigger
    case campaign => exact ready.campaign
    case ordinary => exact ready.ordinary
    case signerKeyId => exact ready.signerKeyId
    case sourceRevision => exact ready.sourceRevision
    case wrappedKey => exact ready.wrappedKey
    case signs => exact ready.signs

end SealRequest.Ready

/-! ## A capture with many objects -/

namespace Sample

/-- The bytes of the objects of a capture with spare objects. -/
def crowdedContents (spare : Nat) : List (ObjectId × Bytes) :=
  contents [] ++ (List.range' 8 spare).map fun index => (id index, [])

def crowdedObjects (spare : Nat) : ObjectClosure :=
  ⟨Std.ExtTreeMap.ofList (crowdedContents spare) compare⟩

def crowdedIds : SealingIds where
  capsuleObjectId := id 30000
  manifestObjectId := id 30001
  proofObjectIds := #v[id 30002, id 30003, id 30004]

/-- The input to admit a capture with spare objects. -/
def crowdedInput (spare : Nat) : AdmissionInput :=
  { admissionInput (fileWorld []) (crowdedObjects spare) identity with
    capsule := capsule (fileWorld []) spare }

/-- The request to seal a capture with spare objects. -/
def crowdedRequest (spare : Nat) : SealRequest :=
  { sealRequest [] with
    admitted :=
      { capsuleDigest := Digest.of (Canonical.text (capsule (fileWorld []) spare))
        proofs := proofsOf (capsule (fileWorld []) spare) }
    ids := crowdedIds
    input := crowdedInput spare }

variable {spare : Nat}

omit [Primitives] in
theorem small_empty : ([] : Bytes).length ≤ 536870912 := Nat.zero_le _

theorem validate_crowded (few : spare ≤ 24000) :
    (capsule (fileWorld []) spare).validate = .ok () :=
  validate_capsule (validate_fileWorld small_empty) (storable_fileWorld []).mediaTypes few

theorem holdsBytes_crowded (few : spare ≤ 24000) :
    List.Forall₂ HoldsBytes (objects (fileWorld []) spare) (crowdedContents spare) := by
  have valid := validate_fileWorld small_empty
  have each : ∀ object ∈ objects (fileWorld []) spare, object.validate = .ok () := by
    intro object listed
    exact ((ReplayCapsule.validate_eq_ok.mp (validate_crowded few)).objects object listed).1
  have sized : ∀ {length : Nat}, length ≤ 262144 → (UInt64.ofNat length).toNat = length :=
    fun short => UInt64.toNat_ofNat_of_lt' (lt_of_le_of_lt short (by decide))
  have failureLength := length_text_failure
  have subjectLength := length_text_subjectManifest
  have triggerLength := length_text_trigger
  have worldLength := (WorldCheckpoint.exact_of_validate valid).2
  rw [maxWorldManifestBytes] at worldLength
  have listed : objects (fileWorld []) spare =
      [failureObject, subjectManifestObject, subjectMember, triggerObject, triggerInput,
        worldObject (fileWorld []), stateObject (fileArtifact []) 7] ++
          spareObjects 8 spare := rfl
  rw [listed] at each ⊢
  simp only [List.forall_mem_append, List.forall_mem_cons] at each
  obtain ⟨⟨failureValid, subjectValid, memberValid, triggerValid, inputValid, worldValid,
    stateValid, -⟩, sparesValid⟩ := each
  apply List.rel_append
  · exact .cons ⟨failureValid, rfl, rfl, sized (by omega)⟩
      (.cons ⟨subjectValid, rfl, rfl, sized (by omega)⟩
      (.cons ⟨memberValid, rfl, rfl, rfl⟩
      (.cons ⟨triggerValid, rfl, rfl, sized (by omega)⟩
      (.cons ⟨inputValid, rfl, rfl, rfl⟩
      (.cons ⟨worldValid, rfl, rfl, sized (by omega)⟩
      (.cons ⟨stateValid, rfl, rfl, rfl⟩ .nil))))))
  · rw [spareObjects, List.forall₂_map_left_iff, List.forall₂_map_right_iff, List.forall₂_same]
    intro index among
    exact ⟨sparesValid _ (List.mem_map_of_mem among), rfl, rfl, rfl⟩

omit [Primitives] in
theorem nodup_proofsOf (capsule : ReplayCapsule) :
    letI := marked
    ((proofsOf capsule).toList.map fun proof => Digest.of (Canonical.text proof)).Nodup := by
  let _ := marked
  have different : ∀ first second : PerturbationCase, first.runIndex ≠ second.runIndex →
      Digest.of (Canonical.text (proofOf capsule first)) ≠
        Digest.of (Canonical.text (proofOf capsule second)) := fun _ _ runs => digest_proof_ne runs
  simp only [proofsOf, Vector.toList_mk, List.map_cons, List.map_nil, List.nodup_cons,
    List.mem_cons, List.not_mem_nil, or_false, not_or, not_false_eq_true, List.nodup_nil, and_true]
  exact ⟨⟨different _ _ (by decide), different _ _ (by decide)⟩, different _ _ (by decide)⟩

theorem validateAdmissionInput_crowded (few : spare ≤ 24000) :
    validateAdmissionInput (crowdedInput spare) = .ok () := by
  simp only [validateAdmissionInput, bind_eq_ok, rejectIf_eq_ok, forEach_eq_ok, not_or, not_not]
  refine ⟨(), validate_crowded few, (), ⟨rfl, rfl⟩, (), validate_identity, (),
    validateWorldClosure_sample, _, digest_closure, (), rfl, ?_⟩
  intro run listed
  rcases runs_of_perturbations listed with rfl | rfl | rfl <;>
    exact ⟨(), validate_perturbation _, rfl⟩

omit [Primitives] in
theorem admitCandidate_crowded (few : spare ≤ 24000) :
    letI := marked
    admitCandidate (crowdedRequest spare).input (executor identity) =
      .ok (crowdedRequest spare).admitted := by
  let _ := marked
  have success := @admitWithCalls_of_input marked (crowdedInput spare) rfl
    (validateAdmissionInput_crowded few) rfl (nodup_proofsOf _)
  exact (map_eq_ok _ _ _).mpr ⟨_, success, rfl⟩

/-- The spare objects are empty. -/
theorem sum_plainSize_crowded (few : spare ≤ 24000) :
    ((objects (fileWorld []) spare).map fun object => object.plainSize.toNat).sum ≤
      4 * 262144 := by
  have sizes : (crowdedContents spare).map (fun entry => entry.2.length) =
      (objects (fileWorld []) spare).map fun object => object.plainSize.toNat :=
    map_eq_of_pairing (fun _ _ one => one.size.symm) (holdsBytes_crowded few)
  have empty : (((List.range' 8 spare).map fun index => ((id index, []) : ObjectId × Bytes)).map
      fun entry => entry.2.length).sum = 0 := by
    rw [List.map_map]
    apply List.sum_eq_zero
    intro size among
    obtain ⟨index, -, rfl⟩ := List.mem_map.mp among
    rfl
  have failureLength := length_text_failure
  have subjectLength := length_text_subjectManifest
  have triggerLength := length_text_trigger
  have worldLength := (WorldCheckpoint.exact_of_validate (validate_fileWorld small_empty)).2
  rw [maxWorldManifestBytes] at worldLength
  rw [← sizes, crowdedContents, List.map_append, List.sum_append, empty]
  simp only [contents, List.map_cons, List.map_nil, List.sum_cons, List.sum_nil, List.length_nil]
  omega

omit [Primitives] in
theorem ready_crowded (few : spare ≤ 24000) :
    letI := marked
    (crowdedRequest spare).Ready := by
  let _ := marked
  have valid := ReplayCapsule.validate_eq_ok.mp (validate_crowded few)
  constructor
  case admission => exact ⟨_, admitCandidate_crowded few⟩
  case closed => exact ⟨_, ObjectClosure.new_ofList valid.nodup (holdsBytes_crowded few)⟩
  case small => exact (sum_plainSize_crowded few).trans (by decide)
  case ids =>
    have apart : crowdedIds.all.Nodup ∧ crowdedIds.proofObjectIds.toList.IsChain (· < ·) := by
      decide
    have held : ∀ objectId, objectId ∈ (crowdedObjects spare).objects →
        ∃ index < 24008, objectId = id index := by
      intro objectId present
      have ids : (crowdedContents spare).map Prod.fst =
          (objects (fileWorld []) spare).map LogicalObject.objectId :=
        map_eq_of_pairing (fun _ _ one => one.id.symm) (holdsBytes_crowded few)
      rw [crowdedObjects, Std.ExtTreeMap.mem_ofList, List.contains_iff_mem, ids,
        map_objectId_objects] at present
      obtain ⟨index, listed, rfl⟩ := List.mem_map.mp present
      have bound := List.mem_range'_1.mp listed
      have one : (fileWorld []).artifacts.length = 1 := rfl
      exact ⟨index, by omega, rfl⟩
    rw [validateSealingIds, rejectIf_eq_ok, not_or, not_or, not_not, not_not]
    refine ⟨apart.1, apart.2, ?_⟩
    rintro ⟨objectId, listed, present⟩
    obtain ⟨index, low, rfl⟩ := held objectId present
    have numbers : ∀ objectId ∈ crowdedIds.all, ∃ other, 30000 ≤ other ∧ other < 2 ^ 64 ∧
        objectId = id other := by
      intro objectId named
      have listed : objectId = id 30000 ∨ objectId = id 30001 ∨ objectId = id 30002 ∨
          objectId = id 30003 ∨ objectId = id 30004 := by
        simpa [SealingIds.all, crowdedIds] using named
      rcases listed with rfl | rfl | rfl | rfl | rfl
      · exact ⟨30000, by decide, by decide, rfl⟩
      · exact ⟨30001, by decide, by decide, rfl⟩
      · exact ⟨30002, by decide, by decide, rfl⟩
      · exact ⟨30003, by decide, by decide, rfl⟩
      · exact ⟨30004, by decide, by decide, rfl⟩
    obtain ⟨other, high, below, same⟩ := numbers _ listed
    have equal := id_injective (by omega) below same
    omega
  case campaign => exact (described []).campaign
  case ordinary => exact (described []).ordinary
  case signerKeyId => exact (described []).signerKeyId
  case sourceRevision => exact (described []).sourceRevision
  case wrappedKey => exact (described []).wrappedKey
  case signs => exact (described []).signs

/-- The objects that are sealed with every capture, and the spare ones. -/
theorem perm_crowded (spare : Nat) :
    (crowdedRequest spare).descriptors.Perm
      (objects (fileWorld []) 0 ++ addedObjects (crowdedRequest spare) ++ spareObjects 8 spare) := by
  have listed : objects (fileWorld []) spare =
      objects (fileWorld []) 0 ++ spareObjects 8 spare := rfl
  change (objects (fileWorld []) spare ++ addedObjects (crowdedRequest spare)).Perm _
  rw [listed, List.append_assoc, List.append_assoc]
  exact List.perm_append_comm.append_left _

theorem length_unspared (spare : Nat) :
    (objects (fileWorld []) 0 ++ addedObjects (crowdedRequest spare)).length = 11 := rfl

/-- What a sum over the descriptors comes to when every spare object counts alike. -/
theorem sum_crowded (spare : Nat) {count : LogicalObject → Nat} {each : Nat}
    (alike : ∀ index, count (emptyObject index .subject "application/spare") = each) :
    ((crowdedRequest spare).descriptors.map count).sum =
      ((objects (fileWorld []) 0 ++ addedObjects (crowdedRequest spare)).map count).sum +
        spare * each := by
  have spares : (spareObjects 8 spare).map count = List.replicate spare each := by
    rw [spareObjects, List.map_map]
    apply List.eq_replicate_iff.mpr
    rw [List.length_map, List.length_range']
    refine ⟨rfl, fun size among => ?_⟩
    obtain ⟨index, -, rfl⟩ := List.mem_map.mp among
    exact alike index
  rw [((perm_crowded spare).map count).sum_eq, List.map_append, List.sum_append, spares,
    List.sum_replicate, smul_eq_mul]

omit [Primitives] in
/-- No object that is sealed with every capture is large. -/
theorem plainSize_unspared_le (few : spare ≤ 24000) :
    letI := marked
    ∀ object ∈ objects (fileWorld []) 0 ++ addedObjects (crowdedRequest spare),
      object.validate = .ok () ∧ object.plainSize.toNat ≤ 536870912 := by
  let _ := marked
  have prepared := (ready_crowded few).prepared
  intro object listed
  have among := (perm_crowded spare).mem_iff.mpr (List.mem_append_left _ listed)
  refine ⟨prepared.validate_descriptor among, ?_⟩
  rcases List.mem_append.mp listed with inner | added
  · obtain ⟨bytes, -, -, size, bound⟩ := closed_fileObjects small_empty inner
    exact size.trans_le bound
  · rcases List.mem_cons.mp added with rfl | proof
    · rw [prepared.length_capsule]
      exact (ReplayCapsule.length_text_le prepared.capsule).trans (by decide)
    · obtain ⟨pair, -, rfl⟩ := List.mem_map.mp proof
      exact (SealRequest.Prepared.length_proof pair).trans_le
        ((Proof.length_text_le pair.1).trans (by decide))

omit [Primitives] in
theorem storedChunks_crowded (few : spare ≤ 24000) :
    letI := marked
    (crowdedRequest spare).storedChunks ≤ 705 + spare := by
  let _ := marked
  have each := List.sum_le_card_nsmul
    ((objects (fileWorld []) 0 ++ addedObjects (crowdedRequest spare)).map fun object =>
      pieceCount chunkBytes object.plainSize.toNat) 64 fun count listed => by
        obtain ⟨object, among, rfl⟩ := List.mem_map.mp listed
        exact pieceCount_le (plainSize_unspared_le few object among).2
  rw [List.length_map, length_unspared, smul_eq_mul] at each
  have one : pieceCount chunkBytes (0 : UInt64).toNat = 1 := by decide
  rw [SealRequest.storedChunks, sum_crowded spare fun _ => one]
  omega

/-- The bytes of the entry of a spare object. -/
theorem objectEntryBytes_spare (index : Nat) :
    objectEntryBytes (emptyObject index .subject "application/spare") = 382 := by
  have texts : stringSize "application/spare" = 19 ∧
      stringSize LogicalObjectRole.subject.name = 9 ∧ digits (0 : UInt64).toNat = 1 ∧
        arrayBytes [chunkEntryBytes minCipherSize 0] = 147 := by decide
  have pieces : pieceSizes chunkBytes (0 : UInt64).toNat = [0] := pieceSizes_of_le (Nat.zero_le _)
  simp only [objectEntryBytes, LogicalObject.documentBytes, emptyObject, pieces,
    List.zipIdx_singleton, List.map_singleton, Nat.zero_add, texts]

omit [Primitives] in
/-- The bytes of the manifest grow with every spare object. -/
theorem manifestBytes_crowded (few : spare ≤ 24000) :
    letI := marked
    spare * 383 ≤ (crowdedRequest spare).manifestBytes ∧
      (crowdedRequest spare).manifestBytes ≤ 200000 + spare * 383 := by
  let _ := marked
  have alike : ∀ index, 1 + objectEntryBytes
      (emptyObject index .subject "application/spare") = 383 := by
    intro index
    rw [objectEntryBytes_spare]
  have each := List.sum_le_card_nsmul
    ((objects (fileWorld []) 0 ++ addedObjects (crowdedRequest spare)).map fun object =>
      1 + objectEntryBytes object) 12001 fun size listed => by
        obtain ⟨object, among, rfl⟩ := List.mem_map.mp listed
        obtain ⟨valid, small⟩ := plainSize_unspared_le few object among
        exact Nat.add_le_add_left (objectEntryBytes_le valid small) 1
  rw [List.length_map, length_unspared, smul_eq_mul] at each
  have texts : arrayBytes (["debugger.gdb-remote"].map stringSize) +
      stringSize ProcessingMode.managed.name + stringSize "repository" + stringSize "service" +
        stringSize "revision" ≤ 1000 := by decide
  have whole : (crowdedRequest spare).manifestBytes =
      851 + arrayBytes ((crowdedRequest spare).descriptors.map objectEntryBytes) +
        arrayBytes (["debugger.gdb-remote"].map stringSize) +
        stringSize ProcessingMode.managed.name + stringSize "repository" + stringSize "service" +
          stringSize "revision" := rfl
  have entries : arrayBytes ((crowdedRequest spare).descriptors.map objectEntryBytes) =
      1 + max 1 ((crowdedRequest spare).descriptors.map fun object =>
        1 + objectEntryBytes object).sum := by
    rw [arrayBytes, List.map_map]
    rfl
  have sum := @sum_crowded _ spare (fun object => 1 + objectEntryBytes object) 383 alike
  rw [whole, entries, sum]
  generalize ((objects (fileWorld []) 0 ++ addedObjects (crowdedRequest spare)).map fun object =>
    1 + objectEntryBytes object).sum = others at each ⊢
  omega

omit [Primitives] in
theorem supplies_crowded (few : spare ≤ 24000) :
    letI := marked
    Supplies nonceSource (numberBytes 12) (crowdedRequest spare).storedChunks := by
  let _ := marked
  have chunks := storedChunks_crowded few
  exact supplies (by omega)

end Sample

/-! ## Sealing an admitted capture -/

variable {request : SealRequest} {source : NonceSource} {nonce : Nat → Nonce}

/-- An admitted capture is sealed exactly when the texts of its failure may leave it, its chunks
are few enough and its manifest is short enough. -/
theorem SealRequest.Ready.exists_sealUpload_iff_fits (works : EncryptionWorks)
    (supplies : Supplies source nonce request.storedChunks) (ready : request.Ready) :
    (∃ upload, sealUpload request source = .ok upload) ↔
      (request.input.capsule.processingMode = .private' →
          request.input.expectedFailure.ShortTexts) ∧
        request.storedChunks ≤ 32768 ∧ request.manifestBytes ≤ maxBatchDocumentBytes := by
  have prepared := ready.prepared
  constructor
  · intro ⟨upload, ran⟩
    have short := fun mode => shortTexts_of_sealUpload ran ready.validate_expectedFailure mode
    have described := ready.described_iff.mpr short
    exact ⟨short, (exists_sealUpload_iff works supplies prepared described).mp ⟨upload, ran⟩⟩
  · intro ⟨short, fits⟩
    have described := ready.described_iff.mpr short
    exact (exists_sealUpload_iff works supplies prepared described).mpr fits

omit [Primitives] in
/-- A capture with a thousand spare objects is sealed. -/
theorem exists_sealUpload_thousand :
    letI := Sample.marked
    ∃ upload, sealUpload (Sample.crowdedRequest 1000) Sample.nonceSource = .ok upload := by
  let _ := Sample.marked
  have few : 1000 ≤ 24000 := by decide
  have chunks := Sample.storedChunks_crowded few
  have bytes := (Sample.manifestBytes_crowded few).2
  apply (SealRequest.Ready.exists_sealUpload_iff_fits Sample.encryptionWorks
    (Sample.supplies_crowded few) (Sample.ready_crowded few)).mpr
  refine ⟨nofun, by omega, ?_⟩
  rw [maxBatchDocumentBytes]
  omega

omit [Primitives] in
/-- A capture with twenty-four thousand spare objects is admitted, and its manifest is too long
to be sealed. -/
theorem not_exists_sealUpload_crowded :
    letI := Sample.marked
    ¬ ∀ (request : SealRequest) (source : NonceSource) (nonce : Nat → Nonce), EncryptionWorks →
        Supplies source nonce request.storedChunks → request.Ready →
          ∃ upload, sealUpload request source = .ok upload := by
  let _ := Sample.marked
  intro always
  have few : 24000 ≤ 24000 := le_refl _
  have ready := Sample.ready_crowded few
  have supplied := Sample.supplies_crowded few
  have fits := (exists_sealUpload_iff Sample.encryptionWorks supplied ready.prepared
    (ready.described_iff.mpr nofun)).mp
      (always _ _ _ Sample.encryptionWorks supplied ready)
  have bytes := (Sample.manifestBytes_crowded few).1
  rw [maxBatchDocumentBytes] at fits
  omega

end Reproit.Backend
