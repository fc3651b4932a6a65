/-
# Which candidates can be stored

The identity of a candidate is accepted before its objects are encrypted.  An accepted
identity without capabilities has no stored form, and neither has one with too many chunks
or with too large a manifest.
-/

import Reproit.Backend.Sample
import Reproit.Core.CandidateCiphertext

namespace Reproit

/-- The stored form of a valid identity is valid, and its manifest is one chunk, exactly when
the identity can be stored. -/
theorem ManagedCandidateIdentity.validate_stored_iff [Primitives]
    {identity : ManagedCandidateIdentity} {reference : String}
    {cipher : ManagedCandidateCiphertextIdentity} (valid : identity.validate = .ok ())
    (keyReference : validateOpaqueReference reference = .ok ())
    (stores : cipher.Stores identity reference) :
    (cipher.validate = .ok () ∧ ∃ bytes, Canonical.bytes (identity.manifest reference) = .ok bytes ∧
      bytes.length ≤ chunkBytes) ↔ identity.Storable cipher.manifestObject.objectId := by
  have held := ManagedCandidateIdentity.validate_eq_ok.mp valid
  constructor
  · intro ⟨accepted, _⟩
    exact stores.storable held keyReference
      (ManagedCandidateCiphertextIdentity.validate_eq_ok.mp accepted)
  · intro storable
    refine ⟨ManagedCandidateCiphertextIdentity.validate_eq_ok.mpr
      (stores.valid held keyReference storable), _,
      Canonical.bytes_of_exact (held.exact_manifest reference), ?_⟩
    rw [ManagedCandidateIdentity.length_text_manifest held.managed keyReference]
    exact storable.manifest

/-! ## A candidate of five empty manifests -/

namespace StoredSample

open Backend.Sample (id primitives)

def object (index : Nat) (role : LogicalObjectRole) (mediaType : String) : LogicalObject where
  mediaType := mediaType
  objectId := id index
  plainDigest := ⟨0⟩
  plainSize := 0
  role := role

def objects : List LogicalObject :=
  [object 1 .candidate candidateMediaType, object 2 .failure failureMediaType,
    object 3 .subject subjectClosureMediaType, object 4 .trigger triggerMediaType,
    object 5 .worldManifest worldManifestMediaType]

def identity (capabilities : List String) : ManagedCandidateIdentity where
  candidateDigest := ⟨0⟩
  captureId := id 1
  deploymentDigest := ⟨0⟩
  format := .v1
  objects := objects
  organizationId := id 1
  processingMode := .managed
  projectId := id 1
  requiredCapabilities := capabilities
  serviceId := id 1
  subjectDigest := ⟨0⟩
  totalPlaintextBytes := 0

theorem validate_identity {capabilities : List String} (few : capabilities.length ≤ 64)
    (sorted : capabilities.IsChain (· < ·)) : (identity capabilities).validate = .ok () := by
  apply ManagedCandidateIdentity.validate_eq_ok.mpr
  constructor
  case managed => rfl
  case count => exact ⟨by show 5 ≤ 5; decide, by show 5 ≤ maxCandidateObjects; decide⟩
  case capabilities => exact ⟨few, sorted⟩
  case ordered =>
    show objects.IsChain (·.objectId < ·.objectId)
    decide
  case objects =>
    show ∀ object ∈ objects, object.validate = .ok ()
    decide
  case roles =>
    show requireCandidateRoles (objects.map LogicalObject.role) = .ok ()
    decide
  case candidate =>
    refine ⟨object 1 .candidate candidateMediaType, ?_, rfl, ?_⟩
    · show objects.filter (isManifest (.candidate, candidateMediaType)) = _
      decide
    · show (0 : Nat) ≤ maxCandidatePlaintextBytes
      decide
  case manifests =>
    show ∀ kind ∈ candidateManifests, ∃ object, objects.filter (isManifest kind) = [object]
    simp only [candidateManifests, List.forall_mem_cons, List.not_mem_nil, false_implies,
      implies_true, and_true]
    exact ⟨⟨_, rfl⟩, ⟨_, rfl⟩, ⟨_, rfl⟩, ⟨_, rfl⟩⟩
  case subject =>
    intro object found
    have among : object ∈ objects := List.mem_of_mem_filter (found ▸ List.mem_singleton_self _)
    have every : ∀ object ∈ objects, object.plainDigest = ⟨0⟩ := by decide
    exact every object among
  case total => exact ⟨rfl, by show (0 : Nat) ≤ maxTotalCandidateCiphertextBytes; decide⟩

def nonce (index : Nat) : Vector UInt8 12 :=
  ⟨#[UInt8.ofNat index, 0, 0, 0, 0, 0, 0, 0, 0, 0, 0, 0], rfl⟩

/-- The text of thirty-two empty bytes. -/
def reference : String := encodeBase64Url (Vector.replicate 32 0).toList

theorem validate_reference : validateOpaqueReference reference = .ok () := by
  have size : reference.utf8ByteSize = 43 := by
    rw [reference, utf8ByteSize_encodeBase64Url, Vector.length_toList]
  simp only [validateOpaqueReference, bind_eq_ok, rejectIf_eq_ok, not_not]
  exact ⟨(), size, _, decodeBase64Url_eq_ok.mpr rfl, rfl⟩

def chunk (index : Nat) : EncryptedChunk where
  cipherDigest := ⟨0⟩
  cipherSize := 28
  index := 0
  nonce := encodeBase64Url (nonce index).toList

variable [Primitives]

def cipher (capabilities : List String) : ManagedCandidateCiphertextIdentity where
  candidateIdentityDigest := Digest.of (Canonical.text (identity capabilities))
  candidateKeyReference := reference
  captureId := id 1
  cipherSuite := .v1
  format := .v1
  manifestObject :=
    { cipherDigest := ⟨0⟩
      cipherSize := UInt64.ofNat ((identity capabilities).manifestBytes + 28)
      nonce := encodeBase64Url (nonce 0).toList
      objectId := id 6 }
  objects := objects.zipIdx.map fun (object, index) =>
    { chunks := [chunk (1 + index)], descriptor := object }
  organizationId := id 1
  processingMode := .managed
  projectId := id 1
  requiredCapabilities := capabilities
  serviceId := id 1
  totalCiphertextBytes := UInt64.ofNat ((identity capabilities).manifestBytes + 6 * 28)

theorem stores {capabilities : List String} (small : (identity capabilities).manifestBytes ≤ 3000) :
    (cipher capabilities).Stores (identity capabilities) reference := by
  constructor
  case keyReference => rfl
  case digest => rfl
  case scope => exact ⟨rfl, rfl, rfl, rfl, rfl⟩
  case capabilities => rfl
  case objects => rfl
  case sizes =>
    intro stored listed
    obtain ⟨⟨plain, index⟩, pair, rfl⟩ := List.mem_map.mp listed
    have every : ∀ object ∈ objects, object.plainSize.toNat = 0 := by decide
    have zero := every plain (List.fst_mem_of_mem_zipIdx pair)
    dsimp only
    rw [zero, pieceSizes_of_le (Nat.zero_le _)]
    rfl
  case indexes =>
    intro stored listed
    obtain ⟨⟨plain, index⟩, -, rfl⟩ := List.mem_map.mp listed
    rfl
  case manifest =>
    rw [ManagedCandidateIdentity.length_text_manifest rfl validate_reference]
    exact UInt64.toNat_ofNat_of_lt' (lt_of_le_of_lt (Nat.add_le_add_right small 28) (by decide))
  case nonces =>
    refine ⟨(List.range 6).map nonce, by decide, rfl⟩
  case total =>
    have first := UInt64.toNat_ofNat_of_lt' (lt_of_le_of_lt (Nat.add_le_add_right small 28)
      (show 3000 + 28 < UInt64.size by decide))
    have second := UInt64.toNat_ofNat_of_lt' (lt_of_le_of_lt (Nat.add_le_add_right small (6 * 28))
      (show 3000 + 6 * 28 < UInt64.size by decide))
    show (UInt64.ofNat ((identity capabilities).manifestBytes + 6 * 28)).toNat =
      (UInt64.ofNat ((identity capabilities).manifestBytes + 28)).toNat + 5 * 28
    omega

theorem fresh (capabilities : List String) : ∀ object ∈ (identity capabilities).objects,
    object.objectId ≠ (cipher capabilities).manifestObject.objectId := by
  show ∀ object ∈ objects, object.objectId ≠ (id 6 : ObjectId)
  decide

omit [Primitives] in
theorem manifestBytes_le : (identity []).manifestBytes ≤ 3000 ∧
    (identity ["a"]).manifestBytes ≤ 3000 := by
  decide

end StoredSample

/-- A stored candidate with one capability. -/
theorem ManagedCandidateIdentity.validate_stored_sample :
    letI := Backend.Sample.primitives
    (StoredSample.cipher ["a"]).validate = .ok () ∧ ∃ bytes,
      Canonical.bytes ((StoredSample.identity ["a"]).manifest StoredSample.reference) = .ok bytes ∧
        bytes.length ≤ chunkBytes := by
  let _ := Backend.Sample.primitives
  have small := StoredSample.manifestBytes_le.2
  apply (ManagedCandidateIdentity.validate_stored_iff
    (StoredSample.validate_identity (by decide) (by decide)) StoredSample.validate_reference
    (StoredSample.stores small)).mpr
  constructor
  case capabilities => exact List.cons_ne_nil _ _
  case chunks =>
    show (StoredSample.identity ["a"]).storedChunks ≤ 32768
    decide
  case manifest => exact small.trans (by decide)
  case fresh => exact StoredSample.fresh _

/-- A valid identity without capabilities has no valid stored form. -/
theorem ManagedCandidateIdentity.not_validate_stored :
    letI := Backend.Sample.primitives
    (StoredSample.identity []).validate = .ok () ∧
      validateOpaqueReference StoredSample.reference = .ok () ∧
      (StoredSample.cipher []).Stores (StoredSample.identity []) StoredSample.reference ∧
      (∀ object ∈ (StoredSample.identity []).objects,
        object.objectId ≠ (StoredSample.cipher []).manifestObject.objectId) ∧
      (StoredSample.cipher []).validate ≠ .ok () := by
  let _ := Backend.Sample.primitives
  refine ⟨StoredSample.validate_identity (by decide) (by decide), StoredSample.validate_reference,
    StoredSample.stores StoredSample.manifestBytes_le.1, StoredSample.fresh [], ?_⟩
  intro accepted
  have held := ManagedCandidateCiphertextIdentity.validate_eq_ok.mp accepted
  exact held.capabilities.1 rfl

end Reproit
