/-
# Delivering a sealed capture to a managed worker

A managed worker receives the envelope and the stored chunks of a capture as texts.  The
delivery is accepted up to its own total of stored bytes, which is smaller than the bound on
the plaintext of a capture that can be admitted.
-/

import Reproit.Backend.SealingSample
import Reproit.Core.Model.KeyProvider

namespace Reproit

/-- What one admission may hold in plaintext. -/
def maxAdmissionPlaintextBytes : Nat := 536870912

/-- What one delivery may hold in stored bytes. -/
def maxDeliveredBytes : Nat := 402653184

structure ManagedExecutionMaterial where
  admissionKey : AdmissionVerificationKey
  ciphertext : OrderedMap Digest String
  envelope : String

namespace ManagedExecutionMaterial

/-- Add up the bytes of the texts, never above the limit. -/
def addDecoded : (total : Nat) → List String → Result Nat
  | total, [] => .ok total
  | total, text :: rest => do
      let decoded ← decodeBase64UrlBytes text
      rejectIf (total + decoded.length > maxDeliveredBytes) .schemaInvalid
      addDecoded (total + decoded.length) rest

def validate (material : ManagedExecutionMaterial) : Result Unit := do
  material.admissionKey.validate
  let envelope ← decodeBase64UrlBytes material.envelope
  rejectIf (envelope.isEmpty ∨ envelope.length > 8388608 ∨ material.ciphertext.isEmpty)
    .schemaInvalid
  let _ ← addDecoded 0 (material.ciphertext.toList.map Prod.snd)
  return

theorem addDecoded_encoded {contents : List Bytes} {total : Nat}
    (within : total ≤ maxDeliveredBytes) :
    (∃ sum, addDecoded total (contents.map encodeBase64Url) = .ok sum) ↔
      total + (contents.map List.length).sum ≤ maxDeliveredBytes := by
  induction contents generalizing total with
  | nil => exact ⟨fun _ => within, fun _ => ⟨total, rfl⟩⟩
  | cons content rest ih =>
      simp only [List.map_cons, List.sum_cons, addDecoded, bind_eq_ok, decodeBase64UrlBytes_eq_ok,
        rejectIf_eq_ok, not_lt]
      constructor
      · rintro ⟨sum, decoded, same, _, small, later⟩
        obtain rfl := encodeBase64Url_injective same
        have whole := (ih small).mp ⟨sum, later⟩
        omega
      · intro whole
        have small : total + content.length ≤ maxDeliveredBytes := by omega
        obtain ⟨sum, later⟩ := (ih small).mpr (by omega)
        exact ⟨sum, content, rfl, (), small, later⟩

end ManagedExecutionMaterial

namespace Backend

/-- The material of a sealed capture under a verification key. -/
def SealedUpload.material (upload : SealedUpload) (admissionKey : AdmissionVerificationKey)
    (envelope : Bytes) : ManagedExecutionMaterial where
  admissionKey := admissionKey
  ciphertext := upload.ciphertext.map fun _ stored => encodeBase64Url stored
  envelope := encodeBase64Url envelope

variable [Primitives]

/-- The stored bytes of a sealed capture decide whether it is delivered. -/
theorem Seals.validate_material (correct : AeadCorrect) {request : SealRequest}
    {upload : SealedUpload} {plaintext : OrderedMap ObjectId Bytes}
    {descriptors : List LogicalObject} {materials : List EncryptedMaterial}
    {last : EncryptedMaterial} {admissionKey : AdmissionVerificationKey} {envelope : Bytes}
    (seals : Seals request upload plaintext descriptors materials last)
    (key : admissionKey.validate = .ok ()) (nonempty : envelope ≠ [])
    (short : envelope.length ≤ maxBatchDocumentBytes) :
    (upload.material admissionKey envelope).validate = .ok () ↔
      upload.storedBytes ≤ maxDeliveredBytes := by
  have texts : (upload.material admissionKey envelope).ciphertext.toList.map Prod.snd =
      (upload.ciphertext.toList.map Prod.snd).map encodeBase64Url := by
    rw [SealedUpload.material, Std.ExtTreeMap.toList_map, List.map_map, List.map_map]
    rfl
  have sizes : ((upload.ciphertext.toList.map Prod.snd).map List.length).sum =
      upload.storedBytes := by
    rw [← seals.sum_ciphertext correct, List.map_map]
    rfl
  have some : (upload.material admissionKey envelope).ciphertext.isEmpty = false := by
    rw [Bool.eq_false_iff, Ne, ← Std.ExtTreeMap.isEmpty_toList, List.isEmpty_iff]
    intro none
    rw [none, List.map_nil, eq_comm, List.map_eq_nil_iff] at texts
    rw [texts] at sizes
    -- the manifest alone takes twenty-eight bytes
    have manifest : minCipherSize ≤ upload.storedBytes :=
      (Nat.le_add_left _ _).trans (Nat.le_add_left _ _)
    rw [← sizes] at manifest
    exact absurd manifest (by decide)
  have total : (∃ sum, ManagedExecutionMaterial.addDecoded 0
      ((upload.ciphertext.toList.map Prod.snd).map encodeBase64Url) = .ok sum) ↔
        0 + _ ≤ maxDeliveredBytes :=
    ManagedExecutionMaterial.addDecoded_encoded (Nat.zero_le maxDeliveredBytes)
  rw [zero_add, sizes] at total
  simp only [ManagedExecutionMaterial.validate, bind_eq_ok, pure_eq_ok, rejectIf_eq_ok, texts,
    some, not_or, not_lt, and_true, Bool.false_eq_true, not_false_eq_true]
  constructor
  · rintro ⟨_, _, _, _, _, _, sum, added⟩
    exact total.mp ⟨sum, added⟩
  · intro within
    obtain ⟨sum, added⟩ := total.mpr within
    refine ⟨(), key, envelope, decodeBase64UrlBytes_eq_ok.mpr rfl, (), ⟨?_, short⟩, sum, added⟩
    rwa [List.isEmpty_iff]

/-- A sealed capture is delivered exactly when its stored bytes are within the total of a
delivery. -/
theorem SealedUpload.validate_material_iff (correct : AeadCorrect) {request : SealRequest}
    {source : NonceSource} {upload : SealedUpload} {admissionKey : AdmissionVerificationKey}
    (ran : sealUpload request source = .ok upload) (key : admissionKey.validate = .ok ()) :
    ∃ envelope, Canonical.bytes upload.envelope = .ok envelope ∧
      ((upload.material admissionKey envelope).validate = .ok () ↔
        upload.storedBytes ≤ maxDeliveredBytes) := by
  obtain ⟨plaintext, descriptors, materials, last, seals⟩ := sealUpload_sealed ran
  obtain ⟨envelope, written, nonempty, short⟩ := seals.bytes_envelope
  exact ⟨envelope, written, seals.validate_material correct key nonempty short⟩

/-! ## A small and a large delivery -/

namespace DeliverySample

open Sample

def admissionKey : AdmissionVerificationKey where
  algorithm := "Ed25519"
  format := .v1
  organizationId := id 0
  projectId := id 0
  publicKey := encodeBase64Url (List.replicate 32 0)
  serviceId := id 0
  signerKeyId := "key"

omit [Primitives] in
theorem validate_admissionKey : admissionKey.validate = .ok () := by
  have signer : validateSignerKeyId "key" = .ok () := by decide
  simp only [AdmissionVerificationKey.validate, bind_eq_ok, rejectIf_eq_ok, pure_eq_ok]
  exact ⟨(), not_not.mpr rfl, (), signer, Vector.replicate 32 0,
    decodeBase64Url_eq_ok.mpr rfl, trivial⟩

/-- The objects of the capsule before the file. -/
def documents (content : Bytes) : List LogicalObject :=
  [failureObject, subjectManifestObject, subjectMember, triggerObject, triggerInput,
    worldObject (fileWorld content)]

theorem objects_capsule (content : Bytes) :
    (capsule (fileWorld content) 0).objects =
      documents content ++ [stateObject (fileArtifact content) 7] := rfl

theorem plainSize_documents {content : Bytes} (small : content.length ≤ 536870912)
    {object : LogicalObject} (listed : object ∈ documents content) :
    object.plainSize.toNat ≤ 262144 := by
  have fits : ∀ {length : Nat}, length ≤ 262144 → (UInt64.ofNat length).toNat ≤ 262144 :=
    fun short => (Nat.mod_le _ _).trans short
  have worldLength := (WorldCheckpoint.exact_of_validate (validate_fileWorld small)).2
  simp only [documents, List.mem_cons, List.not_mem_nil, or_false] at listed
  rcases listed with rfl | rfl | rfl | rfl | rfl | rfl
  · exact fits (length_text_failure.trans (by decide))
  · exact fits (length_text_subjectManifest.trans (by decide))
  · exact Nat.zero_le _
  · exact fits (length_text_trigger.trans (by decide))
  · exact Nat.zero_le _
  · exact fits worldLength

omit [Primitives] in
theorem sum_within {documents file capsule proofs : Nat} (first : documents ≤ 6 * 262144)
    (second : capsule ≤ 67108864) (third : proofs ≤ 3 * 2000) :
    file ≤ documents + file + (capsule + proofs) ∧
      documents + file + (capsule + proofs) ≤ file + 70000000 := by
  omega

omit [Primitives] in
/-- The documents of the sample take less than seventy megabytes beside its file. -/
theorem sum_plainSize {content : Bytes} (small : content.length ≤ 536870912) :
    letI := marked
    content.length ≤ ((sealRequest content).descriptors.map fun object =>
      object.plainSize.toNat).sum ∧
    ((sealRequest content).descriptors.map fun object => object.plainSize.toNat).sum ≤
      content.length + 70000000 := by
  let _ := marked
  have sealable := prepared small
  have documentSizes := List.sum_le_card_nsmul
    ((documents content).map fun object => object.plainSize.toNat) 262144 fun size listed => by
      obtain ⟨object, among, rfl⟩ := List.mem_map.mp listed
      exact plainSize_documents small among
  have proofSizes := List.sum_le_card_nsmul (((sealRequest content).proofs.map proofObject).map
    fun object => object.plainSize.toNat) 2000 fun size listed => by
      obtain ⟨object, among, rfl⟩ := List.mem_map.mp listed
      obtain ⟨pair, -, rfl⟩ := List.mem_map.mp among
      exact (SealRequest.Prepared.length_proof pair).trans_le (Proof.length_text_le pair.1)
  have capsuleSize : (capsuleObject (sealRequest content)).plainSize.toNat ≤ 67108864 := by
    rw [sealable.length_capsule]
    exact ReplayCapsule.length_text_le sealable.capsule
  have file : (stateObject (fileArtifact content) 7).plainSize.toNat = content.length :=
    toNat_length small
  have whole : (sealRequest content).descriptors =
      (documents content ++ [stateObject (fileArtifact content) 7]) ++
        (capsuleObject (sealRequest content) :: (sealRequest content).proofs.map proofObject) :=
    rfl
  rw [List.length_map, List.length_map, SealRequest.length_proofs, smul_eq_mul] at proofSizes
  have six : (documents content).length = 6 := rfl
  rw [List.length_map, six, smul_eq_mul] at documentSizes
  rw [whole, List.map_append, List.map_append, List.sum_append, List.sum_append, List.map_cons,
    List.sum_cons, List.map_nil, List.sum_nil, Nat.add_zero, file, List.map_cons, List.sum_cons]
  exact sum_within documentSizes capsuleSize proofSizes

omit [Primitives] in
theorem sum_storedSize {sizes : List Nat} (small : ∀ size ∈ sizes, size ≤ 536870912) :
    sizes.sum ≤ (sizes.map storedSize).sum ∧
      (sizes.map storedSize).sum ≤ sizes.sum + sizes.length * 1792 := by
  induction sizes with
  | nil => exact ⟨le_refl 0, le_refl 0⟩
  | cons size rest ih =>
      obtain ⟨low, high⟩ := ih fun other listed => small other (.tail _ listed)
      have pieces := pieceCount_le (small size (.head _))
      rw [List.map_cons, List.sum_cons, List.sum_cons, List.length_cons, storedSize,
        minCipherSize]
      constructor
      · omega
      · omega

omit [Primitives] in
theorem storedBytes_within {content plain stored manifest : Nat}
    (sum : content ≤ plain ∧ plain ≤ content + 70000000)
    (sizes : plain ≤ stored ∧ stored ≤ plain + 11 * 1792) (short : manifest ≤ 8388608) :
    plain ≤ content + 70000000 ∧ content ≤ stored + (manifest + 28) ∧
      stored + (manifest + 28) ≤ content + 80000000 := by
  omega

omit [Primitives] in
/-- The stored bytes of the sample are those of its file and of some documents. -/
theorem storedBytes_sample {content : Bytes} (small : content.length ≤ 536870912) :
    letI := marked
    ∀ upload, sealUpload (sealRequest content) nonceSource = .ok upload →
      upload.plainBytes ≤ content.length + 70000000 ∧ content.length ≤ upload.storedBytes ∧
        upload.storedBytes ≤ content.length + 80000000 := by
  let _ := marked
  intro upload ran
  have sealable := prepared small
  have manifest : (Canonical.text upload.manifest).length ≤ maxBatchDocumentBytes := by
    obtain ⟨length, short⟩ := @length_text_manifest marked _ _ aeadCorrect sealable upload ran
    exact length.trans_le short
  have listed : (upload.manifest.objects.map fun object =>
      object.descriptor.plainSize.toNat).Perm
        ((sealRequest content).descriptors.map fun object => object.plainSize.toNat) := by
    have same := (perm_descriptors sealable ran).map fun object => object.plainSize.toNat
    rwa [List.map_map] at same
  have sizes := @sum_storedSize (upload.manifest.objects.map fun object =>
      object.descriptor.plainSize.toNat) fun size among => by
    obtain ⟨object, member, rfl⟩ := List.mem_map.mp (listed.mem_iff.mp among)
    exact plainSize_le small object member
  rw [listed.length_eq, List.length_map, length_descriptors, List.map_map] at sizes
  have sum := sum_plainSize small
  rw [← listed.sum_eq] at sum
  exact storedBytes_within sum sizes manifest

omit [Primitives] in
/-- An admitted capture of more than three hundred and eighty-four mebibytes is sealed within
the bound of an admission and is not delivered. -/
theorem exists_undelivered {content : Bytes} (large : maxDeliveredBytes < content.length)
    (small : content.length ≤ 403000000) :
    letI := marked
    (∃ calls, admitWithCalls (sealRequest content).input (executor identity) =
      .ok ((sealRequest content).admitted, calls)) ∧
    ∃ upload envelope, sealUpload (sealRequest content) nonceSource = .ok upload ∧
      upload.plainBytes ≤ maxAdmissionPlaintextBytes ∧
      Canonical.bytes upload.envelope = .ok envelope ∧
      (upload.material admissionKey envelope).validate ≠ .ok () := by
  let _ := marked
  have within := small.trans (by decide : 403000000 ≤ 536870912)
  constructor
  · exact ⟨_, admitWithCalls_sample (validate_fileWorld within) (storable_fileWorld content)
      validate_identity (nodup_proofs _)⟩
  · obtain ⟨upload, ran⟩ := exists_sealUpload within
    obtain ⟨plain, low, -⟩ := storedBytes_sample within upload ran
    obtain ⟨plaintext, descriptors, materials, last, seals⟩ := @sealUpload_sealed marked _ _ _ ran
    obtain ⟨envelope, written, nonempty, short⟩ := seals.bytes_envelope
    have bound : upload.plainBytes ≤ maxAdmissionPlaintextBytes := by
      rw [maxAdmissionPlaintextBytes]
      omega
    refine ⟨upload, envelope, ran, bound, written, ?_⟩
    intro delivered
    have correct : AeadCorrect := aeadCorrect
    have total := (seals.validate_material correct validate_admissionKey nonempty short).mp
      delivered
    omega

end DeliverySample

omit [Primitives] in
/-- The capture of an empty file is delivered. -/
theorem SealedUpload.validate_material_empty :
    letI := Sample.marked
    ∃ upload envelope, sealUpload (Sample.sealRequest []) Sample.nonceSource = .ok upload ∧
      Canonical.bytes upload.envelope = .ok envelope ∧
      (upload.material DeliverySample.admissionKey envelope).validate = .ok () := by
  let _ := Sample.marked
  have small : ([] : Bytes).length ≤ 536870912 := Nat.zero_le _
  obtain ⟨upload, ran⟩ := Sample.exists_sealUpload small
  have correct : AeadCorrect := Sample.aeadCorrect
  obtain ⟨envelope, written, decided⟩ := SealedUpload.validate_material_iff correct ran
    DeliverySample.validate_admissionKey
  obtain ⟨-, -, high⟩ := DeliverySample.storedBytes_sample small upload ran
  have within : upload.storedBytes ≤ maxDeliveredBytes := by
    rw [List.length_nil, Nat.zero_add] at high
    rw [maxDeliveredBytes]
    omega
  exact ⟨upload, envelope, ran, written, decided.mpr within⟩

omit [Primitives] in
/-- The capture of a file of four hundred and three million bytes is admitted and sealed, and
is not delivered. -/
theorem SealedUpload.validate_material_large :
    letI := Sample.marked
    AeadCorrect ∧ DeliverySample.admissionKey.validate = .ok () ∧
    (Sample.sealRequest (List.replicate 403000000 0)).input.capsule.processingMode = .managed ∧
    (∃ calls, admitWithCalls (Sample.sealRequest (List.replicate 403000000 0)).input
      (Sample.executor Sample.identity) =
        .ok ((Sample.sealRequest (List.replicate 403000000 0)).admitted, calls)) ∧
    ∃ upload envelope,
      sealUpload (Sample.sealRequest (List.replicate 403000000 0)) Sample.nonceSource =
        .ok upload ∧
      upload.plainBytes ≤ maxAdmissionPlaintextBytes ∧
      Canonical.bytes upload.envelope = .ok envelope ∧
      (upload.material DeliverySample.admissionKey envelope).validate ≠ .ok () := by
  have length : (List.replicate 403000000 (0 : UInt8)).length = 403000000 := List.length_replicate
  have large : maxDeliveredBytes < (List.replicate 403000000 (0 : UInt8)).length := by
    rw [length]
    decide
  exact ⟨Sample.aeadCorrect, DeliverySample.validate_admissionKey, rfl,
    DeliverySample.exists_undelivered large length.le⟩

end Backend

end Reproit
