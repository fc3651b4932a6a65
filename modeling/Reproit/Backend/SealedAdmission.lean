/-
# What Core admits of a sealed capture

A capture is sealed after three runs were accepted, and its manifest lists the capsule and the
proofs of the runs among the objects of the capsule.  Sorted by identifier, the proofs are still
in the order of their runs, so Core admits the capsule with the manifest of its upload.
-/

import Reproit.Backend.SealingSample
import Reproit.Replay.Admission

namespace Reproit.Backend

variable [Primitives] {request : SealRequest} {source : NonceSource} {upload : SealedUpload}

/-! ## The admitted candidate -/

/-- What the admission of its input establishes of a request. -/
structure SealRequest.Admitted (request : SealRequest) : Prop where
  capsule : request.input.capsule.Valid
  closesWorld :
    validateWorldClosure request.input.closurePolicy request.input.closure = .ok ()
  closureDigest :
    Canonical.digest request.input.closure = .ok request.input.capsule.closureManifestDigest
  proofs : validateProofSet request.input.capsule request.admitted.proofs.toList
    request.input.perturbations.toList = .ok request.admitted.capsuleDigest

theorem SealRequest.admitted_of_admit {executor : AdmissionExecutor}
    (ran : admitCandidate request.input executor = .ok request.admitted) : request.Admitted := by
  obtain ⟨⟨admitted, calls⟩, completed, same⟩ := (map_eq_ok _ _ _).mp ran
  obtain rfl : admitted = request.admitted := same
  have three := (admitWithCalls_eq_ok completed).1
  simp only [admitWithCalls, validateAdmissionInput, bind_eq_ok, rejectIf_eq_ok,
    not_not] at completed
  obtain ⟨_, ⟨_, valid, _, -, _, -, _, closes, closureDigest, digest, _, named, -⟩, -⟩ := completed
  constructor
  case capsule => exact ReplayCapsule.validate_eq_ok.mp valid
  case closesWorld => exact closes
  case closureDigest => exact named ▸ digest
  case proofs => exact three.proofs

namespace SealRequest.Admitted

omit [Primitives] in
/-- The runs of a proof set are those of the proofs. -/
theorem map_proof_runs (proofs : Vector Proof 3) (perturbations : Vector Perturbation 3) :
    (List.zip ([0, 1, 2] : List UInt8) (proofs.toList.zip perturbations.toList)).map
      (fun run => run.2.1) = proofs.toList := by
  have paired : (proofs.toList.zip perturbations.toList).length = 3 := by
    rw [List.length_zip, Vector.length_toList, Vector.length_toList]
    rfl
  calc (List.zip ([0, 1, 2] : List UInt8) (proofs.toList.zip perturbations.toList)).map
        (fun run => run.2.1)
      = ((List.zip ([0, 1, 2] : List UInt8)
          (proofs.toList.zip perturbations.toList)).map Prod.snd).map Prod.fst := by
        rw [List.map_map]; rfl
    _ = (proofs.toList.zip perturbations.toList).map Prod.fst := by
        rw [List.map_snd_zip paired.le]
    _ = proofs.toList := by
        rw [List.map_fst_zip]
        rw [Vector.length_toList, Vector.length_toList]

/-- The proofs are bound to the capsule, and no two of them have one digest. -/
theorem proofSet (admitted : request.Admitted) :
    Canonical.digest request.input.capsule = .ok request.admitted.capsuleDigest ∧
      (∀ proof ∈ request.admitted.proofs.toList,
        proof.processingMode = request.input.capsule.processingMode) ∧
      (request.admitted.proofs.toList.map fun proof =>
        Digest.of (Canonical.text proof)).Nodup := by
  have accepted := admitted.proofs
  simp only [validateProofSet, bind_eq_ok, pure_eq_ok] at accepted
  obtain ⟨_, -, _, -, _, -, digest, written, _, ran, rfl⟩ := accepted
  obtain ⟨bound, digests, hashed, distinct, -⟩ := validateRuns_eq_ok.mp ran
  have listed := map_proof_runs request.admitted.proofs request.input.perturbations
  refine ⟨written, fun proof among => ?_, ?_⟩
  · rw [← listed] at among
    obtain ⟨run, part, rfl⟩ := List.mem_map.mp among
    exact (bound run part).binding.processingMode
  · have same : digests.map id = (List.zip [0, 1, 2] (request.admitted.proofs.toList.zip
        request.input.perturbations.toList)).map fun run : UInt8 × Proof × Perturbation =>
          Digest.of (Canonical.text run.2.1) := by
      apply map_eq_of_pairing _ hashed
      intro run digest named
      exact Except.ok.inj (named.symm.trans (Canonical.digest_of_exact run.2.1.exact))
    rw [List.map_id] at same
    rw [← listed, List.map_map]
    rw [same] at distinct
    exact distinct

/-- The objects of a sealed capsule are closed. -/
theorem prepared (admitted : request.Admitted) (ran : sealUpload request source = .ok upload) :
    request.Prepared := by
  obtain ⟨plaintext, descriptors, materials, last, seals⟩ := sealUpload_sealed ran
  obtain ⟨-, -, inserted, new, rfl⟩ := plainObjects_eq_ok.mp seals.gathered
  obtain ⟨written, modes, distinct⟩ := admitted.proofSet
  constructor
  case ids => exact seals.ids
  case capsule => exact admitted.capsule
  case closed =>
    intro object listed
    have among := (List.perm_insertionSort (·.objectId ≤ ·.objectId)
      (request.input.capsule.objects ++ addedObjects request)).mem_iff.mpr
        (List.mem_append_left _ listed)
    obtain ⟨material, -, bytes, found, one⟩ := exists_result seals.objects among
    refine ⟨bytes, ?_, one.digest, one.size⟩
    -- the object is none of the added ones
    rcases ((OrderedMap.insertAllNew_eq_some.mp inserted).2.2 _ _).mp found with added | held
    · have id := List.mem_map_of_mem (f := Prod.fst) added
      rw [request.map_fst_addedBytes, ← request.map_objectId_addedObjects] at id
      obtain ⟨other, part, same⟩ := List.mem_map.mp id
      exact absurd (same ▸ List.mem_map_of_mem listed) (new other part)
    · exact held
  case capsuleDigest =>
    exact Except.ok.inj (written.symm.trans
      (Canonical.digest_of_exact (ReplayCapsule.exact admitted.capsule)))
  case modes => exact modes
  case distinct => exact distinct

end SealRequest.Admitted

/-! ## Admission by Core -/

/-- Core admits every admitted candidate with the manifest of its upload, which lists the proofs
in the order of their runs and the one capsule that was admitted. -/
theorem admitCapture_of_sealUpload {executor : AdmissionExecutor}
    (admission : admitCandidate request.input executor = .ok request.admitted)
    (ran : sealUpload request source = .ok upload) :
    admitCapture request.input.capsule request.input.closurePolicy request.input.closure
        request.admitted.proofs.toList request.input.perturbations.toList upload.manifest =
      .ok request.admitted.capsuleDigest ∧
    (upload.manifest.objectsOf .admissionProof).map EncryptedObject.descriptor =
      request.proofs.map proofObject ∧
    (upload.manifest.objectsOf .replayCapsuleManifest).map EncryptedObject.descriptor =
      [capsuleObject request] := by
  have admitted := SealRequest.admitted_of_admit admission
  have prepared := admitted.prepared ran
  obtain ⟨plaintext, descriptors, materials, last, seals⟩ := sealUpload_sealed ran
  obtain ⟨other, gathered, -⟩ := prepared.exists_plainObjects
  obtain ⟨rfl, rfl⟩ := Prod.mk.inj (Except.ok.inj (seals.gathered.symm.trans gathered))
  obtain ⟨built, bound⟩ := SealRequest.buildManifest_eq_ok.mp seals.built
  have listed : upload.manifest.objects.map EncryptedObject.descriptor = request.sorted := by
    rw [seals.manifest_objects]
    exact SealRequest.Prepared.map_descriptor seals.objects
  have mode : upload.manifest.processingMode = request.input.capsule.processingMode := by
    rw [built]
    rfl
  rw [← built] at bound
  refine ⟨?_, ?_, ?_⟩
  · simp only [admitCapture, bind_eq_ok, rejectIf_eq_ok, pure_eq_ok, not_or, not_not]
    exact ⟨(), admitted.closesWorld, _, admitted.closureDigest, (), ⟨rfl, mode.symm⟩, _,
      admitted.proofs, (), bound, rfl⟩
  · rw [CaptureBatchManifest.map_descriptor_objectsOf, listed, prepared.filter_proofs]
  · rw [CaptureBatchManifest.map_descriptor_objectsOf, listed, prepared.filter_capsule]

omit [Primitives] in
/-- The sample capture is admitted by Core. -/
theorem admitCapture_of_sealUpload_sample :
    letI := Sample.marked
    ∃ upload, sealUpload (Sample.sealRequest []) Sample.nonceSource = .ok upload ∧
      admitCapture (Sample.sealRequest []).input.capsule
          (Sample.sealRequest []).input.closurePolicy (Sample.sealRequest []).input.closure
          (Sample.sealRequest []).admitted.proofs.toList
          (Sample.sealRequest []).input.perturbations.toList upload.manifest =
        .ok (Sample.sealRequest []).admitted.capsuleDigest ∧
      (upload.manifest.objectsOf .admissionProof).map EncryptedObject.descriptor =
        (Sample.sealRequest []).proofs.map proofObject ∧
      (upload.manifest.objectsOf .replayCapsuleManifest).map EncryptedObject.descriptor =
        [capsuleObject (Sample.sealRequest [])] := by
  let _ := Sample.marked
  obtain ⟨upload, ran⟩ := @Sample.exists_sealUpload [] (Nat.zero_le _)
  refine ⟨upload, ran, admitCapture_of_sealUpload (Sample.admitCandidate_sealRequest ?_) ran⟩
  exact Nat.zero_le _

end Reproit.Backend
