/-
# Admission

A capsule is admitted when its World is closed under the policy, three proofs bind
it to the three perturbations, and the capture manifest lists the capsule and the
proofs.  The proof objects of a manifest are read by position.
-/

import Reproit.Core.Model.Batch
import Reproit.Core.Model.Proof

namespace Reproit

variable [Primitives]

def proofBindingError : Error :=
  .new .admissionProofBinding "An admission proof does not bind the sealed capsule."

def worldClosureError : Error :=
  .new .worldNotClosed "The World closure does not match its policy."

/-! ## The closed World -/

/-- The receipt closes the boundary of the rule as the rule allows. -/
def receiptMatches (rule : ClosureRule) (receipt : ClosureReceipt) : Prop :=
  rule.boundaryId = receipt.boundaryId ∧ rule.observationClass = receipt.observationClass ∧
    receipt.mechanism ∈ rule.allowedMechanisms

instance (rule : ClosureRule) (receipt : ClosureReceipt) : Decidable (receiptMatches rule receipt) :=
  inferInstanceAs (Decidable (_ ∧ _))

def validateWorldClosure (policy : ClosurePolicy) (closure : WorldClosure) : Result Unit := do
  policy.validate
  closure.validate
  let policyDigest ← Canonical.digest policy
  rejectIf (closure.policyDigest ≠ policyDigest ∨
    closure.receipts.length ≠ policy.rules.length) worldClosureError
  forEach (policy.rules.zip closure.receipts) fun (rule, receipt) =>
    rejectIf (¬ receiptMatches rule receipt) worldClosureError

/-- The closure is valid, names the policy and has the receipt of every rule, in order. -/
structure ClosesWorld (policy : ClosurePolicy) (closure : WorldClosure) : Prop where
  validPolicy : policy.Valid
  validClosure : closure.Valid
  digest : Canonical.digest policy = .ok closure.policyDigest
  receipts : List.Forall₂ receiptMatches policy.rules closure.receipts

theorem validateWorldClosure_eq_ok {policy : ClosurePolicy} {closure : WorldClosure} :
    validateWorldClosure policy closure = .ok () ↔ ClosesWorld policy closure := by
  simp only [validateWorldClosure, bind_eq_ok, rejectIf_eq_ok, forEach_eq_ok, not_or, not_not]
  constructor
  · rintro ⟨_, policy, _, closure, _, digest, _, ⟨same, length⟩, receipts⟩
    refine ⟨ClosurePolicy.validate_eq_ok.mp policy, WorldClosure.validate_eq_ok.mp closure,
      same ▸ digest, ?_⟩
    exact List.forall₂_iff_zip.mpr ⟨length.symm, fun member => receipts _ member⟩
  · intro closes
    obtain ⟨length, receipts⟩ := List.forall₂_iff_zip.mp closes.receipts
    exact ⟨(), ClosurePolicy.validate_eq_ok.mpr closes.validPolicy, (),
      WorldClosure.validate_eq_ok.mpr closes.validClosure, _, closes.digest, (),
      ⟨rfl, length.symm⟩, fun pair member => receipts member⟩

/-! ## The proof set -/

/-- The proof is of the run, the capsule and the perturbation. -/
def validateRunBinding (capsule : ReplayCapsule) (capsuleDigest : Digest) (proof : Proof)
    (perturbation : Perturbation) (runIndex : UInt8) : Result Unit := do
  rejectIf (proof.runIndex ≠ runIndex ∨ perturbation.runIndex ≠ runIndex) proofBindingError
  let perturbationDigest ← Canonical.digest perturbation
  rejectIf (proof.perturbationDigest ≠ perturbationDigest ∨ proof.capsuleDigest ≠ capsuleDigest ∨
    proof.processingMode ≠ capsule.processingMode ∨ proof.worldDigest ≠ capsule.worldDigest ∨
    proof.triggerDigest ≠ capsule.triggerDigest ∨ proof.subjectDigest ≠ capsule.subjectDigest ∨
    proof.failureDigest ≠ capsule.failureDigest ∨
    proof.executorCapabilitiesDigest ≠ capsule.supportBundleDigest) proofBindingError

/-- Check every run in order; no two proofs have one digest. -/
def validateRuns (capsule : ReplayCapsule) (capsuleDigest : Digest) :
    (seen : List Digest) → List (UInt8 × Proof × Perturbation) → Result Unit
  | _, [] => .ok ()
  | seen, (runIndex, proof, perturbation) :: rest => do
      proof.validate
      perturbation.validate
      validateRunBinding capsule capsuleDigest proof perturbation runIndex
      let proofDigest ← Canonical.digest proof
      rejectIf (proofDigest ∈ seen) proofBindingError
      validateRuns capsule capsuleDigest (proofDigest :: seen) rest

def validateProofSet (capsule : ReplayCapsule) (proofs : List Proof)
    (perturbations : List Perturbation) : Result Digest := do
  capsule.validate
  rejectIf (proofs.length ≠ 3)
    (.new .admissionProofCount "Admission requires exactly three proof records.")
  rejectIf (perturbations.length ≠ 3) proofBindingError
  let capsuleDigest ← Canonical.digest capsule
  validateRuns capsule capsuleDigest [] (List.zip [0, 1, 2] (proofs.zip perturbations))
  return capsuleDigest

/-! ## The capture manifest -/

/-- The objects of one role, in manifest order. -/
def CaptureBatchManifest.objectsOf (manifest : CaptureBatchManifest) (role : LogicalObjectRole) :
    List EncryptedObject :=
  manifest.objects.filter fun object => object.descriptor.role = role

omit [Primitives] in
theorem CaptureBatchManifest.map_descriptor_objectsOf (manifest : CaptureBatchManifest)
    (role : LogicalObjectRole) :
    (manifest.objectsOf role).map EncryptedObject.descriptor =
      (manifest.objects.map EncryptedObject.descriptor).filter fun object =>
        object.role = role := by
  rw [objectsOf, List.filter_map]
  rfl

def validateCaptureManifest (manifest : CaptureBatchManifest) (capsuleDigest : Digest)
    (proofs : List Proof) : Result Unit := do
  manifest.validate
  rejectIf (manifest.replayCapsuleDigest ≠ capsuleDigest ∨ proofs.length ≠ 3 ∨
    ∃ proof ∈ proofs, proof.processingMode ≠ manifest.processingMode) proofBindingError
  rejectIf ((manifest.objectsOf .replayCapsuleManifest).map (fun object =>
      (object.descriptor.objectId, object.descriptor.plainDigest)) ≠
    [(manifest.replayCapsuleObjectId, capsuleDigest)]) proofBindingError
  rejectIf ((manifest.objectsOf .admissionProof).length ≠ 3)
    (.new .admissionProofCount "The capture batch needs three proof objects.")
  forEach (proofs.zip (manifest.proofDigests.zip (manifest.objectsOf .admissionProof)))
    fun (proof, recorded, object) => do
      let proofDigest ← Canonical.digest proof
      rejectIf (recorded ≠ proofDigest ∨ object.descriptor.plainDigest ≠ proofDigest)
        proofBindingError

/-- Admit a capsule; the result is its digest. -/
def admitCapture (capsule : ReplayCapsule) (policy : ClosurePolicy) (closure : WorldClosure)
    (proofs : List Proof) (perturbations : List Perturbation) (manifest : CaptureBatchManifest) :
    Result Digest := do
  validateWorldClosure policy closure
  let closureDigest ← Canonical.digest closure
  rejectIf (capsule.closureManifestDigest ≠ closureDigest ∨
    capsule.processingMode ≠ manifest.processingMode) worldClosureError
  let capsuleDigest ← validateProofSet capsule proofs perturbations
  validateCaptureManifest manifest capsuleDigest proofs
  return capsuleDigest

/-! ## What the checks establish -/

/-- When one proof binds the capsule in one run. -/
structure RunBinding (capsule : ReplayCapsule) (capsuleDigest : Digest) (proof : Proof)
    (perturbation : Perturbation) (runIndex : UInt8) : Prop where
  proofRun : proof.runIndex = runIndex
  perturbationRun : perturbation.runIndex = runIndex
  perturbationDigest : Canonical.digest perturbation = .ok proof.perturbationDigest
  capsuleDigest : proof.capsuleDigest = capsuleDigest
  processingMode : proof.processingMode = capsule.processingMode
  worldDigest : proof.worldDigest = capsule.worldDigest
  triggerDigest : proof.triggerDigest = capsule.triggerDigest
  subjectDigest : proof.subjectDigest = capsule.subjectDigest
  failureDigest : proof.failureDigest = capsule.failureDigest
  executorCapabilitiesDigest : proof.executorCapabilitiesDigest = capsule.supportBundleDigest

theorem validateRunBinding_eq_ok {capsule : ReplayCapsule} {capsuleDigest : Digest}
    {proof : Proof} {perturbation : Perturbation} {runIndex : UInt8} {done : Unit} :
    validateRunBinding capsule capsuleDigest proof perturbation runIndex = .ok done ↔
      RunBinding capsule capsuleDigest proof perturbation runIndex := by
  simp only [validateRunBinding, bind_eq_ok, rejectIf_eq_ok, not_or, not_not]
  constructor
  · rintro ⟨_, ⟨proofRun, perturbationRun⟩, _, digest, rfl, capsule, mode, world, trigger,
      subject, failure, executor⟩
    exact ⟨proofRun, perturbationRun, digest, capsule, mode, world, trigger, subject, failure,
      executor⟩
  · intro bound
    exact ⟨(), ⟨bound.proofRun, bound.perturbationRun⟩, _, bound.perturbationDigest, rfl,
      bound.capsuleDigest, bound.processingMode, bound.worldDigest, bound.triggerDigest,
      bound.subjectDigest, bound.failureDigest, bound.executorCapabilitiesDigest⟩

/-- When one run of a proof set is right. -/
structure RunValid (capsule : ReplayCapsule) (capsuleDigest : Digest)
    (run : UInt8 × Proof × Perturbation) : Prop where
  proof : run.2.1.validate = .ok ()
  perturbation : run.2.2.validate = .ok ()
  binding : RunBinding capsule capsuleDigest run.2.1 run.2.2 run.1

/-- The runs are right, their proofs have digests and no two of them are equal. -/
theorem validateRuns_eq_ok {capsule : ReplayCapsule} {capsuleDigest : Digest}
    {seen : List Digest} {runs : List (UInt8 × Proof × Perturbation)} :
    validateRuns capsule capsuleDigest seen runs = .ok () ↔
      (∀ run ∈ runs, RunValid capsule capsuleDigest run) ∧
        ∃ digests, List.Forall₂ (fun run digest => Canonical.digest run.2.1 = .ok digest)
          runs digests ∧ digests.Nodup ∧ ∀ digest ∈ digests, digest ∉ seen := by
  induction runs generalizing seen with
  | nil =>
      simp only [validateRuns, List.not_mem_nil, false_implies, implies_true, true_and, true_iff]
      exact ⟨[], .nil, List.nodup_nil, by simp⟩
  | cons run rest ih =>
      obtain ⟨runIndex, proof, perturbation⟩ := run
      simp only [validateRuns, bind_eq_ok, rejectIf_eq_ok, ih, validateRunBinding_eq_ok,
        List.forall_mem_cons]
      constructor
      · rintro ⟨_, proofValid, _, perturbationValid, _, binding, digest, written, _, fresh,
          others, digests, each, nodup, unseen⟩
        refine ⟨⟨⟨proofValid, perturbationValid, binding⟩, others⟩, digest :: digests,
          .cons written each, List.nodup_cons.mpr ⟨fun member => ?_, nodup⟩, ?_⟩
        · exact unseen digest member List.mem_cons_self
        · rintro other (_ | ⟨_, member⟩)
          · exact fresh
          · exact fun held => unseen other member (List.mem_cons_of_mem _ held)
      · rintro ⟨⟨⟨proofValid, perturbationValid, binding⟩, others⟩, digests, each, nodup,
          unseen⟩
        cases each with
        | @cons _ digest _ digests written each =>
            obtain ⟨notLater, nodup⟩ := List.nodup_cons.mp nodup
            refine ⟨(), proofValid, (), perturbationValid, (), binding, digest, written, (),
              unseen digest List.mem_cons_self, others, digests, each, nodup, ?_⟩
            rintro other member (_ | ⟨_, held⟩)
            · exact notLater member
            · exact unseen other (List.mem_cons_of_mem _ member) held

end Reproit
