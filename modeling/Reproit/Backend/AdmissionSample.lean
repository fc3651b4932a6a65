/-
# A small admission

The closed capture of a World is executed by a program that always fails alike.  Its
three executions are admitted, and the World is any one that can be stored.
-/

import Reproit.Backend.Admission
import Reproit.Backend.Sample
import Reproit.Core.Exactness

namespace Reproit.Backend.Sample

variable [Primitives]

/-- The ambient state of every case. -/
def perturbation (case : PerturbationCase) : Perturbation where
  ambientIdentityDigest := ⟨0⟩
  case := case
  format := .v1
  runIndex := case.runIndex
  suite := "reproit.controlled-perturbation.v1"

def perturbations : Vector Perturbation 3 :=
  #v[perturbation .baseline, perturbation .coldAmbient, perturbation .timingAmbient]

/-- The closed capture, with the failure that an executor is expected to report. -/
def admissionInput (world : WorldCheckpoint) (objects : ObjectClosure)
    (expected : FailureIdentity) : AdmissionInput where
  capsule := capsule world 0
  closure := closure
  closurePolicy := policy
  expectedFailure := expected
  objects := objects
  perturbations := perturbations

/-- An executor that reports one failure on every run. -/
def executor (reported : FailureIdentity) : AdmissionExecutor := fun _ _ =>
  .ok { cleanupComplete := true
        executorCapabilitiesDigest := Digest.of (Canonical.text bundle)
        failure := some reported }

/-- The proof of one run. -/
def proof (world : WorldCheckpoint) (case : PerturbationCase) : Proof where
  capsuleDigest := Digest.of (Canonical.text (capsule world 0))
  executorCapabilitiesDigest := Digest.of (Canonical.text bundle)
  failureDigest := Digest.of (Canonical.text identity)
  format := .v1
  perturbationDigest := Digest.of (Canonical.text (perturbation case))
  processingMode := .managed
  result := .targetReproduced
  runIndex := case.runIndex
  subjectDigest := Digest.of (Canonical.text subjectManifest)
  triggerDigest := Digest.of (Canonical.text trigger)
  worldDigest := Digest.of (Canonical.text world)

def proofs (world : WorldCheckpoint) : Vector Proof 3 :=
  #v[proof world .baseline, proof world .coldAmbient, proof world .timingAmbient]

/-- The executions of the three runs. -/
def execution (world : WorldCheckpoint) (objects : ObjectClosure) (reported : FailureIdentity)
    (case : PerturbationCase) : Execution where
  request := { capsule := capsule world 0, objects := objects, perturbation := perturbation case }
  observation := {
    cleanupComplete := true
    executorCapabilitiesDigest := Digest.of (Canonical.text bundle)
    failure := some reported }

/-- The proof of one run of a capsule. -/
def proofOf (capsule : ReplayCapsule) (case : PerturbationCase) : Proof where
  capsuleDigest := Digest.of (Canonical.text capsule)
  executorCapabilitiesDigest := Digest.of (Canonical.text bundle)
  failureDigest := capsule.failureDigest
  format := .v1
  perturbationDigest := Digest.of (Canonical.text (perturbation case))
  processingMode := capsule.processingMode
  result := .targetReproduced
  runIndex := case.runIndex
  subjectDigest := capsule.subjectDigest
  triggerDigest := capsule.triggerDigest
  worldDigest := capsule.worldDigest

def proofsOf (capsule : ReplayCapsule) : Vector Proof 3 :=
  #v[proofOf capsule .baseline, proofOf capsule .coldAmbient, proofOf capsule .timingAmbient]

/-- The execution of one run of an input. -/
def executionOf (input : AdmissionInput) (case : PerturbationCase) : Execution where
  request := {
    capsule := input.capsule
    objects := input.objects
    perturbation := perturbation case }
  observation := {
    cleanupComplete := true
    executorCapabilitiesDigest := Digest.of (Canonical.text bundle)
    failure := some input.expectedFailure }

/-! ## The runs succeed -/

omit [Primitives] in
theorem validate_perturbation (case : PerturbationCase) :
    (perturbation case).validate = .ok () := by
  cases case <;> rfl

section

variable {input : AdmissionInput}

omit [Primitives] in
theorem runs_of_perturbations {run : Perturbation × Nat}
    (listed : run ∈ perturbations.toList.zipIdx) : run = (perturbation .baseline, 0) ∨
      run = (perturbation .coldAmbient, 1) ∨ run = (perturbation .timingAmbient, 2) := by
  simpa [perturbations] using listed

/-- A valid input has a valid capsule. -/
theorem validate_capsule_of_input (accepted : validateAdmissionInput input = .ok ()) :
    input.capsule.validate = .ok () := by
  simp only [validateAdmissionInput, bind_eq_ok] at accepted
  obtain ⟨_, valid, -⟩ := accepted
  exact valid

/-- Every run of a valid input is executed and gives its proof. -/
theorem admitRunWithCalls_of_input (perturbed : input.perturbations = perturbations)
    (accepted : validateAdmissionInput input = .ok ()) (case : PerturbationCase)
    (earlier : List Execution) :
    admitRunWithCalls input (executor input.expectedFailure) case.runIndex.toNat earlier =
      .ok (proofOf input.capsule case, earlier ++ [executionOf input case]) := by
  have selected : input.perturbations[case.runIndex.toNat]? = some (perturbation case) := by
    rw [perturbed]
    cases case <;> rfl
  have capsule := ReplayCapsule.validate_eq_ok.mp (validate_capsule_of_input accepted)
  simp only [admitRunWithCalls, bind_eq_ok, rejectIf_eq_ok, okOr_eq_ok, pure_eq_ok, not_not]
  exact ⟨(), accepted, _, selected, (), validate_perturbation case, (), rfl, _, rfl, (), rfl, _,
    rfl, (), decide_eq_true rfl, _, Canonical.digest_of_exact (ReplayCapsule.exact capsule), _,
    Canonical.digest_of_exact (perturbation case).exact, rfl⟩

/-- Proofs with three digests bind the capsule. -/
theorem validateProofSet_of_capsule {capsule : ReplayCapsule} (valid : capsule.validate = .ok ())
    (bound : capsule.supportBundleDigest = Digest.of (Canonical.text bundle))
    (distinct : ((proofsOf capsule).toList.map fun proof =>
      Digest.of (Canonical.text proof)).Nodup) :
    validateProofSet capsule (proofsOf capsule).toList perturbations.toList =
      .ok (Digest.of (Canonical.text capsule)) := by
  simp only [validateProofSet, bind_eq_ok, rejectIf_eq_ok, not_not, pure_eq_ok]
  refine ⟨(), valid, (), rfl, (), rfl, _,
    Canonical.digest_of_exact (ReplayCapsule.exact (ReplayCapsule.validate_eq_ok.mp valid)), (),
    ?_, rfl⟩
  apply validateRuns_eq_ok.mpr
  constructor
  · intro run listed
    have runs : ∃ case, run = (PerturbationCase.runIndex case, proofOf capsule case,
        perturbation case) := by
      have members : run = (0, proofOf capsule .baseline, perturbation .baseline) ∨
          run = (1, proofOf capsule .coldAmbient, perturbation .coldAmbient) ∨
          run = (2, proofOf capsule .timingAmbient, perturbation .timingAmbient) := by
        simpa [proofsOf, perturbations] using listed
      rcases members with same | same | same
      · exact ⟨.baseline, same⟩
      · exact ⟨.coldAmbient, same⟩
      · exact ⟨.timingAmbient, same⟩
    obtain ⟨case, rfl⟩ := runs
    refine ⟨by cases case <;> rfl, validate_perturbation case, ?_⟩
    exact ⟨rfl, rfl, Canonical.digest_of_exact (perturbation case).exact, rfl, rfl, rfl, rfl,
      rfl, rfl, bound.symm⟩
  · refine ⟨_, ?_, distinct, by simp⟩
    exact .cons (Canonical.digest_of_exact (Proof.exact _))
      (.cons (Canonical.digest_of_exact (Proof.exact _))
        (.cons (Canonical.digest_of_exact (Proof.exact _)) .nil))

/-- A valid input is admitted by an executor that always reports the expected failure. -/
theorem admitWithCalls_of_input (perturbed : input.perturbations = perturbations)
    (accepted : validateAdmissionInput input = .ok ())
    (bound : input.capsule.supportBundleDigest = Digest.of (Canonical.text bundle))
    (distinct : ((proofsOf input.capsule).toList.map fun proof =>
      Digest.of (Canonical.text proof)).Nodup) :
    admitWithCalls input (executor input.expectedFailure) =
      .ok ({ capsuleDigest := Digest.of (Canonical.text input.capsule)
             proofs := proofsOf input.capsule },
        [.baseline, .coldAmbient, .timingAmbient].map (executionOf input)) := by
  have valid := validate_capsule_of_input accepted
  have run := admitRunWithCalls_of_input perturbed accepted
  have proofs := validateProofSet_of_capsule valid bound distinct
  rw [← perturbed] at proofs
  simp only [admitWithCalls, bind_eq_ok, pure_eq_ok]
  refine ⟨(), accepted, _, run .baseline [], _, run .coldAmbient _, _, run .timingAmbient _, _, ?_,
    rfl⟩
  simp only [completeAdmission, bind_eq_ok, pure_eq_ok]
  exact ⟨(), accepted, _,
    Canonical.digest_of_exact (ReplayCapsule.exact (ReplayCapsule.validate_eq_ok.mp valid)), _,
    proofs, rfl⟩

end

variable {world : WorldCheckpoint} {objects : ObjectClosure} {expected : FailureIdentity}

theorem validateAdmissionInput_sample (valid : world.validate = .ok ())
    (storable : world.Storable) (identified : expected.validate = .ok ()) :
    validateAdmissionInput (admissionInput world objects expected) = .ok () := by
  simp only [validateAdmissionInput, bind_eq_ok, rejectIf_eq_ok, forEach_eq_ok, not_or, not_not]
  refine ⟨(), validate_capsule valid storable.mediaTypes (Nat.zero_le _), (), ⟨rfl, rfl⟩, (),
    identified, (), validateWorldClosure_sample, _, digest_closure, (), rfl, ?_⟩
  intro run listed
  rcases runs_of_perturbations listed with rfl | rfl | rfl <;>
    exact ⟨(), validate_perturbation _, rfl⟩

theorem admitWithCalls_sample (valid : world.validate = .ok ())
    (storable : world.Storable) (identified : expected.validate = .ok ())
    (distinct : ((proofs world).toList.map fun proof =>
      Digest.of (Canonical.text proof)).Nodup) :
    admitWithCalls (admissionInput world objects expected) (executor expected) =
      .ok ({ capsuleDigest := Digest.of (Canonical.text (capsule world 0)), proofs := proofs world },
        [.baseline, .coldAmbient, .timingAmbient].map (execution world objects expected)) :=
  @admitWithCalls_of_input _ (admissionInput world objects expected) rfl
    (validateAdmissionInput_sample valid storable identified) rfl distinct

end Reproit.Backend.Sample
