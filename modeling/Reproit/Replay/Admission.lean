/-
# Three runs and the failure they prove

An admitted candidate was executed three times, and every run reported the expected
failure.  The proofs carry the failure digest of the capsule, which nothing in the
admission compares with the expected failure.
-/

import Reproit.Backend.AdmissionSample
import Reproit.Backend.SamplePrimitives

namespace Reproit

open Backend

variable [Primitives]

/-- One run reproduced the expected failure of the input. -/
structure Reproduced (input : AdmissionInput) (executor : AdmissionExecutor)
    (earlier : List Execution) (run : Fin 3) (execution : Execution) : Prop where
  request : execution.request =
    { capsule := input.capsule, objects := input.objects, perturbation := input.perturbations.get run }
  position : (input.perturbations.get run).runIndex.toNat = run.val
  answered : executor earlier execution.request = .ok execution.observation
  cleanup : execution.observation.cleanupComplete = true
  failure : execution.observation.failure = some input.expectedFailure

/-- The executor was called three times, and the proofs bind the capsule. -/
structure ThreeRuns (input : AdmissionInput) (executor : AdmissionExecutor)
    (admitted : AdmittedCandidate) (calls : List Execution) : Prop where
  count : calls.length = 3
  runs : ∀ run : Fin 3, ∃ execution, calls[run.val]? = some execution ∧
    Reproduced input executor (calls.take run.val) run execution
  proofs : validateProofSet input.capsule admitted.proofs.toList input.perturbations.toList =
    .ok admitted.capsuleDigest

/-- Every proof has the digest of the failure that its run reported. -/
def NamesFailure (admitted : AdmittedCandidate) (calls : List Execution) : Prop :=
  ∀ run : Fin 3, ∃ execution failure, calls[run.val]? = some execution ∧
    execution.observation.failure = some failure ∧
    Canonical.digest failure = .ok (admitted.proofs.get run).failureDigest

omit [Primitives] in
theorem getElem_of_getElem? {perturbations : Vector Perturbation 3} {run : Fin 3}
    {perturbation : Perturbation} (selected : perturbations[run.val]? = some perturbation) :
    perturbations.get run = perturbation := by
  have found : perturbations[run.val]? = some (perturbations.get run) :=
    Vector.getElem?_eq_getElem run.isLt
  exact Option.some.inj (found.symm.trans selected)

/-- One run: its execution comes last, and its proof has the failure digest of the
capsule. -/
theorem admitRunWithCalls_eq_ok {input : AdmissionInput} {executor : AdmissionExecutor}
    {run : Fin 3} {earlier calls : List Execution} {proof : Proof}
    (success : admitRunWithCalls input executor run.val earlier = .ok (proof, calls)) :
    proof.failureDigest = input.capsule.failureDigest ∧
      ∃ execution, calls = earlier ++ [execution] ∧
        Reproduced input executor earlier run execution := by
  simp only [admitRunWithCalls, bind_eq_ok, rejectIf_eq_ok, okOr_eq_ok, pure_eq_ok, not_not,
    Prod.mk.injEq] at success
  obtain ⟨_, -, perturbation, selected, _, -, _, position, observation, answered, _, cleanup,
    failure, reported, _, matched, _, -, _, -, rfl, rfl⟩ := success
  obtain rfl := getElem_of_getElem? selected
  have same : input.expectedFailure = failure := of_decide_eq_true matched
  refine ⟨rfl, _, rfl, ?_⟩
  exact ⟨rfl, position, answered, cleanup, reported.trans (congrArg some same.symm)⟩

omit [Primitives] in
theorem forall_runs {holds : Fin 3 → Prop} (first : holds 0) (second : holds 1)
    (third : holds 2) (run : Fin 3) : holds run :=
  Fin.cases first (Fin.cases second (Fin.cases third fun none => none.elim0)) run

/-- Admission runs the executor three times in order, and every proof has the failure
digest of the capsule. -/
theorem admitWithCalls_eq_ok {input : AdmissionInput} {executor : AdmissionExecutor}
    {admitted : AdmittedCandidate} {calls : List Execution}
    (success : admitWithCalls input executor = .ok (admitted, calls)) :
    ThreeRuns input executor admitted calls ∧
      ∀ run : Fin 3, (admitted.proofs.get run).failureDigest = input.capsule.failureDigest := by
  simp only [admitWithCalls, completeAdmission, bind_eq_ok, pure_eq_ok, Prod.mk.injEq,
    Prod.exists] at success
  obtain ⟨_, -, first, _, firstRun, second, _, secondRun, third, _, thirdRun, _,
    ⟨_, -, capsuleDigest, digest, proofDigest, bound, rfl⟩, rfl, rfl⟩ := success
  obtain ⟨firstDigest, firstCall, rfl, firstRight⟩ := @admitRunWithCalls_eq_ok _ _ _ 0 _ _ _ firstRun
  obtain ⟨secondDigest, secondCall, rfl, secondRight⟩ :=
    @admitRunWithCalls_eq_ok _ _ _ 1 _ _ _ secondRun
  obtain ⟨thirdDigest, thirdCall, rfl, thirdRight⟩ := @admitRunWithCalls_eq_ok _ _ _ 2 _ _ _ thirdRun
  have same : proofDigest = capsuleDigest := by
    have read := bound
    simp only [validateProofSet, bind_eq_ok, pure_eq_ok] at read
    obtain ⟨_, -, _, -, _, -, _, again, _, -, rfl⟩ := read
    exact Except.ok.inj (again.symm.trans digest)
  constructor
  · refine ⟨rfl, forall_runs ?_ ?_ ?_, same ▸ bound⟩
    · exact ⟨firstCall, rfl, firstRight⟩
    · exact ⟨secondCall, rfl, secondRight⟩
    · exact ⟨thirdCall, rfl, thirdRight⟩
  · exact forall_runs firstDigest secondDigest thirdDigest

/-- An admission runs three times as promised, and its proofs name the failure that was
reported exactly when the capsule names the expected failure. -/
theorem admitWithCalls_namesFailure_iff {input : AdmissionInput} {executor : AdmissionExecutor}
    {admitted : AdmittedCandidate} {calls : List Execution}
    (success : admitWithCalls input executor = .ok (admitted, calls)) :
    admitCandidate input executor = .ok admitted ∧
      (ThreeRuns input executor admitted calls ∧ NamesFailure admitted calls ↔
        Canonical.digest input.expectedFailure = .ok input.capsule.failureDigest) := by
  obtain ⟨three, recorded⟩ := admitWithCalls_eq_ok success
  refine ⟨by rw [admitCandidate, success]; rfl, ?_⟩
  constructor
  · rintro ⟨-, named⟩
    obtain ⟨execution, failure, listed, reported, digest⟩ := named 0
    obtain ⟨same, run, right⟩ := three.runs 0
    obtain rfl := Option.some.inj (listed.symm.trans run)
    obtain rfl := Option.some.inj (reported.symm.trans right.failure)
    rwa [recorded 0] at digest
  · intro digest
    refine ⟨three, fun run => ?_⟩
    obtain ⟨execution, listed, right⟩ := three.runs run
    exact ⟨execution, _, listed, right.failure, by rw [recorded run]; exact digest⟩

/-! ## A capture with a failure of its own -/

omit [Primitives] in
theorem nodup_proofs_single :
    letI := Sample.marked
    ((Sample.proofs Sample.single).toList.map fun proof =>
      Digest.of (Canonical.text proof)).Nodup := by
  let _ := Sample.marked
  have different : ∀ first second : PerturbationCase, first.runIndex ≠ second.runIndex →
      Digest.of (Canonical.text (Sample.proof Sample.single first)) ≠
        Digest.of (Canonical.text (Sample.proof Sample.single second)) :=
    fun _ _ runs => Sample.digest_proof_ne runs
  simp only [Sample.proofs, Vector.toList_mk, List.map_cons, List.map_nil, List.nodup_cons,
    List.mem_cons, List.not_mem_nil, or_false, not_or, not_false_eq_true, List.nodup_nil, and_true]
  exact ⟨⟨different _ _ (by decide), different _ _ (by decide)⟩, different _ _ (by decide)⟩

omit [Primitives] in
theorem admitWithCalls_namesFailure_iff_single :
    letI := Sample.marked
    let input := Sample.admissionInput Sample.single ⟨∅⟩ Sample.identity
    let admitted : AdmittedCandidate :=
      { capsuleDigest := Digest.of (Canonical.text (Sample.capsule Sample.single 0))
        proofs := Sample.proofs Sample.single }
    let calls := [.baseline, .coldAmbient, .timingAmbient].map
      (Sample.execution Sample.single ⟨∅⟩ Sample.identity)
    admitWithCalls input (Sample.executor Sample.identity) = .ok (admitted, calls) ∧
      admitCandidate input (Sample.executor Sample.identity) = .ok admitted ∧
        (ThreeRuns input (Sample.executor Sample.identity) admitted calls ∧
            NamesFailure admitted calls ↔
          Canonical.digest input.expectedFailure = .ok input.capsule.failureDigest) := by
  let _ := Sample.marked
  have success := @Sample.admitWithCalls_sample _ _ ⟨∅⟩ _ Sample.validate_single
    Sample.storable_single Sample.validate_identity nodup_proofs_single
  exact ⟨success, admitWithCalls_namesFailure_iff success⟩

/-- A failure that the capsule of the small capture does not name. -/
def otherFailure : FailureIdentity :=
  .contract {
    category := .explicit
    contractId := "partial"
    contractVersion := "1"
    expectedDigest := ⟨0⟩
    observedDigest := ⟨1⟩
    operationKind := .requestResponse
    operationName := "run"
    runtimeFamily := "rust"
    schema := "reproit.failure.v1" }

omit [Primitives] in
theorem digest_otherFailure :
    letI := Sample.marked
    Digest.of (Canonical.text otherFailure) ≠ Digest.of (Canonical.text Sample.identity) := by
  apply Sample.digest_ne_of_shape
  rw [Sample.shape_text otherFailure.exact, Sample.shape_text Sample.identity.exact]
  decide +kernel

omit [Primitives] in
/-- Runs that report a failure of their own are admitted as proofs of the failure that
the capsule names. -/
theorem not_admit_namesFailure :
    letI := Sample.marked
    ¬ ∀ (input : AdmissionInput) (executor : AdmissionExecutor) (admitted : AdmittedCandidate)
        (calls : List Execution), admitWithCalls input executor = .ok (admitted, calls) →
      ThreeRuns input executor admitted calls ∧ NamesFailure admitted calls := by
  let _ := Sample.marked
  intro names
  have success := @Sample.admitWithCalls_sample _ _ ⟨∅⟩ otherFailure Sample.validate_single
    Sample.storable_single rfl nodup_proofs_single
  obtain ⟨-, named⟩ := names _ _ _ _ success
  obtain ⟨execution, failure, listed, reported, digest⟩ := named 0
  obtain rfl := Option.some.inj listed
  obtain rfl := Option.some.inj reported
  rw [Canonical.digest_of_exact (FailureIdentity.exact _), Except.ok.injEq] at digest
  exact digest_otherFailure digest

end Reproit
