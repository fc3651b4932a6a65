/-
# What one visit of a constraint does

A visit skips its constraint, ends the reduction, or tests the constraint by one trial.
Removing a constraint takes away that constraint and the states that exist with it,
and nothing else.
-/

import Reproit.Core.ProcessorDocuments
import Reproit.Processor.Prerequisites

namespace Reproit

open Backend

/-! ## Removing a constraint -/

/-- The removed feature takes the state with it. -/
def TakesAlong : ProcessorConstraint → ProcessorConstraint → Prop
  | .instructionFeature feature, .osEnabledState state => (state, feature) ∈ osStateRequiredFeature
  | _, _ => False

variable {requirement : ProcessorRequirement} {constraint other : ProcessorConstraint}

theorem presentIn_removeFrom :
    other.presentIn (constraint.removeFrom requirement) = true ↔
      other.presentIn requirement = true ∧ other ≠ constraint ∧ ¬ TakesAlong constraint other := by
  cases constraint with
  | instructionFeature feature =>
      cases other with
      | osEnabledState state =>
          rw [ProcessorConstraint.presentIn, ProcessorConstraint.removeFrom,
            List.contains_iff_mem, List.mem_filter, ProcessorConstraint.presentIn,
            List.contains_iff_mem, TakesAlong, ← ProcessorConstraint.any_osStateRequiredFeature]
          simp only [Bool.not_eq_true', Bool.not_eq_true, ne_eq, reduceCtorEq, not_false_eq_true,
            true_and]
      | instructionFeature value =>
          simp [ProcessorConstraint.presentIn, ProcessorConstraint.removeFrom, TakesAlong]
      | processorIdentity =>
          simp [ProcessorConstraint.presentIn, ProcessorConstraint.removeFrom, TakesAlong]
  | osEnabledState state =>
      cases other <;>
        simp [ProcessorConstraint.presentIn, ProcessorConstraint.removeFrom, TakesAlong]
  | processorIdentity =>
      cases other <;>
        simp [ProcessorConstraint.presentIn, ProcessorConstraint.removeFrom, TakesAlong]

theorem removeFrom_features_sublist :
    (constraint.removeFrom requirement).instructionFeatures.Sublist
      requirement.instructionFeatures := by
  cases constraint with
  | instructionFeature feature => exact List.filter_sublist
  | osEnabledState state => exact List.Sublist.refl _
  | processorIdentity => exact List.Sublist.refl _

theorem removeFrom_states_sublist :
    (constraint.removeFrom requirement).osEnabledStates.Sublist requirement.osEnabledStates := by
  cases constraint with
  | instructionFeature feature => exact List.filter_sublist
  | osEnabledState state => exact List.filter_sublist
  | processorIdentity => exact List.Sublist.refl _

theorem removeFrom_identity :
    (constraint.removeFrom requirement).identity = requirement.identity ∨
      (constraint.removeFrom requirement).identity = none := by
  cases constraint with
  | instructionFeature feature => exact .inl rfl
  | osEnabledState state => exact .inl rfl
  | processorIdentity => exact .inr rfl

theorem removeFrom_fixed :
    (constraint.removeFrom requirement).abi = requirement.abi ∧
      (constraint.removeFrom requirement).architecture = requirement.architecture := by
  cases constraint <;> exact ⟨rfl, rfl⟩

/-- Two constraints of one label are equal. -/
theorem label_injective : Function.Injective ProcessorConstraint.label := by
  have apart : ∀ feature state : String,
      "instruction-feature." ++ feature ≠ "os-enabled-state." ++ state := by
    intro feature state same
    have begins := startsWith_append "instruction-feature." feature
    rw [same, startsWith_append_of_clash (by decide)] at begins
    cases begins
  have identity : ∀ lead rest : String, startsWith "processor-identity" lead = false →
      lead ++ rest ≠ "processor-identity" := by
    intro lead rest other same
    rw [← same, startsWith_append] at other
    cases other
  intro first second same
  cases first with
  | instructionFeature feature =>
      cases second with
      | instructionFeature other =>
          exact congrArg _ (String.append_right_inj _ |>.mp same)
      | osEnabledState state => exact absurd same (apart feature state)
      | processorIdentity => exact absurd same (identity _ _ (by decide))
  | osEnabledState state =>
      cases second with
      | instructionFeature feature => exact absurd same.symm (apart feature state)
      | osEnabledState other =>
          exact congrArg _ (String.append_right_inj _ |>.mp same)
      | processorIdentity => exact absurd same (identity _ _ (by decide))
  | processorIdentity =>
      cases second with
      | instructionFeature feature => exact absurd same.symm (identity _ _ (by decide))
      | osEnabledState state => exact absurd same.symm (identity _ _ (by decide))
      | processorIdentity => rfl

/-! ## The order of the constraints -/

theorem mem_constraints : constraint ∈ constraints requirement ↔
    constraint.presentIn requirement = true := by
  rw [constraints]
  cases constraint with
  | instructionFeature feature =>
      simp [ProcessorConstraint.presentIn, List.mem_insertionSort]
  | osEnabledState state => simp [ProcessorConstraint.presentIn]
  | processorIdentity =>
      simp only [ProcessorConstraint.presentIn, List.mem_append, List.mem_map]
      split_ifs with present <;> simp [present]

/-- No constraint is visited twice, and no feature behind a state. -/
def VisitedBefore (first second : ProcessorConstraint) : Prop :=
  first ≠ second ∧ ¬ TakesAlong second first

theorem constraints_pairwise (valid : requirement.Valid) :
    (constraints requirement).Pairwise VisitedBefore := by
  have featuresNodup : requirement.instructionFeatures.Nodup :=
    valid.featuresSorted.imp fun less => ne_of_lt less
  have statesNodup : requirement.osEnabledStates.Nodup :=
    valid.statesSorted.imp fun less => ne_of_lt less
  rw [constraints, List.pairwise_append, List.pairwise_append, List.pairwise_map,
    List.pairwise_map]
  refine ⟨?_, ⟨?_, ?_, ?_⟩, ?_⟩
  · refine ((List.perm_insertionSort _ _).nodup_iff.mpr featuresNodup).imp ?_
    intro first second different
    exact ⟨fun same => different (by injection same), id⟩
  · refine statesNodup.imp ?_
    intro first second different
    exact ⟨fun same => different (by injection same), id⟩
  · split_ifs
    · exact List.pairwise_singleton _ _
    · exact .nil
  · intro first member second later
    obtain ⟨state, -, rfl⟩ := List.mem_map.mp member
    split_ifs at later
    · obtain rfl := List.mem_singleton.mp later
      exact ⟨nofun, id⟩
    · cases later
  · intro first member second later
    obtain ⟨feature, -, rfl⟩ := List.mem_map.mp member
    rcases List.mem_append.mp later with state | identity
    · obtain ⟨state, -, rfl⟩ := List.mem_map.mp state
      exact ⟨nofun, id⟩
    · split_ifs at identity
      · obtain rfl := List.mem_singleton.mp identity
        exact ⟨nofun, id⟩
      · cases identity

/-! ## Limits -/

/-- The trial stayed within its limits. -/
structure WithinLimits (result : ProcessorTrialResult) (limits : ProcessorTrialLimits) : Prop where
  inTime : result.timedOut = false
  stable : result.unstable = false
  cpu : result.cpuMilliseconds ≤ limits.cpuMilliseconds.toUInt64
  elapsed : result.elapsedMilliseconds ≤ limits.elapsedMilliseconds.toUInt64
  output : result.outputBytes ≤ limits.outputBytes.toUInt64

theorem terminalReason_eq_none {result : ProcessorTrialResult} {limits : ProcessorTrialLimits}
    (ended : result.terminalReason limits = .ok none) : WithinLimits result limits := by
  unfold ProcessorTrialResult.terminalReason at ended
  split_ifs at ended with both timedOut unstable cpu elapsed output
  · cases ended
  · cases ended
  · cases ended
  · cases ended
  · cases ended
  · exact ⟨by simpa using timedOut, by simpa using unstable, UInt64.not_lt.mp cpu,
      UInt64.not_lt.mp elapsed, UInt64.not_lt.mp output⟩

theorem terminalReason_ne_complete {result : ProcessorTrialResult}
    {limits : ProcessorTrialLimits} {reason : ProcessorReductionTerminalReason}
    (ended : result.terminalReason limits = .ok (some reason)) : reason ≠ .complete := by
  unfold ProcessorTrialResult.terminalReason at ended
  split_ifs at ended <;> cases ended <;> nofun

theorem aggregateLimitReason_ne_complete {policy : ProcessorReductionPolicy}
    {used : ProcessorUsage} {reason : ProcessorReductionTerminalReason}
    (ended : aggregateLimitReason policy used = some reason) : reason ≠ .complete := by
  unfold aggregateLimitReason at ended
  split_ifs at ended <;> cases ended <;> nofun

theorem exhaustedReason_ne_complete (policy : ProcessorReductionPolicy) (used : ProcessorUsage) :
    exhaustedReason policy used ≠ .complete := by
  unfold exhaustedReason
  cases ended : aggregateLimitReason policy used with
  | none => nofun
  | some reason => exact aggregateLimitReason_ne_complete ended

/-- The limits of a trial are at most those of the policy. -/
structure LimitsWithin (limits bound : ProcessorTrialLimits) : Prop where
  cpu : limits.cpuMilliseconds ≤ bound.cpuMilliseconds
  elapsed : limits.elapsedMilliseconds ≤ bound.elapsedMilliseconds
  memory : limits.memoryBytes = bound.memoryBytes
  output : limits.outputBytes ≤ bound.outputBytes

theorem remaining_le {total used : UInt64} {limit rest : UInt32}
    (left : Backend.remaining total used limit = some rest) : rest ≤ limit := by
  unfold Backend.remaining at left
  dsimp only at left
  split_ifs at left with exceeded nothing
  obtain rfl := Option.some.inj left
  have below : (min (total - used) limit.toUInt64).toNat ≤ limit.toNat := by
    change (if total - used ≤ limit.toUInt64 then total - used else limit.toUInt64).toNat ≤ _
    split_ifs with less
    · simpa using UInt64.le_iff_toNat_le.mp less
    · simp
  rw [UInt32.le_iff_toNat_le, UInt64.toNat_toUInt32]
  exact (Nat.mod_le _ _).trans below

theorem remainingTrialLimits_within {policy : ProcessorReductionPolicy} {used : ProcessorUsage}
    {limits : ProcessorTrialLimits} (left : remainingTrialLimits policy used = some limits) :
    LimitsWithin limits policy.trialLimits := by
  simp only [remainingTrialLimits, Option.bind_eq_bind, Option.bind_eq_some_iff, Option.pure_def,
    Option.some.injEq] at left
  obtain ⟨cpu, cpuLeft, elapsed, elapsedLeft, output, outputLeft, rfl⟩ := left
  exact ⟨remaining_le cpuLeft, remaining_le elapsedLeft, rfl, remaining_le outputLeft⟩

end Reproit
