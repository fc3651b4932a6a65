/-
# Soundness of a reduction

Every visit keeps what the trials so far say about the requirement that is left: what is
missing was removed by a trial or went with a removed feature, what was retained is still
there, and nothing that is left needs what was removed.
-/

import Reproit.Processor.Sample

namespace Reproit

open Backend

/-! ## What is left of a requirement -/

/-- A requirement is a part of another one. -/
structure PartOf (whole part : ProcessorRequirement) : Prop where
  abi : part.abi = whole.abi
  architecture : part.architecture = whole.architecture
  features : part.instructionFeatures.Sublist whole.instructionFeatures
  states : part.osEnabledStates.Sublist whole.osEnabledStates
  identity : part.identity = whole.identity ∨ part.identity = none

namespace PartOf

variable {whole part : ProcessorRequirement}

theorem refl (whole : ProcessorRequirement) : PartOf whole whole :=
  ⟨rfl, rfl, .refl _, .refl _, .inl rfl⟩

theorem removeFrom (within : PartOf whole part) (constraint : ProcessorConstraint) :
    PartOf whole (constraint.removeFrom part) where
  abi := removeFrom_fixed.1.trans within.abi
  architecture := removeFrom_fixed.2.trans within.architecture
  features := removeFrom_features_sublist.trans within.features
  states := removeFrom_states_sublist.trans within.states
  identity := by
    rcases @removeFrom_identity part constraint with same | none
    · rw [same]
      exact within.identity
    · exact .inr none

/-- A part of a valid requirement is valid. -/
theorem valid (within : PartOf whole part) (valid : whole.Valid) : part.Valid where
  abi := within.abi ▸ valid.abi
  featuresLength := within.features.length_le.trans valid.featuresLength
  statesLength := within.states.length_le.trans valid.statesLength
  feature := fun feature member => valid.feature feature (within.features.subset member)
  state := fun state member => valid.state state (within.states.subset member)
  featuresSorted := valid.featuresSorted.sublist within.features
  statesSorted := valid.statesSorted.sublist within.states
  identity := by
    rw [within.architecture]
    rcases within.identity with same | none
    · rw [same]
      exact valid.identity
    · rw [none]
      nofun

end PartOf

/-! ## What was removed -/

variable {constraint : ProcessorConstraint} {trial : ProcessorReductionTrial}

/-- A trial removed the constraint. -/
def RemovedBy (trials : List ProcessorReductionTrial) (constraint : ProcessorConstraint) : Prop :=
  ∃ trial ∈ trials, trial.decision = .removed ∧ trial.testedConstraint = constraint.label

/-- The constraint went with a removed feature. -/
def Cascaded (trials : List ProcessorReductionTrial) (constraint : ProcessorConstraint) : Prop :=
  ∃ feature, RemovedBy trials feature ∧ TakesAlong feature constraint

theorem removedBy_append {trials : List ProcessorReductionTrial} :
    RemovedBy (trials ++ [trial]) constraint ↔ RemovedBy trials constraint ∨
      trial.decision = .removed ∧ trial.testedConstraint = constraint.label := by
  simp only [RemovedBy, List.mem_append, List.mem_singleton, or_and_right, exists_or,
    exists_eq_left]

theorem cascaded_append {trials : List ProcessorReductionTrial} :
    Cascaded (trials ++ [trial]) constraint ↔ Cascaded trials constraint ∨
      trial.decision = .removed ∧
        ∃ feature, trial.testedConstraint = feature.label ∧ TakesAlong feature constraint := by
  simp only [Cascaded, removedBy_append, or_and_right, exists_or, and_assoc, exists_and_left]

variable [Primitives] {policy : ProcessorReductionPolicy} {executor : ProcessorTrialExecutor}
  {requirement : ProcessorRequirement} {visited : List ProcessorConstraint} {position : Nat}
  {before after : ReductionState} {flow : Flow ReductionState}

/-! ## One visit -/

/-- The trial ran without the constraint and reproduced the target within its limits, which
are at most those of the policy. -/
def ReproducedWithout (policy : ProcessorReductionPolicy) (executor : ProcessorTrialExecutor)
    (position : Nat) (candidate : ProcessorRequirement) (trial : ProcessorReductionTrial) :
    Prop :=
  ∃ limits result, LimitsWithin limits policy.trialLimits ∧
    executor.executeTrial position candidate limits = .ok result ∧ WithinLimits result limits ∧
      result.executionResult = .targetReproduced ∧
        trial.executionResult = .targetReproduced

/-- The decision of a trial and the requirement after it. -/
inductive Decided (policy : ProcessorReductionPolicy) (executor : ProcessorTrialExecutor)
    (position : Nat) (constraint : ProcessorConstraint) (before : ProcessorRequirement)
    (trial : ProcessorReductionTrial) : ProcessorRequirement → Prop
  | removed (decision : trial.decision = .removed)
      (digest : trial.candidateRequirementDigest =
        Digest.of (Canonical.text (constraint.removeFrom before)))
      (reproduced : ReproducedWithout policy executor position (constraint.removeFrom before) trial) :
      Decided policy executor position constraint before trial (constraint.removeFrom before)
  | retained (decision : trial.decision = .retained) :
      Decided policy executor position constraint before trial before

/-- A constraint was tested by one more trial. -/
structure Tested (policy : ProcessorReductionPolicy) (executor : ProcessorTrialExecutor)
    (position : Nat) (constraint : ProcessorConstraint) (before after : ReductionState)
    (trial : ProcessorReductionTrial) : Prop where
  present : constraint.presentIn before.reduced = true
  free : dependencyBlocked before.reduced constraint = false
  room : before.trials.length < policy.maximumTrials.toNat
  label : trial.testedConstraint = constraint.label
  trials : after.trials = before.trials ++ [trial]
  decided : Decided policy executor position constraint before.reduced trial after.reduced

/-- All that a visit can do. -/
inductive Visits (policy : ProcessorReductionPolicy) (executor : ProcessorTrialExecutor)
    (position : Nat) (constraint : ProcessorConstraint) (before : ReductionState) :
    Flow ReductionState → Prop
  | missing (gone : constraint.presentIn before.reduced = false) :
      Visits policy executor position constraint before (.next before)
  | uncontrollable :
      Visits policy executor position constraint before
        (.next { before with terminalReason := .uncontrollable })
  | exhausted (reason : ProcessorReductionTerminalReason) (ended : reason ≠ .complete) :
      Visits policy executor position constraint before
        (.stop { before with terminalReason := reason })
  | tested (after : ReductionState) (trial : ProcessorReductionTrial)
      (test : Tested policy executor position constraint before after trial)
      (reason : after.terminalReason = before.terminalReason) :
      Visits policy executor position constraint before (.next after)
  | testedLast (after : ReductionState) (trial : ProcessorReductionTrial)
      (test : Tested policy executor position constraint before after trial)
      (ended : after.terminalReason ≠ .complete) :
      Visits policy executor position constraint before (.stop after)

/-- A trial that ran was decided by its result. -/
theorem runTrial_visits {limits : ProcessorTrialLimits}
    (present : constraint.presentIn before.reduced = true)
    (free : dependencyBlocked before.reduced constraint = false)
    (room : before.trials.length < policy.maximumTrials.toNat)
    (within : LimitsWithin limits policy.trialLimits)
    (ran : runTrial policy executor position constraint limits before = .ok flow) :
    Visits policy executor position constraint before flow := by
  simp only [runTrial, bind_eq_ok, okOr_eq_ok, ProcessorRequirement.digest,
    Except.ok.injEq] at ran
  obtain ⟨_, -, result, executed, reason, ended, digest, rfl, index, -, ran⟩ := ran
  generalize usage : ProcessorUsage.mk _ _ _ = used at ran
  generalize made : ProcessorReductionTrial.mk _ _ _ _ _ _ = trial at ran
  generalize reached : ReductionState.mk _ _ _ _ = after at ran
  have test : Tested policy executor position constraint before after trial := by
    refine ⟨present, free, room, by rw [← made], by rw [← reached], ?_⟩
    by_cases removed : reason = none ∧ result.executionResult = .targetReproduced
    · obtain ⟨none, reproduced⟩ := removed
      subst none
      have kept : after.reduced = constraint.removeFrom before.reduced := by
        rw [← reached]
        exact if_pos ⟨rfl, reproduced⟩
      rw [kept]
      refine .removed ?_ (by rw [← made]) ?_
      · rw [← made]
        exact if_pos ⟨rfl, reproduced⟩
      · refine ⟨limits, result, within, executed, terminalReason_eq_none ended, reproduced, ?_⟩
        rw [← made]
        exact reproduced
    · have kept : after.reduced = before.reduced := by
        rw [← reached]
        exact if_neg removed
      rw [kept]
      apply Decided.retained
      rw [← made]
      exact if_neg removed
  split at ran
  next last ends =>
    obtain rfl := (Except.ok.inj ran).symm
    subst after
    refine Visits.testedLast _ trial
      ⟨test.present, test.free, test.room, test.label, test.trials, test.decided⟩ ?_
    cases reason with
    | none => exact aggregateLimitReason_ne_complete ends
    | some reason =>
        obtain rfl := Option.some.inj ends
        exact terminalReason_ne_complete ended
  next =>
    obtain rfl := (Except.ok.inj ran).symm
    subst after
    exact Visits.tested _ trial test rfl

theorem visitConstraint_visits
    (visit : visitConstraint policy executor position constraint before = .ok flow) :
    Visits policy executor position constraint before flow := by
  rw [visitConstraint] at visit
  split_ifs at visit with present full skipped
  · obtain rfl := (Except.ok.inj visit).symm
    exact .exhausted .trialLimit (by decide)
  · obtain rfl := (Except.ok.inj visit).symm
    exact .uncontrollable
  · split at visit
    next =>
      obtain rfl := (Except.ok.inj visit).symm
      exact .exhausted _ (exhaustedReason_ne_complete policy before.used)
    next limits left =>
      push Not at full skipped
      exact runTrial_visits present (by simpa using skipped.1) full
        (remainingTrialLimits_within left) visit
  · obtain rfl := (Except.ok.inj visit).symm
    exact .missing (by simpa using present)

/-! ## The invariant of the loop -/

/-- What the trials of a requirement say about what is left of it. -/
structure ReductionInvariant (policy : ProcessorReductionPolicy)
    (executor : ProcessorTrialExecutor) (requirement : ProcessorRequirement)
    (visited : List ProcessorConstraint) (state : ReductionState) : Prop where
  part : PartOf requirement state.reduced
  length_le : state.trials.length ≤ policy.maximumTrials.toNat
  labels : (state.trials.map ProcessorReductionTrial.testedConstraint).Sublist
    (visited.map ProcessorConstraint.label)
  missing : ∀ constraint, constraint.presentIn requirement = true →
    (constraint.presentIn state.reduced = false ↔
      RemovedBy state.trials constraint ∨ Cascaded state.trials constraint)
  reproduced : ∀ trial ∈ state.trials, trial.decision = .removed →
    ∃ position candidate, ∃ constraint : ProcessorConstraint,
      visited[position]? = some constraint ∧ trial.testedConstraint = constraint.label ∧
        PartOf requirement candidate ∧ constraint.presentIn candidate = false ∧
          ReproducedWithout policy executor position candidate trial ∧
            trial.candidateRequirementDigest = Digest.of (Canonical.text candidate)
  retained : ∀ trial ∈ state.trials, trial.decision = .retained →
    ∀ constraint : ProcessorConstraint, trial.testedConstraint = constraint.label →
      constraint.presentIn state.reduced = true
  last : ∀ trial, (state.trials.filter fun trial => trial.decision = .removed).getLast? =
    some trial → trial.candidateRequirementDigest = Digest.of (Canonical.text state.reduced)
  closed : ∀ feature, RemovedBy state.trials (.instructionFeature feature) →
    ∀ other ∈ state.reduced.instructionFeatures, ¬ Relation.TransGen Needs other feature

/-- Every visited constraint was tested or went with a feature, unless some could not be
controlled. -/
def AllTested (visited : List ProcessorConstraint) (state : ReductionState) : Prop :=
  state.terminalReason = .complete → ∀ constraint ∈ visited,
    (∃ trial ∈ state.trials, trial.testedConstraint = constraint.label) ∨
      Cascaded state.trials constraint

namespace ReductionInvariant

theorem start (requirement : ProcessorRequirement) :
    ReductionInvariant policy executor requirement []
      { reduced := requirement, trials := [], terminalReason := .complete, used := ⟨0, 0, 0⟩ } where
  part := .refl requirement
  length_le := Nat.zero_le _
  labels := .refl _
  missing := fun constraint present => by simp [present, RemovedBy, Cascaded]
  reproduced := nofun
  retained := nofun
  last := nofun
  closed := nofun

/-- The reason why a loop ends is free. -/
theorem congr (sound : ReductionInvariant policy executor requirement visited before)
    (reduced : after.reduced = before.reduced) (trials : after.trials = before.trials) :
    ReductionInvariant policy executor requirement visited after := by
  obtain ⟨part, length_le, labels, missing, reproduced, retained, last, closed⟩ := sound
  rw [← trials] at length_le labels missing reproduced retained last closed
  rw [← reduced] at part missing retained last closed
  exact ⟨part, length_le, labels, missing, reproduced, retained, last, closed⟩

theorem skip (sound : ReductionInvariant policy executor requirement visited before)
    (others : List ProcessorConstraint) :
    ReductionInvariant policy executor requirement (visited ++ others) before where
  part := sound.part
  length_le := sound.length_le
  labels := by
    rw [List.map_append]
    exact sound.labels.trans (List.sublist_append_left _ _)
  missing := sound.missing
  reproduced := by
    intro trial member removed
    obtain ⟨position, candidate, tested, found, rest⟩ := sound.reproduced trial member removed
    refine ⟨position, candidate, tested, ?_, rest⟩
    rw [List.getElem?_append_left (List.getElem?_eq_some_iff.mp found).1]
    exact found
  retained := sound.retained
  last := sound.last
  closed := sound.closed

/-- A trial that retains its constraint is one more entry. -/
theorem retain (sound : ReductionInvariant policy executor requirement visited before)
    (test : Tested policy executor visited.length constraint before after trial)
    (decision : trial.decision = .retained) (same : after.reduced = before.reduced) :
    ReductionInvariant policy executor requirement (visited ++ [constraint]) after := by
  have kept : ∀ {other}, RemovedBy after.trials other ↔ RemovedBy before.trials other := by
    intro other
    rw [test.trials, removedBy_append, decision]
    simp
  have cascaded : ∀ {other}, Cascaded after.trials other ↔ Cascaded before.trials other := by
    intro other
    simp only [Cascaded, kept]
  have skipped := sound.skip [constraint]
  refine ⟨same ▸ sound.part, ?_, ?_, ?_, ?_, ?_, ?_, ?_⟩
  · rw [test.trials, List.length_append]
    exact test.room
  · rw [test.trials, List.map_append, List.map_append, List.map_singleton, test.label]
    exact sound.labels.append_right _
  · intro other present
    rw [same, kept, cascaded]
    exact sound.missing other present
  · intro entry member removed
    rw [test.trials, List.mem_append, List.mem_singleton] at member
    rcases member with earlier | rfl
    · exact skipped.reproduced entry earlier removed
    · rw [decision] at removed
      cases removed
  · intro entry member retained other label
    rw [test.trials, List.mem_append, List.mem_singleton] at member
    rw [same]
    rcases member with earlier | rfl
    · exact sound.retained entry earlier retained other label
    · obtain rfl : constraint = other := label_injective (test.label.symm.trans label)
      exact test.present
  · intro entry last
    rw [test.trials, List.filter_append, List.filter_singleton, decision] at last
    rw [same]
    exact sound.last entry (by simpa using last)
  · intro feature removed
    rw [same]
    exact sound.closed feature (kept.mp removed)

/-- A trial that removes its constraint takes nothing away that was tested before. -/
theorem remove (sound : ReductionInvariant policy executor requirement visited before)
    (test : Tested policy executor visited.length constraint before after trial)
    (order : ∀ earlier ∈ visited, VisitedBefore earlier constraint)
    (decision : trial.decision = .removed)
    (digest : trial.candidateRequirementDigest =
      Digest.of (Canonical.text (constraint.removeFrom before.reduced)))
    (reproduced : ReproducedWithout policy executor visited.length
      (constraint.removeFrom before.reduced) trial)
    (left : after.reduced = constraint.removeFrom before.reduced) :
    ReductionInvariant policy executor requirement (visited ++ [constraint]) after := by
  have part : PartOf requirement after.reduced := left ▸ sound.part.removeFrom constraint
  have removed : ∀ {other}, RemovedBy after.trials other ↔
      RemovedBy before.trials other ∨ other = constraint := by
    intro other
    rw [test.trials, removedBy_append, test.label, label_injective.eq_iff, @eq_comm _ constraint]
    simp [decision]
  have cascaded : ∀ {other}, Cascaded after.trials other ↔
      Cascaded before.trials other ∨ TakesAlong constraint other := by
    intro other
    simp only [Cascaded, removed, or_and_right, exists_or, exists_eq_left]
  have skipped := sound.skip [constraint]
  refine ⟨part, ?_, ?_, ?_, ?_, ?_, ?_, ?_⟩
  · rw [test.trials, List.length_append]
    exact test.room
  · rw [test.trials, List.map_append, List.map_append, List.map_singleton, test.label]
    exact sound.labels.append_right _
  · intro other present
    have before := sound.missing other present
    rw [← Bool.not_eq_true] at before ⊢
    rw [left, presentIn_removeFrom, removed, cascaded]
    tauto
  · intro entry member dropped
    rw [test.trials, List.mem_append, List.mem_singleton] at member
    rcases member with earlier | rfl
    · exact skipped.reproduced entry earlier dropped
    · refine ⟨visited.length, constraint.removeFrom before.reduced, constraint, by simp,
        test.label, sound.part.removeFrom constraint, ?_, reproduced, digest⟩
      rw [← Bool.not_eq_true, presentIn_removeFrom]
      exact fun absent => absent.2.1 rfl
  · intro entry member retained other label
    rw [test.trials, List.mem_append, List.mem_singleton] at member
    rcases member with earlier | rfl
    · -- what was tested before is another constraint, and no state of this feature
      have listed := sound.labels.subset
        (List.mem_map_of_mem (f := ProcessorReductionTrial.testedConstraint) earlier)
      obtain ⟨first, visitedFirst, same⟩ := List.mem_map.mp listed
      obtain rfl : first = other := label_injective (same.trans label)
      rw [left, presentIn_removeFrom]
      exact ⟨sound.retained entry earlier retained first label, order first visitedFirst⟩
    · rw [decision] at retained
      cases retained
  · intro entry last
    rw [test.trials, List.filter_append, List.filter_singleton, decision] at last
    obtain rfl : trial = entry := by simpa using last
    rw [left]
    exact digest
  · intro feature gone other member needs
    rw [left] at member
    rcases removed.mp gone with earlier | rfl
    · exact sound.closed feature earlier other (removeFrom_features_sublist.subset member) needs
    · obtain ⟨listed, different⟩ := List.mem_filter.mp member
      have free := List.any_eq_false.mp test.free other listed
      rw [featureRequires_iff.mpr needs, Bool.and_true] at free
      exact free different

end ReductionInvariant

theorem Visits.sound {flow : Flow ReductionState}
    (visits : Visits policy executor visited.length constraint before flow)
    (sound : ReductionInvariant policy executor requirement visited before)
    (order : ∀ earlier ∈ visited, VisitedBefore earlier constraint) :
    ReductionInvariant policy executor requirement (visited ++ [constraint]) flow.state := by
  have decided : ∀ {after trial},
      Tested policy executor visited.length constraint before after trial →
        ReductionInvariant policy executor requirement (visited ++ [constraint]) after := by
    intro after trial test
    have decided := test.decided
    generalize left : after.reduced = reduced at decided
    cases decided with
    | removed decision digest reproduced =>
        exact sound.remove test order decision digest reproduced left
    | retained decision => exact sound.retain test decision left
  cases visits with
  | missing gone => exact sound.skip _
  | uncontrollable => exact (sound.skip _).congr rfl rfl
  | exhausted reason ended => exact (sound.skip _).congr rfl rfl
  | tested after trial test reason => exact decided test
  | testedLast after trial test ended => exact decided test

/-- A visit that goes on tests its constraint, or leaves the reduction incomplete. -/
theorem Visits.allTested
    (visits : Visits policy executor visited.length constraint before (.next after))
    (sound : ReductionInvariant policy executor requirement visited before)
    (present : constraint.presentIn requirement = true) (all : AllTested visited before) :
    AllTested (visited ++ [constraint]) after := by
  intro complete other member
  rw [List.mem_append, List.mem_singleton] at member
  cases visits with
  | missing gone =>
      rcases member with earlier | rfl
      · exact all complete other earlier
      · rcases (sound.missing other present).mp gone with ⟨trial, listed, -, label⟩ | cascaded
        · exact .inl ⟨trial, listed, label⟩
        · exact .inr cascaded
  | uncontrollable => cases complete
  | tested _ trial test reason =>
      rw [test.trials]
      rcases member with earlier | rfl
      · rcases all (reason ▸ complete) other earlier with ⟨trial, listed, label⟩ | cascaded
        · exact .inl ⟨trial, List.mem_append_left _ listed, label⟩
        · exact .inr (cascaded_append.mpr (.inl cascaded))
      · exact .inl ⟨trial, List.mem_append_right _ List.mem_cons_self, test.label⟩

/-- The invariant at the end of the loop. -/
theorem runLoop_sound {final : ReductionState} (valid : requirement.Valid)
    (ran : runLoop (visitConstraint policy executor) 0 (constraints requirement)
      { reduced := requirement, trials := [], terminalReason := .complete, used := ⟨0, 0, 0⟩ } =
        .ok final) :
    ReductionInvariant policy executor requirement (constraints requirement) final ∧
      AllTested (constraints requirement) final := by
  have order : ∀ {visited item rest}, constraints requirement = visited ++ item :: rest →
      ∀ earlier ∈ visited, VisitedBefore earlier item := by
    intro visited item rest split earlier member
    have pairs := constraints_pairwise valid
    rw [split, List.pairwise_append] at pairs
    exact pairs.2.2 earlier member item List.mem_cons_self
  have preserved : ∀ visited item rest before after,
      constraints requirement = visited ++ item :: rest →
        ReductionInvariant policy executor requirement visited before ∧
          AllTested visited before →
            visitConstraint policy executor visited.length item before = .ok (.next after) →
              ReductionInvariant policy executor requirement (visited ++ [item]) after ∧
                AllTested (visited ++ [item]) after := by
    intro visited item rest before after split holds visit
    have visits := visitConstraint_visits visit
    have present : item.presentIn requirement = true := by
      rw [← mem_constraints, split]
      exact List.mem_append_right _ List.mem_cons_self
    exact ⟨visits.sound holds.1 (order split), visits.allTested holds.1 present holds.2⟩
  rcases runLoop_invariant ran ⟨.start requirement, nofun⟩ preserved with
    done | ⟨visited, item, rest, before, split, holds, stopped⟩
  · exact done
  · have visits := visitConstraint_visits stopped
    have sound := (visits.sound holds.1 (order split)).skip rest
    rw [List.append_assoc, List.singleton_append, ← split] at sound
    refine ⟨sound, fun complete => absurd complete ?_⟩
    cases visits with
    | exhausted reason ended => exact ended
    | testedLast after trial test ended => exact ended

/-! ## The result -/

/-- What a reduction guarantees. -/
structure SoundReduction (policy : ProcessorReductionPolicy) (executor : ProcessorTrialExecutor)
    (requirement : ProcessorRequirement) (result : ProcessorReductionResult) : Prop where
  valid : result.requirement.validate = .ok ()
  part : PartOf requirement result.requirement
  receiptValid : result.receipt.validate = .ok ()
  length_le : result.receipt.trials.length ≤ policy.maximumTrials.toNat
  testedOnce : (result.receipt.trials.map ProcessorReductionTrial.testedConstraint).Nodup
  tested : ∀ trial ∈ result.receipt.trials, ∃ constraint : ProcessorConstraint,
    constraint.presentIn requirement = true ∧ trial.testedConstraint = constraint.label
  missing : ∀ constraint, constraint.presentIn requirement = true →
    (constraint.presentIn result.requirement = false ↔
      RemovedBy result.receipt.trials constraint ∨ Cascaded result.receipt.trials constraint)
  reproduced : ∀ trial ∈ result.receipt.trials, trial.decision = .removed →
    ∃ position candidate, ∃ constraint : ProcessorConstraint,
      (constraints requirement)[position]? = some constraint ∧
        trial.testedConstraint = constraint.label ∧ PartOf requirement candidate ∧
          constraint.presentIn candidate = false ∧
            ReproducedWithout policy executor position candidate trial ∧
              trial.candidateRequirementDigest = Digest.of (Canonical.text candidate)
  retained : ∀ trial ∈ result.receipt.trials, trial.decision = .retained →
    ∀ constraint : ProcessorConstraint, trial.testedConstraint = constraint.label →
      constraint.presentIn result.requirement = true
  last : ∀ trial, (result.receipt.trials.filter fun trial => trial.decision = .removed).getLast? =
    some trial → trial.candidateRequirementDigest = result.receipt.finalRequirementDigest
  final : result.receipt.finalRequirementDigest = Digest.of (Canonical.text result.requirement)
  closed : ∀ feature, RemovedBy result.receipt.trials (.instructionFeature feature) →
    ∀ other ∈ result.requirement.instructionFeatures, ¬ Relation.TransGen Needs other feature
  complete : result.receipt.terminalReason = .complete → ∀ constraint : ProcessorConstraint,
    constraint.presentIn requirement = true →
      (∃ trial ∈ result.receipt.trials, trial.testedConstraint = constraint.label) ∨
        Cascaded result.receipt.trials constraint

/-- The result of a reduction is the last state of its loop. -/
theorem reduceProcessorRequirements_eq_ok {observation : ProcessorObservation}
    {result : ProcessorReductionResult}
    (reduced : reduceProcessorRequirements policy executor observation requirement = .ok result) :
    requirement.Valid ∧ result.receipt.validate = .ok () ∧
      result.receipt.finalRequirementDigest = Digest.of (Canonical.text result.requirement) ∧
        ∃ final : ReductionState, final.reduced = result.requirement ∧
          final.trials = result.receipt.trials ∧
            final.terminalReason = result.receipt.terminalReason ∧
              ReductionInvariant policy executor requirement (constraints requirement) final ∧
                AllTested (constraints requirement) final := by
  simp only [reduceProcessorRequirements, bind_eq_ok, ProcessorObservation.digest,
    ProcessorRequirement.digest, Except.ok.injEq, pure_eq_ok] at reduced
  obtain ⟨_, -, _, valid, _, -, _, -, _, rfl, final, ran, _, rfl, _, receipt, rfl⟩ := reduced
  have valid := ProcessorRequirement.validate_eq_ok.mp valid
  exact ⟨valid, receipt, rfl, final, rfl, rfl, rfl, runLoop_sound valid ran⟩

/-- A reduction removes what its trials reproduced the target without, and nothing else. -/
theorem reduceProcessorRequirements_sound (policy : ProcessorReductionPolicy)
    (executor : ProcessorTrialExecutor) (observation : ProcessorObservation)
    (requirement : ProcessorRequirement) (result : ProcessorReductionResult)
    (reduced : reduceProcessorRequirements policy executor observation requirement = .ok result) :
    SoundReduction policy executor requirement result := by
  obtain ⟨valid, receipt, digest, final, left, trials, reason, sound, allTested⟩ :=
    reduceProcessorRequirements_eq_ok reduced
  have nodup : ((constraints requirement).map ProcessorConstraint.label).Nodup := by
    apply List.Nodup.map label_injective
    exact (constraints_pairwise valid).imp And.left
  have last := sound.last
  rw [left, trials, ← digest] at last
  exact {
    valid := ProcessorRequirement.validate_eq_ok.mpr (left ▸ sound.part.valid valid)
    part := left ▸ sound.part
    receiptValid := receipt
    length_le := trials ▸ sound.length_le
    testedOnce := trials ▸ nodup.sublist sound.labels
    tested := by
      rw [← trials]
      intro trial member
      have listed := sound.labels.subset
        (List.mem_map_of_mem (f := ProcessorReductionTrial.testedConstraint) member)
      obtain ⟨constraint, visited, same⟩ := List.mem_map.mp listed
      exact ⟨constraint, mem_constraints.mp visited, same.symm⟩
    missing := trials ▸ left ▸ sound.missing
    reproduced := trials ▸ sound.reproduced
    retained := trials ▸ left ▸ sound.retained
    last := last
    final := digest
    closed := trials ▸ left ▸ sound.closed
    complete := by
      rw [← trials, ← reason]
      exact fun complete constraint present =>
        allTested complete constraint (mem_constraints.mpr present) }

omit [Primitives] in
theorem reduceProcessorRequirements_sound_feature :
    letI := Sample.marked
    SoundReduction Sample.reductionPolicy Sample.trialExecutor Sample.requirement
      { receipt := Sample.receipt, requirement := Sample.reduced } :=
  @reduceProcessorRequirements_sound Sample.marked _ _ Sample.observation _ _
    (@Sample.reduces Sample.marked)

end Reproit
