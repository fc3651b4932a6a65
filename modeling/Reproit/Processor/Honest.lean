/-
# Honest reductions

A requirement that was read from captured capabilities spells its names plainly, so what
a reduction leaves of it, bound into the capsule, passes the check of the Runtime.
-/

import Reproit.Core.IdentityToken
import Reproit.Processor.Rebinding
import Reproit.Processor.Transition

namespace Reproit

open Backend

/-! ## Captured requirements -/

/-- The names of a requirement are those of capabilities. -/
structure PlainRequirement (requirement : ProcessorRequirement) : Prop where
  feature : ∀ feature ∈ requirement.instructionFeatures,
    restoreName (normalizeName feature) = feature
  state : ∀ state ∈ requirement.osEnabledStates, normalizeName state = state
  identity : ∀ identity ∈ requirement.identity, Suffix .identity (encodeIdentityToken identity)

/-- What an observation of captured capabilities lists. -/
structure ObservedIn (capabilities : List String) (observation : ProcessorObservation) : Prop where
  feature : ∀ feature ∈ observation.instructionFeatures, ∃ suffix,
    CapabilityKind.feature.lead ++ suffix ∈ capabilities ∧ restoreName suffix = feature
  state : ∀ state ∈ observation.osEnabledStates,
    CapabilityKind.osState.lead ++ state ∈ capabilities
  identity : ∀ identity ∈ observation.identity, ∃ token,
    CapabilityKind.identity.lead ++ token ∈ capabilities ∧
      decodeIdentityToken token = some identity

/-- The suffixes of the capabilities of one kind. -/
theorem mem_filterMap_stripStart {capabilities : List String} {lead suffix : String} :
    suffix ∈ capabilities.filterMap (fun capability => stripStart capability lead) ↔
      lead ++ suffix ∈ capabilities := by
  rw [List.mem_filterMap]
  constructor
  · rintro ⟨capability, member, found⟩
    rw [← stripStart_eq_some.mp found]
    exact member
  · intro member
    exact ⟨_, member, stripStart_append _ _⟩

theorem capturedIdentity_eq_some {architecture : ProcessorArchitecture} {tokens : List String}
    {identity : ProcessorIdentity}
    (read : capturedIdentity architecture tokens = .ok (some identity)) :
    ∃ token, tokens = [token] ∧ decodeIdentityToken token = some identity := by
  match tokens with
  | [] => cases read
  | _ :: _ :: _ => cases read
  | [token] =>
      simp only [capturedIdentity, bind_eq_ok, okOr_eq_ok] at read
      obtain ⟨decoded, found, fits⟩ := read
      refine ⟨token, rfl, ?_⟩
      cases decoded <;> cases architecture <;> cases fits <;> exact found

theorem observedIn_of_captured {architecture : ProcessorArchitecture} {capabilities : List String}
    {observation : ProcessorObservation}
    (observed : observationFromCapturedCapabilities architecture capabilities = .ok observation) :
    ObservedIn capabilities observation := by
  simp only [observationFromCapturedCapabilities, bind_eq_ok, pure_eq_ok] at observed
  obtain ⟨identity, read, _, -, rfl⟩ := observed
  refine ⟨?_, ?_, ?_⟩
  · intro feature member
    obtain ⟨suffix, listed, same⟩ := List.mem_map.mp (mem_sortDedup.mp member)
    exact ⟨suffix, mem_filterMap_stripStart.mp listed, same⟩
  · intro state member
    exact mem_filterMap_stripStart.mp (mem_sortDedup.mp member)
  · intro value given
    obtain rfl := Option.mem_def.mp given
    obtain ⟨token, tokens, decoded⟩ := capturedIdentity_eq_some read
    refine ⟨token, mem_filterMap_stripStart.mp ?_, decoded⟩
    rw [show CapabilityKind.identity.lead = "processor.identity." from rfl] at *
    rw [tokens]
    exact List.mem_cons_self

/-- A requirement of grammatical capabilities is plain. -/
theorem plain_of_captured {architecture : ProcessorArchitecture} {capabilities : List String}
    {observation : ProcessorObservation} {requirement : ProcessorRequirement}
    (grammar : ∀ capability ∈ capabilities, Grammatical capability)
    (observed : observationFromCapturedCapabilities architecture capabilities = .ok observation)
    (initial : initialProcessorRequirement observation = .ok requirement) :
    PlainRequirement requirement := by
  have listed := observedIn_of_captured observed
  simp only [initialProcessorRequirement, bind_eq_ok, pure_eq_ok] at initial
  obtain ⟨_, -, rfl⟩ := initial
  refine ⟨?_, ?_, ?_⟩
  · intro feature member
    obtain ⟨suffix, given, rfl⟩ := listed.feature feature member
    rw [normalizeName_restoreName (Suffix.of_grammatical (grammar _ given)).chars]
  · intro state member
    have chars := (Suffix.of_grammatical (grammar _ (listed.state state member))).chars
    refine normalizeName_of_state ?_ fun underscore => ?_
    · rw [List.all_eq_true]
      exact fun c inside =>
        (stateChar_of_capabilityNameChar (List.all_eq_true.mp chars c inside)).1
    · exact (stateChar_of_capabilityNameChar (List.all_eq_true.mp chars _ underscore)).2 rfl
  · intro identity given
    obtain ⟨token, member, decoded⟩ := listed.identity identity given
    have suffix := Suffix.of_grammatical (grammar _ member)
    have plain : ∀ {c}, c ∈ token.toList → capabilityNameChar c = true := fun inside =>
      List.all_eq_true.mp suffix.chars _ inside
    have chars := all_encodeIdentityToken (decodeIdentityToken_eq_some.mp decoded).2
    have spelled : (encodeIdentityToken identity).toList.all capabilityNameChar = true := by
      rw [List.all_eq_true] at chars ⊢
      intro c inside
      have held := chars c inside
      simp only [validIdentityChar, Bool.or_eq_true, decide_eq_true_eq] at held
      simp only [capabilityNameChar, Bool.or_eq_true, decide_eq_true_eq]
      tauto
    have shorter := length_encodeIdentityToken_le decoded fun inside =>
      absurd (plain inside) (by decide)
    have size : ∀ {text : String}, text.toList.all capabilityNameChar = true →
        text.utf8ByteSize = text.toList.length := fun chars =>
      utf8ByteSize_of_ascii fun c inside =>
        toNat_lt_of_capabilityNameChar (List.all_eq_true.mp chars c inside)
    refine ⟨spelled, ?_⟩
    rw [size spelled]
    have fits := suffix.size
    rw [size suffix.chars] at fits
    omega

/-! ## What is gone is explained -/

theorem removedConstraintForCapability_feature (suffix : String) :
    removedConstraintForCapability (CapabilityKind.feature.lead ++ suffix) =
      some ("instruction-feature." ++ restoreName suffix) := by
  change removedConstraintForCapability ("processor.feature." ++ suffix) = _
  rw [removedConstraintForCapability, stripStart_append]

theorem removedConstraintForCapability_osState (suffix : String) :
    removedConstraintForCapability (CapabilityKind.osState.lead ++ suffix) =
      some ("os-enabled-state." ++ suffix) := by
  change removedConstraintForCapability ("processor.os-state." ++ suffix) = _
  rw [removedConstraintForCapability, stripStart_append_of_clash (by decide), stripStart_append]

theorem removedConstraintForCapability_identity (suffix : String) :
    removedConstraintForCapability (CapabilityKind.identity.lead ++ suffix) =
      some "processor-identity" := by
  change removedConstraintForCapability ("processor.identity." ++ suffix) = _
  rw [removedConstraintForCapability, stripStart_append_of_clash (by decide),
    stripStart_append_of_clash (by decide), startsWith_append, if_pos rfl]

section

variable [Primitives] {policy : ProcessorReductionPolicy} {executor : ProcessorTrialExecutor}
  {requirement part : ProcessorRequirement} {final : ReductionState}
  {constraint : ProcessorConstraint}

/-- Names of a plain requirement are spelled as they are listed. -/
theorem spelledIn_iff_presentIn (plain : PlainRequirement requirement)
    (within : PartOf requirement part) (present : constraint.presentIn requirement = true) :
    SpelledIn part constraint ↔ constraint.presentIn part = true := by
  cases constraint with
  | processorIdentity => exact Iff.rfl
  | instructionFeature feature =>
      rw [ProcessorConstraint.presentIn, List.contains_iff_mem] at present ⊢
      constructor
      · rintro ⟨other, member, same⟩
        have restored := congrArg restoreName same
        rw [plain.feature other (within.features.subset member),
          plain.feature feature present] at restored
        exact restored ▸ member
      · exact fun member => ⟨feature, member, rfl⟩
  | osEnabledState state =>
      rw [ProcessorConstraint.presentIn, List.contains_iff_mem]
      constructor
      · rintro ⟨other, member, same⟩
        rw [plain.state other (within.states.subset member)] at same
        exact same ▸ member
      · intro member
        exact ⟨state, member, plain.state state (within.states.subset member)⟩

/-- A part names less. -/
theorem PartOf.namesSuffix (within : PartOf requirement part) {kind : CapabilityKind}
    {suffix : String} (declarable : kind.declarable = true)
    (names : part.NamesSuffix kind suffix) : requirement.NamesSuffix kind suffix := by
  cases kind with
  | architecture =>
      rw [ProcessorRequirement.NamesSuffix, ← within.architecture]
      exact names
  | feature =>
      obtain ⟨feature, member, same⟩ := names
      exact ⟨feature, within.features.subset member, same⟩
  | osState =>
      obtain ⟨state, member, same⟩ := names
      exact ⟨state, within.states.subset member, same⟩
  | identity =>
      obtain ⟨identity, given, same⟩ := names
      rcases within.identity with kept | none
      · exact ⟨identity, kept ▸ given, same⟩
      · rw [none] at given
        cases given
  | reduction => cases declarable
  | requirement => cases declarable

omit [Primitives] in
/-- Nothing but states goes with a feature. -/
theorem not_cascaded_feature {trials : List ProcessorReductionTrial} {feature : String} :
    ¬ Cascaded trials (.instructionFeature feature) := by
  rintro ⟨other, -, takes⟩
  cases other <;> cases takes

omit [Primitives] in
theorem not_cascaded_identity {trials : List ProcessorReductionTrial} :
    ¬ Cascaded trials .processorIdentity := by
  rintro ⟨other, -, takes⟩
  cases other <;> cases takes

variable {receipt : ProcessorReductionReceipt}

/-- Every capability that a reduction dropped has its trial. -/
theorem explained_of_sound (plain : PlainRequirement requirement)
    (sound : ReductionInvariant policy executor requirement (constraints requirement) final)
    (trials : final.trials = receipt.trials) {kind : CapabilityKind} {suffix : String}
    (declarable : kind.declarable = true) (names : requirement.NamesSuffix kind suffix)
    (gone : ¬ final.reduced.NamesSuffix kind suffix) :
    ∃ label, removedConstraintForCapability (kind.lead ++ suffix) = some label ∧
      removedOrTaken label receipt.removedConstraints := by
  have missing : ∀ constraint : ProcessorConstraint, constraint.presentIn requirement = true →
      ¬ constraint.presentIn final.reduced = true →
        RemovedBy receipt.trials constraint ∨ Cascaded receipt.trials constraint := by
    intro constraint present absent
    rw [← trials]
    exact (sound.missing constraint present).mp (by simpa using absent)
  cases kind with
  | architecture =>
      rw [ProcessorRequirement.NamesSuffix, sound.part.architecture] at gone
      exact absurd names gone
  | feature =>
      obtain ⟨feature, member, rfl⟩ := names
      rw [removedConstraintForCapability_feature, plain.feature feature member]
      refine ⟨_, rfl, .inl ?_⟩
      rcases missing (.instructionFeature feature)
        (List.contains_iff_mem.mpr member) fun present =>
          gone ⟨feature, List.contains_iff_mem.mp present, rfl⟩ with removed | cascaded
      · exact label_mem_removedConstraints.mpr removed
      · exact absurd cascaded not_cascaded_feature
  | osState =>
      obtain ⟨state, member, rfl⟩ := names
      rw [removedConstraintForCapability_osState, plain.state state member]
      refine ⟨_, rfl, ?_⟩
      rcases missing (.osEnabledState state)
        (List.contains_iff_mem.mpr member) fun present =>
          gone ⟨state, List.contains_iff_mem.mp present, rfl⟩ with removed | cascaded
      · exact .inl (label_mem_removedConstraints.mpr removed)
      · exact .inr (removedWithFeature_label.mpr cascaded)
  | identity =>
      obtain ⟨identity, given, rfl⟩ := names
      rw [removedConstraintForCapability_identity]
      refine ⟨_, rfl, .inl ?_⟩
      have absent : ¬ final.reduced.identity.isSome = true := by
        rcases sound.part.identity with same | none
        · exact fun _ => gone ⟨identity, same ▸ given, rfl⟩
        · simp [none]
      rcases missing .processorIdentity
        (Option.isSome_iff_exists.mpr ⟨identity, given⟩) absent with removed | cascaded
      · exact label_mem_removedConstraints.mpr removed
      · exact absurd cascaded not_cascaded_identity
  | reduction => cases declarable
  | requirement => cases declarable

/-- Every trial of a reduction agrees with what is left. -/
theorem trials_of_sound (plain : PlainRequirement requirement) (nameable : Nameable requirement)
    (sound : ReductionInvariant policy executor requirement (constraints requirement) final)
    (trials : final.trials = receipt.trials) :
    ∀ trial ∈ receipt.trials, ∃ constraint : ProcessorConstraint,
      trial.testedConstraint = constraint.label ∧ SpellableConstraint constraint ∧
        (trial.decision = .removed → ¬ SpelledIn final.reduced constraint) ∧
          (trial.decision = .retained → SpelledIn final.reduced constraint) := by
  intro trial member
  rw [← trials] at member
  have listed := sound.labels.subset
    (List.mem_map_of_mem (f := ProcessorReductionTrial.testedConstraint) member)
  obtain ⟨constraint, visited, label⟩ := List.mem_map.mp listed
  have present := mem_constraints.mp visited
  have spelled := spelledIn_iff_presentIn plain sound.part present
  refine ⟨constraint, label.symm, ?_, ?_, ?_⟩
  · cases constraint with
    | instructionFeature feature =>
        exact nameable.feature feature (List.contains_iff_mem.mp present)
    | osEnabledState state => trivial
    | processorIdentity => trivial
  · intro removed
    rw [spelled, Bool.not_eq_true]
    exact (sound.missing constraint present).mpr (.inl ⟨trial, member, removed, label.symm⟩)
  · intro retained
    exact spelled.mpr (sound.retained trial member retained constraint label.symm)

/-! ## Accepted reductions -/

/-- What a bound capsule and its rebinding give. -/
theorem accepted_of_rebound {capsule : ReplayCapsule} {others : List String}
    (plain : PlainRequirement requirement) (nameable : Nameable requirement)
    (valid : requirement.Valid) (foreign : Foreign others)
    (few : (besideBound others requirement).length ≤ 64)
    (sound : ReductionInvariant policy executor requirement (constraints requirement) final)
    (trials : final.trials = receipt.trials) (validReceipt : receipt.validate = .ok ())
    (digest : receipt.finalRequirementDigest = Digest.of (Canonical.text final.reduced))
    (admitted : { capsule with
      requiredCapabilities := besideReduced others final.reduced receipt }.Valid) :
    AcceptedReduction { capsule with requiredCapabilities := besideBound others requirement }
      { capsule with requiredCapabilities := besideReduced others final.reduced receipt }
      final.reduced receipt := by
  have capable : ValidCapabilities (besideBound others requirement) := by
    refine ⟨few, pairwise_sortDedup _, fun capability member => ?_⟩
    rcases mem_besideBound.mp member with other | bound
    · exact admitted.capabilityList.grammar capability (mem_besideReduced.mpr (.inl other))
    · exact grammatical_of_mem_boundCapabilities nameable plain.identity bound
  have within := sound.part
  apply acceptedReduction_of_part
  · exact admitted.withCapabilities capable
  · exact admitted
  · exact foreign
  · exact within.valid valid
  · exact ⟨fun feature member => nameable.feature feature (within.features.subset member),
      fun state member => nameable.state state (within.states.subset member)⟩
  · exact validReceipt
  · exact digest
  · exact within.architecture
  · exact fun kind suffix declarable names => within.namesSuffix declarable names
  · exact fun kind suffix declarable names gone =>
      explained_of_sound plain sound trials declarable names gone
  · exact trials_of_sound plain nameable sound trials

end

variable [Primitives]

/-- The Runtime accepts what a reduction of captured capabilities leaves. -/
theorem honest_reduction_accepted (architecture : ProcessorArchitecture)
    (capabilities : List String) (observation : ProcessorObservation)
    (requirement : ProcessorRequirement) (capsule sealed : ReplayCapsule)
    (policy : ProcessorReductionPolicy) (executor : ProcessorTrialExecutor)
    (result : ProcessorReductionResult) (input after : AdmissionInput)
    (grammar : ∀ capability ∈ capabilities, Grammatical capability)
    (observed : observationFromCapturedCapabilities architecture capabilities = .ok observation)
    (initial : initialProcessorRequirement observation = .ok requirement)
    (bound : bindCapsuleProcessorRequirement capsule requirement = .ok sealed)
    (reduced : reduceProcessorRequirements policy executor observation requirement = .ok result)
    (sealedInput : input.capsule = sealed)
    (rebound : bindProcessorReduction result.requirement result.receipt input = .ok () after) :
    validateProcessorReductionCapsuleBinding sealed after.capsule result.requirement
      result.receipt = .ok () := by
  rw [validateProcessorReductionCapsuleBinding_eq_ok]
  have plain := plain_of_captured grammar observed initial
  obtain ⟨valid, validReceipt, digest, final, left, trials, -, sound, -⟩ :=
    reduceProcessorRequirements_eq_ok reduced
  obtain ⟨_, found, rfl⟩ := bindCapsuleProcessorRequirement_eq_ok.mp bound
  obtain ⟨-, nameable, few, rfl⟩ := processorCapabilities_eq_ok.mp found
  have foreign := foreign_processorless capsule.requiredCapabilities
  generalize processorless capsule.requiredCapabilities = others at *
  obtain ⟨-, _, refound, -, rfl, admitted⟩ := bindProcessorReduction_eq_ok.mp rebound
  obtain ⟨-, -, -, rfl⟩ := processorCapabilities_eq_ok.mp refound
  have capsules : (input.withCapabilities (sortDedup (besideBound
      (processorless input.capsule.requiredCapabilities) result.requirement ++
        [reductionCapability result.receipt]))).capsule =
      { capsule with
        requiredCapabilities := besideReduced others result.requirement result.receipt } := by
    rw [AdmissionInput.withCapabilities, sealedInput]
    dsimp only
    rw [besideBound_processorless foreign]
    rfl
  rw [capsules] at admitted ⊢
  have admitted := ReplayCapsule.validate_eq_ok.mp admitted
  rw [← left] at admitted digest ⊢
  exact accepted_of_rebound plain nameable valid foreign few sound trials validReceipt digest
    admitted

omit [Primitives] in
theorem honest_reduction_accepted_feature :
    letI := Sample.marked
    validateProcessorReductionCapsuleBinding Sample.sealedCapsule Sample.admittedCapsule
      Sample.reduced Sample.receipt = .ok () := by
  let _ := Sample.marked
  refine honest_reduction_accepted .x86_64 Sample.captured Sample.observation Sample.requirement _
    Sample.sealedCapsule Sample.reductionPolicy Sample.trialExecutor
    ⟨Sample.receipt, Sample.reduced⟩ Sample.sealedInput
    { Sample.sealedInput with capsule := Sample.admittedCapsule } ?_ Sample.observes Sample.initial
    Sample.binds Sample.reduces rfl Sample.rebinds
  intro capability member
  simp only [Sample.captured, List.mem_cons, List.not_mem_nil, or_false] at member
  rcases member with rfl | rfl
  · exact ⟨by decide, by decide, by decide⟩
  · exact ⟨by decide, by decide, by decide⟩

end Reproit
