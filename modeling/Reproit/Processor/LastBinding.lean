/-
# The last binding wins

Binding a requirement into a capsule replaces the capabilities of any earlier binding and
keeps all others, whatever the list was before.  So a second binding forgets the first one,
binding again changes nothing, and two bindings of one architecture differ in processor
capabilities only.
-/

import Reproit.Processor.FailedBinding
import Reproit.Processor.Rebinding

namespace Reproit

open Backend

variable [Primitives] {requirement first second : ProcessorRequirement}
  {capsule bound : ReplayCapsule} {others existing capabilities : List String}

/-! ## The list of a bound capsule -/

/-- What a binding leaves in a capsule. -/
structure BoundTo (capsule bound : ReplayCapsule) (requirement : ProcessorRequirement) : Prop where
  rest : bound = { capsule with requiredCapabilities := bound.requiredCapabilities }
  sorted : bound.requiredCapabilities.Pairwise (· < ·)
  few : bound.requiredCapabilities.length ≤ 64
  architecture : (bound.requiredCapabilities.filter fun capability =>
    startsWith capability "architecture.") = [requirement.architecture.name]
  requirement : (bound.requiredCapabilities.filter fun capability =>
    startsWith capability "processor.requirement.") =
      ["processor.requirement." ++ digestSuffix (Digest.of (Canonical.text requirement))]
  others : ∀ capability, startsWith capability "architecture." = false →
    startsWith capability "processor." = false →
      (capability ∈ bound.requiredCapabilities ↔ capability ∈ capsule.requiredCapabilities)

/-- Of a kind with one capability, a bound list has that one. -/
theorem filter_lead_besideBound (foreign : Foreign others) {kind : CapabilityKind} {suffix : String}
    (one : ∀ other, requirement.NamesSuffix kind other ↔ other = suffix) :
    ((besideBound others requirement).filter fun capability =>
      startsWith capability kind.lead) = [kind.lead ++ suffix] := by
  rw [besideBound, filter_sortDedup]
  apply sortDedup_eq (List.pairwise_singleton _ _)
  intro capability
  rw [List.mem_filter, List.mem_append, List.mem_singleton]
  constructor
  · rintro rfl
    exact ⟨.inr (lead_append_mem_boundCapabilities.mpr ((one suffix).mpr rfl)),
      startsWith_append _ _⟩
  · rintro ⟨outside | listed, begins⟩
    · obtain ⟨rest, rfl⟩ := startsWith_iff.mp begins
      exact absurd outside (lead_append_not_mem foreign kind rest)
    · obtain ⟨rest, rfl⟩ := startsWith_iff.mp begins
      rw [(one rest).mp (lead_append_mem_boundCapabilities.mp listed)]

theorem boundTo_of_bind
    (ran : bindCapsuleProcessorRequirement capsule requirement = .ok bound) :
    BoundTo capsule bound requirement := by
  obtain ⟨capabilities, computed, rfl⟩ := bindCapsuleProcessorRequirement_eq_ok.mp ran
  obtain ⟨-, -, few, rfl⟩ := processorCapabilities_eq_ok.mp computed
  have foreign := foreign_processorless capsule.requiredCapabilities
  obtain ⟨name, architecture⟩ := requirement.architecture.name_eq
  constructor
  case rest => rfl
  case sorted => exact pairwise_sortDedup _
  case few => exact few
  case architecture =>
    rw [architecture]
    refine @filter_lead_besideBound _ _ _ foreign .architecture name fun other => ?_
    rw [ProcessorRequirement.NamesSuffix, architecture, CapabilityKind.lead_append_inj]
    exact ⟨fun same => same.2.symm, fun same => ⟨rfl, same.symm⟩⟩
  case requirement =>
    exact @filter_lead_besideBound _ _ _ foreign .requirement _ fun other => eq_comm
  case others =>
    intro capability architecture processor
    have kept : capability ∈ processorless (besideBound _ requirement) ↔ _ :=
      mem_processorless_besideBound foreign capability
    rw [mem_processorless, mem_processorless] at kept
    simpa only [architecture, processor, and_true] using kept

/-! ## Binding again -/

theorem processorCapabilities_of_bound
    (computed : processorCapabilities existing first = .ok capabilities) :
    processorCapabilities capabilities second = processorCapabilities existing second := by
  obtain ⟨-, -, -, rfl⟩ := processorCapabilities_eq_ok.mp computed
  exact processorCapabilities_congr
    (mem_processorless_besideBound (foreign_processorless existing)) second

/-- A second binding forgets the first one. -/
theorem bind_of_bound (ran : bindCapsuleProcessorRequirement capsule first = .ok bound) :
    bindCapsuleProcessorRequirement bound second =
      bindCapsuleProcessorRequirement capsule second := by
  obtain ⟨capabilities, computed, rfl⟩ := bindCapsuleProcessorRequirement_eq_ok.mp ran
  rw [bindCapsuleProcessorRequirement, bindCapsuleProcessorRequirement,
    processorCapabilities_of_bound computed]

/-! ## In place -/

/-- Bind a requirement into the capsule that is given by reference. -/
def bindCapsuleInPlace (requirement : ProcessorRequirement) :
    Update Error ReplayCapsule Unit := do
  let capsule ← get
  let requiredCapabilities ← Update.attempt
    (processorCapabilities capsule.requiredCapabilities requirement)
  set { capsule with requiredCapabilities }

theorem bindCapsuleInPlace_eq_ok :
    bindCapsuleInPlace requirement capsule = .ok () bound ↔
      bindCapsuleProcessorRequirement capsule requirement = .ok bound := by
  rw [bindCapsuleProcessorRequirement_eq_ok, bindCapsuleInPlace, Update.get_bind,
    Update.bind_eq_ok]
  simp only [Update.attempt_eq_ok]
  constructor
  · rintro ⟨capabilities, _, ⟨computed, rfl⟩, written⟩
    exact ⟨capabilities, computed, by injection written⟩
  · rintro ⟨capabilities, computed, rfl⟩
    exact ⟨capabilities, capsule, ⟨computed, rfl⟩, rfl⟩

theorem bindCapsuleInPlace_eq_error {error : Error} {after : ReplayCapsule} :
    bindCapsuleInPlace requirement capsule = .error error after ↔
      bindCapsuleProcessorRequirement capsule requirement = .error error ∧ after = capsule := by
  rw [bindCapsuleInPlace, Update.get_bind, bindCapsuleProcessorRequirement]
  cases processorCapabilities capsule.requiredCapabilities requirement with
  | ok capabilities =>
      rw [Update.attempt_bind_ok rfl, ok_bind]
      constructor
      · intro failed
        cases failed
      · intro held
        cases held.1
  | error cause =>
      rw [Update.attempt_bind_error rfl]
      constructor
      · intro failed
        injection failed with same unchanged
        exact ⟨congrArg Except.error same, unchanged.symm⟩
      · rintro ⟨failed, unchanged⟩
        injection failed with same
        rw [same, unchanged]

/-! ## Two bindings -/

omit [Primitives] in
/-- The integers of a capsule are not in its capabilities. -/
theorem exact_withCapabilities (capsule : ReplayCapsule) (capabilities : List String) :
    Document.Exact { capsule with requiredCapabilities := capabilities } ↔
      Document.Exact capsule := by
  change ReplayCapsule.codec.exact _ = true ↔ ReplayCapsule.codec.exact capsule = true
  simp [ReplayCapsule.codec]

omit [Primitives] in
theorem profileFormat_le_of_exact (held : Document.Exact capsule) :
    capsule.profileFormat.toNat ≤ Json.maxExactInteger := by
  have fields : ReplayCapsule.codec.exact capsule = true := held
  simp [ReplayCapsule.codec] at fields
  obtain ⟨_, _, _, _, _, version, _⟩ := fields
  exact version

theorem BoundTo.mem_iff_of_architecture (bind : BoundTo capsule bound requirement)
    {capability : String} (begins : startsWith capability "architecture." = true) :
    capability ∈ bound.requiredCapabilities ↔ capability = requirement.architecture.name := by
  rw [← List.mem_singleton, ← bind.architecture, List.mem_filter]
  exact (and_iff_left begins).symm

/-- Two bindings of one architecture to a capsule differ in processor capabilities only. -/
theorem strip_bound_eq {rebound : ReplayCapsule} (bind : BoundTo capsule bound first)
    (rebind : BoundTo capsule rebound second) (same : first.architecture = second.architecture) :
    stripProcessorCapabilities bound = stripProcessorCapabilities rebound := by
  have lists : (bound.requiredCapabilities.filter fun capability =>
      !startsWith capability "processor.") =
        rebound.requiredCapabilities.filter fun capability =>
          !startsWith capability "processor." := by
    apply List.Pairwise.eq_of_mem_iff (bind.sorted.filter _) (rebind.sorted.filter _)
    intro capability
    rw [List.mem_filter, List.mem_filter]
    apply and_congr_left
    intro outside
    rw [Bool.not_eq_true'] at outside
    cases begins : startsWith capability "architecture." with
    | true =>
        rw [bind.mem_iff_of_architecture begins, rebind.mem_iff_of_architecture begins, same]
    | false => rw [bind.others capability begins outside, rebind.others capability begins outside]
  rw [stripProcessorCapabilities, stripProcessorCapabilities, lists, bind.rest, rebind.rest]

theorem capsulesEqual_of_strip {sealed admitted : ReplayCapsule}
    (same : stripProcessorCapabilities sealed = stripProcessorCapabilities admitted) :
    capsulesEqualExceptProcessorCapabilities sealed admitted = .ok true ↔
      Document.Exact (stripProcessorCapabilities sealed) := by
  simp only [capsulesEqualExceptProcessorCapabilities, ← same, bind_eq_ok, pure_eq_ok,
    Canonical.digest_eq_ok, Canonical.bytes_eq_ok]
  constructor
  · rintro ⟨_, ⟨_, ⟨exact', -⟩, -⟩, -⟩
    exact exact'
  · intro exact'
    exact ⟨_, ⟨_, ⟨exact', rfl⟩, rfl⟩, _, ⟨_, ⟨exact', rfl⟩, rfl⟩, decide_eq_true rfl⟩

open Sample

/-- The sample capsule with a version of its profile. -/
def Backend.Sample.capsuleOfFormat (profileFormat : UInt64) : ReplayCapsule :=
  { capsuleWith ownCapabilities with profileFormat }

theorem exists_bind_capsuleOfFormat (profileFormat : UInt64) :
    ∃ bound, bindCapsuleProcessorRequirement (capsuleOfFormat profileFormat) Sample.requirement =
      .ok bound := by
  have same : besideBound (processorless ownCapabilities) Sample.requirement =
      besideBound ownCapabilities Sample.requirement := by
    apply besideBound_congr
    intro capability
    rw [mem_processorless]
    exact and_iff_left_of_imp (foreign_ownCapabilities capability)
  have few := (valid_besideBound nameable_requirement rfl (by decide)).2
  refine ⟨_, bindCapsuleProcessorRequirement_eq_ok.mpr ⟨_, processorCapabilities_eq_ok.mpr
    ⟨ProcessorRequirement.validate_eq_ok.mp validate_requirement, nameable_requirement, ?_, rfl⟩,
      rfl⟩⟩
  change (besideBound (processorless ownCapabilities) Sample.requirement).length ≤ 64
  rw [same]
  exact few.trans (by decide)

end Reproit
