/-
# Hosts of a reduced capsule

A reduction takes processor capabilities away and leaves the others, so every host that
fits the sealed capsule fits the admitted one.
-/

import Reproit.Core.Model.Executor
import Reproit.Processor.AcceptanceSample
import Reproit.Processor.Transition

namespace Reproit

open Backend

/-- What a replay host must satisfy. -/
structure SupportedHost (required : List String) (evidence : ExecutorCapabilityEvidence)
    (debugger : DebuggerContract) (host : ReplayHostCapabilityContract) : Prop where
  length : 4 ≤ required.length ∧ required.length ≤ 64
  sorted : required.Pairwise (· < ·)
  declared : evidence.capabilities.length ≤ 64 ∧ ∀ capability ∈ required,
    capsuleBinding capability = false → capability ∈ evidence.capabilities
  bindings : ∀ capability ∈ required, validCapabilityBinding capability = true
  architecture : categoryMatches required "architecture." host.architecture = true
  operatingSystem : categoryMatches required "operating-system." host.operatingSystem = true
  nativeExecutor : nativeExecutorMatches required host.nativeExecutor = true
  world : categoryMatches required "world." host.world = true
  abi : categoryMatches required "abi." host.runtimeAbi = true
  debugger : categoryMatches required "debugger." debugger.protocol.capability = true

theorem replayCapabilitiesPresent_iff {required provided : List String}
    (few : required.length ≤ 64) :
    replayCapabilitiesPresent required provided = true ↔ provided.length ≤ 64 ∧
      ∀ capability ∈ required, capsuleBinding capability = false → capability ∈ provided := by
  have fewer : (required.filter fun value => !capsuleBinding value).length ≤ 64 :=
    (List.length_filter_le _ _).trans few
  have within : ¬ required.length > maxRequiredCapabilities := not_lt.mpr few
  rw [replayCapabilitiesPresent, if_neg within, requiredCapabilitiesPresent]
  split_ifs with many
  · have long : ¬ provided.length ≤ 64 := not_le.mpr (many.resolve_left (not_lt.mpr fewer))
    simp [long]
  · push Not at many
    simp only [List.all_eq_true, List.mem_filter, Bool.not_eq_true', List.contains_iff_mem,
      and_imp]
    exact ⟨fun all => ⟨many.2, all⟩, And.right⟩

theorem verifyReplayCapabilities_eq_ok {required : List String}
    {evidence : ExecutorCapabilityEvidence} {debugger : DebuggerContract}
    {host : ReplayHostCapabilityContract} :
    verifyReplayCapabilities required evidence debugger host = .ok () ↔
      SupportedHost required evidence debugger host := by
  simp only [verifyReplayCapabilities, bind_eq_ok, rejectIf_eq_ok, not_or, not_not,
    Bool.and_eq_true, List.all_eq_true, List.isChain_iff_pairwise]
  constructor
  · rintro ⟨_, ⟨short, long⟩, _, sorted, _, present, _, bindings,
      ⟨⟨⟨architecture, system⟩, native⟩, world⟩, abi, debugger⟩
    have few := not_lt.mp long
    exact ⟨⟨not_lt.mp short, few⟩, sorted, (replayCapabilitiesPresent_iff few).mp present,
      bindings, architecture, system, native, world, abi, debugger⟩
  · intro supported
    exact ⟨(), ⟨not_lt.mpr supported.length.1, not_lt.mpr supported.length.2⟩, (),
      supported.sorted, (), (replayCapabilitiesPresent_iff supported.length.2).mpr
        supported.declared, (), supported.bindings, ⟨⟨⟨supported.architecture,
          supported.operatingSystem⟩, supported.nativeExecutor⟩, supported.world⟩, supported.abi,
            supported.debugger⟩

/-! ## Categories -/

/-- The capabilities that a reduction leaves alone. -/
def unprocessed (capabilities : List String) : List String :=
  capabilities.filter fun capability => !startsWith capability "processor."

theorem not_startsWith_of_clash {capability lead other : String} (clash : Clash lead other)
    (begins : startsWith capability other = true) : startsWith capability lead = false := by
  obtain ⟨suffix, rfl⟩ := startsWith_iff.mp begins
  exact startsWith_append_of_clash clash suffix

/-- A category of no processor is found among the capabilities that are left alone. -/
theorem filter_unprocessed {select : String → Bool} {lead : String}
    (clash : Clash "processor." lead)
    (selects : ∀ capability, select capability = true → startsWith capability lead = true)
    (capabilities : List String) :
    (unprocessed capabilities).filter select = capabilities.filter select := by
  rw [unprocessed, List.filter_filter]
  apply List.filter_congr
  intro capability _
  by_cases selected : select capability = true
  · rw [selected, not_startsWith_of_clash clash (selects capability selected)]
    rfl
  · rw [Bool.not_eq_true] at selected
    rw [selected, Bool.false_and]

theorem categoryMatches_unprocessed {lead : String} (clash : Clash "processor." lead)
    (capabilities : List String) (expected : String) :
    categoryMatches (unprocessed capabilities) lead expected =
      categoryMatches capabilities lead expected := by
  rw [categoryMatches, categoryMatches, filter_unprocessed clash fun _ begins => begins]

theorem nativeExecutorMatches_unprocessed (capabilities : List String) (expected : String) :
    nativeExecutorMatches (unprocessed capabilities) expected =
      nativeExecutorMatches capabilities expected := by
  rw [nativeExecutorMatches, nativeExecutorMatches,
    @filter_unprocessed _ "executor." (by decide)]
  intro capability both
  exact (Bool.and_eq_true _ _ ▸ both : _ ∧ _).1

/-- The capability that matched. -/
theorem exists_of_categoryMatches {required : List String} {lead expected : String}
    (matched : categoryMatches required lead expected = true) :
    ∃ capability ∈ required, startsWith capability lead = true := by
  rw [categoryMatches] at matched
  split at matched
  next value found =>
    have member : value ∈ required.filter fun capability => startsWith capability lead := by
      rw [found]
      exact List.mem_cons_self
    exact ⟨value, List.mem_filter.mp member⟩
  next => cases matched

/-- Four categories are four capabilities. -/
theorem four_le_length {required : List String} {host : ReplayHostCapabilityContract}
    (architecture : categoryMatches required "architecture." host.architecture = true)
    (system : categoryMatches required "operating-system." host.operatingSystem = true)
    (world : categoryMatches required "world." host.world = true)
    (abi : categoryMatches required "abi." host.runtimeAbi = true) : 4 ≤ required.length := by
  obtain ⟨first, firstMember, firstBegins⟩ := exists_of_categoryMatches architecture
  obtain ⟨second, secondMember, secondBegins⟩ := exists_of_categoryMatches system
  obtain ⟨third, thirdMember, thirdBegins⟩ := exists_of_categoryMatches world
  obtain ⟨fourth, fourthMember, fourthBegins⟩ := exists_of_categoryMatches abi
  have apart : ∀ {left right lead other : String}, Clash lead other →
      startsWith left lead = true → startsWith right other = true → left ≠ right := by
    rintro left right lead other clash begins others rfl
    rw [not_startsWith_of_clash clash others] at begins
    cases begins
  have nodup : [first, second, third, fourth].Nodup := by
    simp only [List.nodup_cons, List.mem_cons, List.not_mem_nil, or_false, not_or,
      not_false_eq_true, List.nodup_nil, and_true]
    exact ⟨⟨apart (by decide) firstBegins secondBegins, apart (by decide) firstBegins thirdBegins,
      apart (by decide) firstBegins fourthBegins⟩, ⟨apart (by decide) secondBegins thirdBegins,
        apart (by decide) secondBegins fourthBegins⟩, apart (by decide) thirdBegins fourthBegins⟩
  have subset : [first, second, third, fourth] ⊆ required := by
    simp only [List.cons_subset, List.nil_subset, and_true]
    exact ⟨firstMember, secondMember, thirdMember, fourthMember⟩
  exact (List.subperm_of_subset nodup subset).length_le

/-! ## Bindings of a capsule -/

theorem validDigestSuffix_digestSuffix (digest : Digest) :
    validDigestSuffix (digestSuffix digest) = true := by
  rw [validDigestSuffix, utf8ByteSize_digestSuffix, Bool.and_eq_true, List.all_eq_true]
  refine ⟨rfl, fun c member => ?_⟩
  have digit := isDigit_or_of_mem_digestSuffix member
  simpa using digit

/-- The digests of a capsule are its own bindings. -/
theorem binding_of_digest {kind : CapabilityKind} (digest : Digest)
    (own : kind = .requirement ∨ kind = .reduction) :
    capsuleBinding (kind.lead ++ digestSuffix digest) = true ∧
      validCapabilityBinding (kind.lead ++ digestSuffix digest) = true := by
  have valid := validDigestSuffix_digestSuffix digest
  rcases own with rfl | rfl
  · change capsuleBinding ("processor.requirement." ++ digestSuffix digest) = true ∧
      validCapabilityBinding ("processor.requirement." ++ digestSuffix digest) = true
    rw [capsuleBinding, startsWith_append, validCapabilityBinding, stripStart_append]
    exact ⟨rfl, valid⟩
  · change capsuleBinding ("processor.reduction." ++ digestSuffix digest) = true ∧
      validCapabilityBinding ("processor.reduction." ++ digestSuffix digest) = true
    rw [capsuleBinding, startsWith_append, validCapabilityBinding,
      stripStart_append_of_clash (by decide), stripStart_append_of_clash (by decide),
      stripStart_append]
    exact ⟨Bool.or_true _, valid⟩

/-! ## A supported host -/

namespace Backend.Sample

variable [Primitives]

/-- The evidence of a host with the captured feature. -/
def evidence : ExecutorCapabilityEvidence where
  capabilities := ["abi.sysv-x86-64", "architecture.x86-64", "debugger.gdb-remote",
    "executor.linux-native", "operating-system.linux", "processor.feature.avx",
    "processor.os-state.xcr0.avx", "world.checkpoint"]
  executorId := "executor"
  expiresAt := time
  format := .v1
  issuedAt := time
  locality := .customerWorker
  organizationId := id 0
  platformIdentityDigest := ⟨0, by decide⟩
  projectId := id 0
  serviceId := id 0
  signature := ""
  signerKeyId := "key"
  status := .active

def hostContract : ReplayHostCapabilityContract where
  architecture := "architecture.x86-64"
  operatingSystem := "operating-system.linux"
  runtimeAbi := "abi.sysv-x86-64"
  nativeExecutor := "executor.linux-native"
  world := "world.checkpoint"

/-- What is selected among the bound capabilities is selected among its own ones. -/
theorem filter_besideBound {select : String → Bool} {requirement : ProcessorRequirement}
    (none : ∀ kind suffix, select (CapabilityKind.lead kind ++ suffix) = false) {value : String}
    (one : ownCapabilities.filter select = [value]) :
    (besideBound ownCapabilities requirement).filter select = [value] := by
  rw [besideBound, filter_sortDedup]
  apply sortDedup_eq (List.pairwise_singleton _ _)
  intro capability
  rw [List.filter_append, List.mem_append, one]
  refine ⟨.inl, fun member => member.resolve_right fun bound => ?_⟩
  obtain ⟨listed, selected⟩ := List.mem_filter.mp bound
  obtain ⟨kind, suffix, -, rfl⟩ := exists_of_mem_boundCapabilities listed
  rw [none] at selected
  cases selected

theorem category_ownCapabilities {lead : String} (value : String)
    (clash : ∀ kind, Clash lead (CapabilityKind.lead kind))
    (one : (ownCapabilities.filter fun capability => startsWith capability lead) = [value]) :
    categoryMatches (besideBound ownCapabilities requirement) lead value = true := by
  have found : ((besideBound ownCapabilities requirement).filter fun capability =>
      startsWith capability lead) = [value] :=
    filter_besideBound (fun kind suffix => startsWith_append_of_clash (clash kind) suffix) one
  rw [categoryMatches, found]
  exact decide_eq_true rfl

theorem category_architecture :
    categoryMatches (besideBound ownCapabilities requirement) "architecture."
      "architecture.x86-64" = true := by
  have bound : ∀ suffix, CapabilityKind.architecture.lead ++ suffix ∈
      boundCapabilities requirement ↔ "architecture.x86-64" =
        CapabilityKind.architecture.lead ++ suffix := fun _ =>
        lead_append_mem_boundCapabilities
  have found : ((besideBound ownCapabilities requirement).filter fun capability =>
      startsWith capability "architecture.") = ["architecture.x86-64"] := by
    rw [besideBound, filter_sortDedup]
    apply sortDedup_eq (List.pairwise_singleton _ _)
    intro capability
    rw [List.mem_filter, List.mem_append, List.mem_singleton]
    constructor
    · rintro rfl
      exact ⟨.inr ((bound "x86-64").mpr rfl), by decide⟩
    · rintro ⟨own | listed, begins⟩
      · rw [(foreign_ownCapabilities capability own).1] at begins
        cases begins
      · obtain ⟨kind, suffix, -, rfl⟩ := exists_of_mem_boundCapabilities listed
        have architecture := CapabilityKind.startsWith_lead kind .architecture suffix
        rw [show CapabilityKind.architecture.lead = "architecture." from rfl, begins] at architecture
        obtain rfl := of_decide_eq_true architecture.symm
        exact ((bound suffix).mp listed).symm
  rw [categoryMatches, found]
  exact decide_eq_true rfl

/-- The sealed capabilities are declared by the host, or are bindings of the capsule. -/
theorem declares {capability : String}
    (member : capability ∈ besideBound ownCapabilities requirement) :
    (capability ∈ evidence.capabilities ∨ capsuleBinding capability = true) ∧
      validCapabilityBinding capability = true := by
  have own : ∀ capability ∈ ownCapabilities,
      (capability ∈ evidence.capabilities ∨ capsuleBinding capability = true) ∧
        validCapabilityBinding capability = true := by decide
  rcases mem_besideBound.mp member with listed | bound
  · exact own capability listed
  · obtain ⟨kind, suffix, other, rfl⟩ := exists_of_mem_boundCapabilities bound
    have names := lead_append_mem_boundCapabilities.mp bound
    cases kind with
    | architecture =>
        obtain rfl : "x86-64" = suffix := String.append_right_inj "architecture." |>.mp names
        exact ⟨.inl (by decide), by decide⟩
    | feature =>
        obtain ⟨feature, listed, rfl⟩ := names
        obtain rfl := List.mem_singleton.mp listed
        exact ⟨.inl (by decide), by decide⟩
    | osState =>
        obtain ⟨state, listed, rfl⟩ := names
        obtain rfl := List.mem_singleton.mp listed
        exact ⟨.inl (by decide), by decide⟩
    | identity =>
        obtain ⟨identity, given, -⟩ := names
        cases given
    | reduction => exact absurd rfl other
    | requirement =>
        obtain rfl := names
        obtain ⟨own, valid⟩ := @binding_of_digest .requirement _ (.inl rfl)
        exact ⟨.inr own, valid⟩

theorem supports : verifyReplayCapabilities sealedCapsule.requiredCapabilities evidence debugger
    hostContract = .ok () := by
  have sealed : sealedCapsule.requiredCapabilities = besideBound ownCapabilities requirement := by
    simp only [sealedCapsule, capsuleWith]
  have valid := (valid_besideBound nameable_requirement rfl (by decide)).1
  have apart : ∀ lead ∈ ["abi.", "debugger.", "executor.", "operating-system.", "world."],
      ∀ kind, Clash lead (CapabilityKind.lead kind) := by
    intro lead listed kind
    revert lead
    cases kind <;> decide
  have abi := category_ownCapabilities "abi.sysv-x86-64" (apart "abi." (by decide)) (by decide)
  have system := category_ownCapabilities "operating-system.linux"
    (apart "operating-system." (by decide)) (by decide)
  have world := category_ownCapabilities "world.checkpoint" (apart "world." (by decide)) (by decide)
  have native : ((besideBound ownCapabilities requirement).filter fun capability =>
      startsWith capability "executor." && endsWith capability "-native") =
        ["executor.linux-native"] := by
    refine filter_besideBound (fun kind suffix => ?_) (by decide)
    rw [startsWith_append_of_clash (apart "executor." (by decide) kind), Bool.false_and]
  rw [sealed, verifyReplayCapabilities_eq_ok]
  exact {
    length := ⟨@four_le_length _ hostContract category_architecture system world abi,
      valid.length_le⟩
    sorted := valid.sorted
    declared := by
      refine ⟨by decide, fun capability member discrete => ?_⟩
      rcases (declares member).1 with listed | own
      · exact listed
      · rw [own] at discrete
        cases discrete
    bindings := fun capability member => (declares member).2
    architecture := category_architecture
    operatingSystem := system
    nativeExecutor := by
      rw [nativeExecutorMatches, native]
      exact decide_eq_true rfl
    world := world
    abi := abi
    debugger := category_ownCapabilities _ (apart "debugger." (by decide)) (by decide) }

end Backend.Sample

/-! ## Hosts of an accepted reduction -/

variable [Primitives] {sealed admitted : ReplayCapsule} {requirement : ProcessorRequirement}
  {receipt : ProcessorReductionReceipt}

/-- Every capability of the admitted capsule was sealed, or is a binding of the capsule. -/
theorem AcceptedReduction.mem_sealed
    (accepted : AcceptedReduction sealed admitted requirement receipt)
    (same : unprocessed sealed.requiredCapabilities = unprocessed admitted.requiredCapabilities)
    {capability : String} (member : capability ∈ admitted.requiredCapabilities) :
    capability ∈ sealed.requiredCapabilities ∨
      capsuleBinding capability = true ∧ validCapabilityBinding capability = true := by
  by_cases processor : startsWith capability "processor." = true
  · have expected : capability ∈ expectedCapabilities requirement receipt := by
      rw [← accepted.expected, List.mem_filter]
      exact ⟨member, by rw [processor, Bool.or_true]⟩
    rcases mem_expectedCapabilities.mp expected with bound | rfl
    · obtain ⟨kind, suffix, other, rfl⟩ := exists_of_mem_boundCapabilities bound
      have host : kind.declarable = true → kind.lead ++ suffix ∈ sealed.requiredCapabilities := by
        intro declarable
        rw [← CapabilityKind.hostProcessorRequirement_lead kind suffix] at declarable
        exact accepted.declared _ expected declarable
      cases kind with
      | architecture => exact .inl (host rfl)
      | feature => exact .inl (host rfl)
      | identity => exact .inl (host rfl)
      | osState => exact .inl (host rfl)
      | reduction => exact absurd rfl other
      | requirement =>
          obtain rfl := lead_append_mem_boundCapabilities.mp bound
          exact .inr (binding_of_digest _ (.inl rfl))
    · exact .inr (binding_of_digest _ (.inr rfl))
  · left
    have plain : capability ∈ unprocessed sealed.requiredCapabilities := by
      rw [same, unprocessed, List.mem_filter]
      exact ⟨member, by simpa using processor⟩
    exact (List.mem_filter.mp plain).1

/-- Every host that replays the sealed capsule replays the admitted one, unless the digests
of the capsules without their processor capabilities collide. -/
theorem reduction_widens_hosts (sealed admitted : ReplayCapsule)
    (requirement : ProcessorRequirement) (receipt : ProcessorReductionReceipt)
    (evidence : ExecutorCapabilityEvidence) (debugger : DebuggerContract)
    (host : ReplayHostCapabilityContract)
    (noCollision : Digest.of (Canonical.text (stripProcessorCapabilities sealed)) =
      Digest.of (Canonical.text (stripProcessorCapabilities admitted)) →
        Canonical.text (stripProcessorCapabilities sealed) =
          Canonical.text (stripProcessorCapabilities admitted))
    (accepted : validateProcessorReductionCapsuleBinding sealed admitted requirement receipt =
      .ok ())
    (supported : verifyReplayCapabilities sealed.requiredCapabilities evidence debugger host =
      .ok ()) :
    verifyReplayCapabilities admitted.requiredCapabilities evidence debugger host = .ok () := by
  have accepted := validateProcessorReductionCapsuleBinding_eq_ok.mp accepted
  have supported := verifyReplayCapabilities_eq_ok.mp supported
  have same : unprocessed sealed.requiredCapabilities = unprocessed admitted.requiredCapabilities :=
    congrArg ReplayCapsule.requiredCapabilities (accepted.stripped_eq noCollision)
  have category : ∀ {lead expected}, Clash "processor." lead →
      categoryMatches sealed.requiredCapabilities lead expected = true →
        categoryMatches admitted.requiredCapabilities lead expected = true := by
    intro lead expected clash matched
    rw [← categoryMatches_unprocessed clash, ← same, categoryMatches_unprocessed clash]
    exact matched
  have valid := accepted.validAdmitted.capabilityList
  have architecture := category (by decide) supported.architecture
  have system := category (by decide) supported.operatingSystem
  have world := category (by decide) supported.world
  have abi := category (by decide) supported.abi
  rw [verifyReplayCapabilities_eq_ok]
  exact {
    length := ⟨four_le_length architecture system world abi, valid.length_le⟩
    sorted := valid.sorted
    declared := by
      refine ⟨supported.declared.1, fun capability member discrete => ?_⟩
      rcases accepted.mem_sealed same member with listed | ⟨own, -⟩
      · exact supported.declared.2 capability listed discrete
      · rw [own] at discrete
        cases discrete
    bindings := by
      intro capability member
      rcases accepted.mem_sealed same member with listed | ⟨-, valid⟩
      · exact supported.bindings capability listed
      · exact valid
    architecture := architecture
    operatingSystem := system
    nativeExecutor := by
      rw [← nativeExecutorMatches_unprocessed, ← same, nativeExecutorMatches_unprocessed]
      exact supported.nativeExecutor
    world := world
    abi := abi
    debugger := category (by decide) supported.debugger }

omit [Primitives] in
theorem reduction_widens_hosts_feature :
    letI := Sample.marked
    verifyReplayCapabilities Sample.admittedCapsule.requiredCapabilities Sample.evidence
      Sample.debugger Sample.hostContract = .ok () := by
  let _ := Sample.marked
  exact reduction_widens_hosts Sample.sealedCapsule Sample.admittedCapsule Sample.reduced
    Sample.receipt _ _ _ (fun _ => congrArg Canonical.text Sample.strip_sealedCapsule)
    (validateProcessorReductionCapsuleBinding_eq_ok.mpr Sample.accepted_reduced) Sample.supports

end Reproit
