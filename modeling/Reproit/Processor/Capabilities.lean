/-
# Capabilities of a requirement

A processor capability is a kind and a suffix.  No text has two kinds, so what the
capabilities of a requirement name can be read off them, up to the spelling of names.
-/

import Reproit.Core.ProcessorDocuments

namespace Reproit

/-! ## Kinds -/

/-- The kinds of processor capabilities, in the order of their leads. -/
inductive CapabilityKind
  | architecture | feature | identity | osState | reduction | requirement
  deriving DecidableEq

namespace CapabilityKind

def lead : CapabilityKind → String
  | .architecture => "architecture."
  | .feature => "processor.feature."
  | .identity => "processor.identity."
  | .osState => "processor.os-state."
  | .reduction => "processor.reduction."
  | .requirement => "processor.requirement."

/-- A replay host declares the capabilities of the kind. -/
def declarable : CapabilityKind → Bool
  | .architecture | .feature | .identity | .osState => true
  | .reduction | .requirement => false

variable {kind other : CapabilityKind}

theorem clash (different : kind ≠ other) : Clash kind.lead other.lead := by
  cases kind <;> cases other <;> first | exact absurd rfl different | decide

theorem startsWith_lead (kind other : CapabilityKind) (suffix : String) :
    startsWith (kind.lead ++ suffix) other.lead = decide (kind = other) := by
  by_cases same : kind = other
  · rw [same, startsWith_append, decide_eq_true rfl]
  · rw [startsWith_append_of_clash (clash fun equal => same equal.symm), decide_eq_false same]

theorem stripStart_lead (kind other : CapabilityKind) (suffix : String) :
    stripStart (kind.lead ++ suffix) other.lead = if kind = other then some suffix else none := by
  by_cases same : kind = other
  · rw [same, stripStart_append, if_pos rfl]
  · rw [stripStart_append_of_clash (clash fun equal => same equal.symm), if_neg same]

theorem lead_append_inj {first second : String} :
    kind.lead ++ first = other.lead ++ second ↔ kind = other ∧ first = second := by
  constructor
  · intro same
    have begins := startsWith_lead kind other first
    rw [same, startsWith_append] at begins
    obtain rfl : kind = other := of_decide_eq_true begins.symm
    exact ⟨rfl, String.append_right_inj _ |>.mp same⟩
  · rintro ⟨rfl, rfl⟩
    rfl

theorem startsWith_processor (kind : CapabilityKind) (suffix : String) :
    startsWith (kind.lead ++ suffix) "processor." = decide (kind ≠ .architecture) := by
  cases kind with
  | architecture => exact startsWith_append_of_clash (by decide) suffix
  | feature => exact startsWith_append_of_startsWith (by decide) suffix
  | identity => exact startsWith_append_of_startsWith (by decide) suffix
  | osState => exact startsWith_append_of_startsWith (by decide) suffix
  | reduction => exact startsWith_append_of_startsWith (by decide) suffix
  | requirement => exact startsWith_append_of_startsWith (by decide) suffix

theorem startsWith_processor_or (kind : CapabilityKind) (suffix : String) :
    (startsWith (kind.lead ++ suffix) "architecture." ||
      startsWith (kind.lead ++ suffix) "processor.") = true := by
  have begins := startsWith_lead kind .architecture suffix
  rw [show architecture.lead = "architecture." from rfl] at begins
  rw [startsWith_processor, begins]
  cases kind <;> rfl

theorem hostProcessorRequirement_lead (kind : CapabilityKind) (suffix : String) :
    hostProcessorRequirement (kind.lead ++ suffix) = kind.declarable := by
  change (startsWith _ architecture.lead || startsWith _ feature.lead ||
    startsWith _ osState.lead || startsWith _ identity.lead) = _
  simp only [startsWith_lead]
  cases kind <;> rfl

/-- A capability that a replay host declares has a kind. -/
theorem of_hostProcessorRequirement {capability : String}
    (host : hostProcessorRequirement capability = true) :
    ∃ kind : CapabilityKind, ∃ suffix, kind.declarable = true ∧
      capability = kind.lead ++ suffix := by
  rw [hostProcessorRequirement, Bool.or_eq_true, Bool.or_eq_true, Bool.or_eq_true] at host
  rcases host with ((begins | begins) | begins) | begins
  · obtain ⟨suffix, rfl⟩ := startsWith_iff.mp begins
    exact ⟨.architecture, suffix, rfl, rfl⟩
  · obtain ⟨suffix, rfl⟩ := startsWith_iff.mp begins
    exact ⟨.feature, suffix, rfl, rfl⟩
  · obtain ⟨suffix, rfl⟩ := startsWith_iff.mp begins
    exact ⟨.osState, suffix, rfl, rfl⟩
  · obtain ⟨suffix, rfl⟩ := startsWith_iff.mp begins
    exact ⟨.identity, suffix, rfl, rfl⟩

end CapabilityKind

theorem ProcessorArchitecture.name_eq (architecture : ProcessorArchitecture) :
    ∃ suffix, architecture.name = CapabilityKind.architecture.lead ++ suffix := by
  cases architecture with
  | arm64 => exact ⟨"arm64", rfl⟩
  | x86_64 => exact ⟨"x86-64", rfl⟩

/-! ## Spelling -/

/-- A character of the names of features and states. -/
def nameChar (c : Char) : Bool := Processor.featureChar c || Processor.stateChar c

theorem toNat_lt_of_nameChar {c : Char} (name : nameChar c = true) : c.toNat < 128 := by
  have upper : c.isUpper = decide ('A'.val ≤ c.val ∧ c.val ≤ 'Z'.val) := rfl
  have lower : c.isLower = (decide ('a'.val ≤ c.val) && decide (c.val ≤ 'z'.val)) := rfl
  simp only [nameChar, Processor.featureChar, Processor.stateChar, upper, lower, Char.isDigit,
    Bool.or_eq_true, Bool.and_eq_true, decide_eq_true_eq, ge_iff_le, UInt32.le_iff_toNat_le] at name
  change c.val.toNat < 128
  rcases name with ((((⟨_, high⟩ | ⟨_, high⟩) | rfl) | rfl) | rfl) |
    ((((⟨_, high⟩ | ⟨_, high⟩) | rfl) | rfl) | rfl)
  all_goals first | decide | exact lt_of_le_of_lt high (by decide)

/-- A fact about the characters of names is checked on their codes. -/
theorem forall_nameChar {p : Char → Prop}
    (all : ∀ code < 128, nameChar (Char.ofNat code) = true → p (Char.ofNat code)) {c : Char}
    (name : nameChar c = true) : p c := by
  have named := all c.toNat (toNat_lt_of_nameChar name)
  rw [Char.ofNat_toNat] at named
  exact named name

theorem nameChar_of_stateChar {c : Char} (name : Processor.stateChar c = true) :
    nameChar c = true := by
  rw [nameChar, name, Bool.or_true]

theorem nameChar_of_featureChar {c : Char} (name : Processor.featureChar c = true) :
    nameChar c = true := by
  rw [nameChar, name, Bool.true_or]

theorem normalizeChar_of_stateChar {c : Char} (name : Processor.stateChar c = true)
    (plain : c ≠ '_') : normalizeChar c = c :=
  forall_nameChar
    (p := fun c => Processor.stateChar c = true → c ≠ '_' → normalizeChar c = c) (by decide)
    (nameChar_of_stateChar name) name plain

theorem normalizeChar_ne {c : Char} (name : nameChar c = true) : normalizeChar c ≠ '_' :=
  forall_nameChar (p := fun c => normalizeChar c ≠ '_') (by decide) name

theorem capabilityNameChar_normalizeChar {c : Char} (name : nameChar c = true) :
    capabilityNameChar (normalizeChar c) = true :=
  forall_nameChar (p := fun c => capabilityNameChar (normalizeChar c) = true) (by decide) name

theorem stateChar_of_capabilityNameChar {c : Char} (name : capabilityNameChar c = true) :
    Processor.stateChar c = true ∧ c ≠ '_' := by
  simp only [capabilityNameChar, Bool.or_eq_true, decide_eq_true_eq] at name
  constructor
  · simp only [Processor.stateChar, Bool.or_eq_true, decide_eq_true_eq]
    tauto
  · rintro rfl
    revert name
    decide

theorem normalizeChar_restoreChar {c : Char} (name : capabilityNameChar c = true) :
    normalizeChar (restoreChar c) = c :=
  forall_nameChar (p := fun c => capabilityNameChar c = true → normalizeChar (restoreChar c) = c)
    (by decide) (nameChar_of_stateChar (stateChar_of_capabilityNameChar name).1) name

/-- The name has a spelling in a capability. -/
def Spellable (name : String) : Prop :=
  (normalizeName name).isEmpty = false ∧ (normalizeName name).utf8ByteSize ≤ 96 ∧
    (normalizeName name).toList.all capabilityNameChar = true

theorem normalizeProcessorName_eq_ok {name spelled : String} :
    normalizeProcessorName name = .ok spelled ↔
      Spellable name ∧ normalizeName name = spelled := by
  simp only [normalizeProcessorName, bind_eq_ok, rejectIf_eq_ok, pure_eq_ok, Spellable, not_or,
    Bool.not_eq_true, Bool.not_eq_false, not_lt, exists_const, and_assoc, gt_iff_lt]

theorem collect_normalizeProcessorName_eq_ok {names spelled : List String} :
    collect names normalizeProcessorName = .ok spelled ↔
      (∀ name ∈ names, Spellable name) ∧ names.map normalizeName = spelled := by
  rw [collect_eq_ok]
  simp only [normalizeProcessorName_eq_ok]
  constructor
  · intro paired
    induction paired with
    | nil => exact ⟨nofun, rfl⟩
    | cons first rest ih =>
        refine ⟨List.forall_mem_cons.mpr ⟨first.1, ih.1⟩, ?_⟩
        rw [List.map_cons, first.2, ih.2]
  · rintro ⟨spellable, rfl⟩
    rw [List.forall₂_map_right_iff, List.forall₂_same]
    exact fun name member => ⟨spellable name member, rfl⟩

/-- Names of states are spelled as they are, but for underscores. -/
theorem normalizeName_of_state {state : String}
    (chars : state.toList.all Processor.stateChar = true) (plain : '_' ∉ state.toList) :
    normalizeName state = state := by
  apply String.toList_injective
  rw [normalizeName, String.toList_ofList]
  refine (List.map_congr_left fun c member => ?_).trans (List.map_id _)
  refine normalizeChar_of_stateChar (List.all_eq_true.mp chars c member) ?_
  rintro rfl
  exact plain member

/-- No spelling has an underscore. -/
theorem underscore_not_mem_normalizeName {name : String}
    (chars : name.toList.all nameChar = true) : '_' ∉ (normalizeName name).toList := by
  rw [normalizeName, String.toList_ofList, List.mem_map]
  rintro ⟨c, member, same⟩
  exact normalizeChar_ne (List.all_eq_true.mp chars c member) same

theorem normalizeName_restoreName {suffix : String}
    (chars : suffix.toList.all capabilityNameChar = true) :
    normalizeName (restoreName suffix) = suffix := by
  apply String.toList_injective
  rw [normalizeName, restoreName, String.toList_ofList, String.toList_ofList, List.map_map]
  refine (List.map_congr_left fun c member => ?_).trans (List.map_id _)
  exact normalizeChar_restoreChar (List.all_eq_true.mp chars c member)

/-! ## What a requirement names -/

variable [Primitives]

/-- The capabilities of a requirement whose names can be spelled. -/
def boundCapabilities (requirement : ProcessorRequirement) : List String :=
  sortDedup (requirement.architecture.name ::
    ("processor.requirement." ++ digestSuffix (Digest.of (Canonical.text requirement))) ::
    ((requirement.instructionFeatures.map normalizeName).map ("processor.feature." ++ ·) ++
      (requirement.osEnabledStates.map normalizeName).map ("processor.os-state." ++ ·) ++
      ((requirement.identity.map encodeIdentityToken).map ("processor.identity." ++ ·)).toList))

/-- The names of a requirement can be spelled. -/
structure Nameable (requirement : ProcessorRequirement) : Prop where
  feature : ∀ feature ∈ requirement.instructionFeatures, Spellable feature
  state : ∀ state ∈ requirement.osEnabledStates, Spellable state

theorem processorRequirementCapabilities_eq_ok {requirement : ProcessorRequirement}
    {capabilities : List String} :
    processorRequirementCapabilities requirement = .ok capabilities ↔
      requirement.Valid ∧ Nameable requirement ∧ boundCapabilities requirement = capabilities := by
  simp only [processorRequirementCapabilities, bind_eq_ok, ProcessorRequirement.digest,
    Except.ok.injEq, collect_normalizeProcessorName_eq_ok, pure_eq_ok]
  constructor
  · rintro ⟨_, valid, _, rfl, _, ⟨features, rfl⟩, _, ⟨states, rfl⟩, rfl⟩
    exact ⟨ProcessorRequirement.validate_eq_ok.mp valid, ⟨features, states⟩, rfl⟩
  · rintro ⟨valid, nameable, rfl⟩
    exact ⟨(), ProcessorRequirement.validate_eq_ok.mpr valid, _, rfl, _, ⟨nameable.feature, rfl⟩,
      _, ⟨nameable.state, rfl⟩, rfl⟩

/-- A requirement names a suffix of a kind. -/
def ProcessorRequirement.NamesSuffix (requirement : ProcessorRequirement) :
    CapabilityKind → String → Prop
  | .architecture, suffix =>
      requirement.architecture.name = CapabilityKind.architecture.lead ++ suffix
  | .feature, suffix => ∃ feature ∈ requirement.instructionFeatures, normalizeName feature = suffix
  | .identity, suffix => ∃ identity ∈ requirement.identity, encodeIdentityToken identity = suffix
  | .osState, suffix => ∃ state ∈ requirement.osEnabledStates, normalizeName state = suffix
  | .reduction, _ => False
  | .requirement, suffix => digestSuffix (Digest.of (Canonical.text requirement)) = suffix

theorem lead_append_mem_boundCapabilities {requirement : ProcessorRequirement}
    {kind : CapabilityKind} {suffix : String} :
    kind.lead ++ suffix ∈ boundCapabilities requirement ↔ requirement.NamesSuffix kind suffix := by
  obtain ⟨name, architecture⟩ := requirement.architecture.name_eq
  have features : ∀ {text}, text ∈ (requirement.instructionFeatures.map normalizeName).map
      (CapabilityKind.feature.lead ++ ·) ↔
        ∃ feature ∈ requirement.instructionFeatures,
          CapabilityKind.feature.lead ++ normalizeName feature = text := by
    simp
  have states : ∀ {text}, text ∈ (requirement.osEnabledStates.map normalizeName).map
      (CapabilityKind.osState.lead ++ ·) ↔
        ∃ state ∈ requirement.osEnabledStates,
          CapabilityKind.osState.lead ++ normalizeName state = text := by
    simp
  have identity : ∀ {text}, text ∈ ((requirement.identity.map encodeIdentityToken).map
      (CapabilityKind.identity.lead ++ ·)).toList ↔
        ∃ identity ∈ requirement.identity,
          CapabilityKind.identity.lead ++ encodeIdentityToken identity = text := by
    simp
  have listed : boundCapabilities requirement = sortDedup (requirement.architecture.name ::
      (CapabilityKind.requirement.lead ++ digestSuffix (Digest.of (Canonical.text requirement))) ::
      ((requirement.instructionFeatures.map normalizeName).map (CapabilityKind.feature.lead ++ ·) ++
        (requirement.osEnabledStates.map normalizeName).map (CapabilityKind.osState.lead ++ ·) ++
        ((requirement.identity.map encodeIdentityToken).map
          (CapabilityKind.identity.lead ++ ·)).toList)) := rfl
  rw [listed, mem_sortDedup, List.mem_cons, List.mem_cons, List.mem_append, List.mem_append,
    features, states, identity, architecture]
  simp only [CapabilityKind.lead_append_inj]
  cases kind <;> simp [ProcessorRequirement.NamesSuffix, architecture, eq_comm]

/-- Every capability of a requirement has a kind. -/
theorem exists_of_mem_boundCapabilities {requirement : ProcessorRequirement} {capability : String}
    (member : capability ∈ boundCapabilities requirement) :
    ∃ kind : CapabilityKind, ∃ suffix, kind ≠ .reduction ∧ capability = kind.lead ++ suffix := by
  rw [boundCapabilities, mem_sortDedup, List.mem_cons, List.mem_cons, List.mem_append,
    List.mem_append] at member
  rcases member with rfl | rfl | (feature | state) | identity
  · obtain ⟨name, same⟩ := requirement.architecture.name_eq
    exact ⟨.architecture, name, nofun, same⟩
  · exact ⟨.requirement, _, nofun, rfl⟩
  · obtain ⟨suffix, -, rfl⟩ := List.mem_map.mp feature
    exact ⟨.feature, suffix, nofun, rfl⟩
  · obtain ⟨suffix, -, rfl⟩ := List.mem_map.mp state
    exact ⟨.osState, suffix, nofun, rfl⟩
  · obtain ⟨suffix, -, rfl⟩ := Option.map_eq_some_iff.mp (Option.mem_toList.mp identity)
    exact ⟨.identity, suffix, nofun, rfl⟩

end Reproit
