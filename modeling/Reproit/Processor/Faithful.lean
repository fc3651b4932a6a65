/-
# Faithful capabilities

The capabilities of a valid requirement against the grammar of capsules, the format that a
replay checks, and the names of the requirement.  The validator of requirements admits longer
names and identities than the grammar, and names that the spelling confuses; the exact
conditions are bounds on lengths and on the marks in names.
-/

import Reproit.Processor.Hosts
import Reproit.Processor.Spelling
import Reproit.Processor.Tokens

namespace Reproit

/-! ## Conditions on a requirement -/

/-- The bytes of the token of an identity. -/
def ProcessorIdentity.tokenBytes : ProcessorIdentity → Nat
  | .arm identity => 7 + identity.implementer.utf8ByteSize + identity.variant.utf8ByteSize +
      identity.part.utf8ByteSize + identity.revision.utf8ByteSize
  | .x86 identity => 8 + identity.vendor.utf8ByteSize + (toString identity.family).utf8ByteSize +
      (toString identity.model).utf8ByteSize + (toString identity.stepping).utf8ByteSize +
      identity.microcode.utf8ByteSize

namespace ProcessorRequirement

/-- The names and the identity of a requirement fit into capabilities. -/
structure Short (requirement : ProcessorRequirement) : Prop where
  feature : ∀ feature ∈ requirement.instructionFeatures, feature.utf8ByteSize ≤ 96
  state : ∀ state ∈ requirement.osEnabledStates, state.utf8ByteSize ≤ 96
  identity : ∀ identity ∈ requirement.identity, identity.tokenBytes ≤ 109

/-- No two names differ in underscores and hyphens only. -/
def Separate (names : List String) : Prop :=
  ∀ first ∈ names, ∀ second ∈ names, hyphenate first = hyphenate second → first = second

end ProcessorRequirement

theorem utf8ByteSize_encodeIdentityToken (identity : ProcessorIdentity) :
    (encodeIdentityToken identity).utf8ByteSize = identity.tokenBytes := by
  have leads : "arm".utf8ByteSize = 3 ∧ "x86".utf8ByteSize = 3 ∧ ".".utf8ByteSize = 1 := by decide
  cases identity with
  | arm identity =>
      simp only [encodeIdentityToken, String.intercalate_cons_cons, String.intercalate_singleton,
        String.utf8ByteSize_append, leads, ProcessorIdentity.tokenBytes]
      omega
  | x86 identity =>
      simp only [encodeIdentityToken, String.intercalate_cons_cons, String.intercalate_singleton,
        String.utf8ByteSize_append, leads, ProcessorIdentity.tokenBytes]
      omega

variable {requirement other : ProcessorRequirement}

theorem all_of_validLowerIdentity {state : String}
    (valid : Processor.validLowerIdentity state = true) :
    state.toList.all Processor.stateChar = true ∧ state.isEmpty = false := by
  rw [Processor.validLowerIdentity, Bool.and_eq_true, Bool.and_eq_true] at valid
  refine ⟨valid.2, ?_⟩
  rw [String.isEmpty_eq_false_iff]
  rintro rfl
  exact absurd valid.1.2 (by decide)

/-- The names of a valid requirement can be spelled when they are short. -/
theorem ValidView.nameable_iff (valid : requirement.Valid) :
    Nameable requirement ↔
      (∀ feature ∈ requirement.instructionFeatures, feature.utf8ByteSize ≤ 96) ∧
        ∀ state ∈ requirement.osEnabledStates, state.utf8ByteSize ≤ 96 := by
  have feature : ∀ feature ∈ requirement.instructionFeatures,
      (Spellable feature ↔ feature.utf8ByteSize ≤ 96) := by
    intro feature listed
    obtain ⟨some, -, all⟩ := valid.feature feature listed
    exact alphabet_feature.spellable_iff all some
  have state : ∀ state ∈ requirement.osEnabledStates,
      (Spellable state ↔ state.utf8ByteSize ≤ 96) := by
    intro state listed
    obtain ⟨all, some⟩ := all_of_validLowerIdentity (valid.state state listed)
    exact alphabet_state.spellable_iff all some
  constructor
  · intro nameable
    exact ⟨fun name listed => (feature name listed).mp (nameable.feature name listed),
      fun name listed => (state name listed).mp (nameable.state name listed)⟩
  · intro ⟨features, states⟩
    exact ⟨fun name listed => (feature name listed).mpr (features name listed),
      fun name listed => (state name listed).mpr (states name listed)⟩

variable [Primitives]

/-! ## The strings of the list -/

omit [Primitives] in
theorem suffix_identity {identity : ProcessorIdentity} (valid : ValidToken identity) :
    Suffix .identity (encodeIdentityToken identity) ↔ identity.tokenBytes ≤ 109 := by
  have lead : CapabilityKind.identity.lead.utf8ByteSize = 19 := by decide
  have chars : (encodeIdentityToken identity).toList.all capabilityNameChar = true := by
    rw [List.all_eq_true]
    intro c member
    have held := List.all_eq_true.mp (all_encodeIdentityToken valid) c member
    simp only [validIdentityChar, capabilityNameChar, Bool.or_eq_true, decide_eq_true_eq] at held ⊢
    tauto
  constructor
  · intro fits
    have size := fits.size
    rw [lead, utf8ByteSize_encodeIdentityToken] at size
    omega
  · intro short
    refine ⟨chars, ?_⟩
    rw [lead, utf8ByteSize_encodeIdentityToken]
    omega

/-- Every capability of a requirement whose names can be spelled has the format that a replay
checks. -/
theorem validCapabilityBinding_of_mem (valid : requirement.Valid) (nameable : Nameable requirement)
    {capability : String} (member : capability ∈ boundCapabilities requirement) :
    validCapabilityBinding capability = true := by
  have name : ∀ {name : String}, Spellable name → validNameSuffix (normalizeName name) = true := by
    intro name ⟨nonempty, short, chars⟩
    rw [validNameSuffix, nonempty, chars, decide_eq_true (short.trans (by decide))]
    rfl
  obtain ⟨kind, suffix, notReduction, rfl⟩ := exists_of_mem_boundCapabilities member
  have names := lead_append_mem_boundCapabilities.mp member
  cases kind with
  | architecture =>
      have plain : ∀ architecture : ProcessorArchitecture,
          validCapabilityBinding architecture.name = true := by
        intro architecture
        cases architecture <;> decide
      exact names ▸ plain requirement.architecture
  | feature =>
      obtain ⟨feature, listed, rfl⟩ := names
      change validCapabilityBinding ("processor.feature." ++ _) = true
      rw [validCapabilityBinding, stripStart_append_of_clash (by decide),
        stripStart_append_of_clash (by decide), stripStart_append_of_clash (by decide),
        stripStart_append]
      exact name (nameable.feature feature listed)
  | osState =>
      obtain ⟨state, listed, rfl⟩ := names
      change validCapabilityBinding ("processor.os-state." ++ _) = true
      rw [validCapabilityBinding, stripStart_append_of_clash (by decide),
        stripStart_append_of_clash (by decide), stripStart_append_of_clash (by decide),
        stripStart_append_of_clash (by decide), stripStart_append]
      exact name (nameable.state state listed)
  | identity =>
      obtain ⟨identity, given, rfl⟩ := names
      change validCapabilityBinding ("processor.identity." ++ _) = true
      rw [validCapabilityBinding, stripStart_append_of_clash (by decide), stripStart_append]
      change (decodeIdentityToken (encodeIdentityToken identity)).isSome = true
      rw [decodeIdentityToken_encodeIdentityToken (valid.identity identity given).validToken]
      rfl
  | reduction => exact absurd rfl notReduction
  | requirement =>
      obtain rfl := names
      exact (binding_of_digest _ (.inl rfl)).2

/-- The capabilities of such a requirement satisfy the grammar when the identity is short. -/
theorem grammatical_iff (valid : requirement.Valid) (nameable : Nameable requirement) :
    (∀ capability ∈ boundCapabilities requirement, Grammatical capability) ↔
      ∀ identity ∈ requirement.identity, identity.tokenBytes ≤ 109 := by
  constructor
  · intro grammar identity given
    have listed : CapabilityKind.identity.lead ++ encodeIdentityToken identity ∈
        boundCapabilities requirement :=
      lead_append_mem_boundCapabilities.mpr ⟨identity, given, rfl⟩
    exact (suffix_identity (valid.identity identity given).validToken).mp
      (Suffix.of_grammatical (grammar _ listed))
  · intro short capability member
    obtain ⟨kind, suffix, notReduction, rfl⟩ := exists_of_mem_boundCapabilities member
    have names := lead_append_mem_boundCapabilities.mp member
    cases kind with
    | architecture =>
        have plain : ∀ architecture : ProcessorArchitecture,
            Grammatical architecture.name := by
          intro architecture
          unfold Grammatical
          cases architecture <;> decide
        exact names ▸ plain requirement.architecture
    | feature =>
        obtain ⟨feature, listed, rfl⟩ := names
        exact (nameable.feature feature listed).suffix.grammatical
    | osState =>
        obtain ⟨state, listed, rfl⟩ := names
        exact (nameable.state state listed).suffix.grammatical
    | identity =>
        obtain ⟨identity, given, rfl⟩ := names
        exact ((suffix_identity (valid.identity identity given).validToken).mpr
          (short identity given)).grammatical
    | reduction => exact absurd rfl notReduction
    | requirement =>
        obtain rfl := names
        exact (suffix_digestSuffix _).grammatical

/-! ## The names behind a list -/

/-- The names that a requirement lists under a kind. -/
def ProcessorRequirement.named (requirement : ProcessorRequirement) : CapabilityKind → List String
  | .feature => requirement.instructionFeatures
  | .osState => requirement.osEnabledStates
  | _ => []

/-- The capabilities of one kind. -/
def ofKind (kind : CapabilityKind) (capabilities : List String) : List String :=
  capabilities.filter fun capability => startsWith capability kind.lead

/-- The kinds that list names, with the letters of the names. -/
inductive Listing : CapabilityKind → (Char → Bool) → Prop
  | feature : Listing .feature Processor.featureChar
  | osState : Listing .osState Processor.stateChar

variable {kind : CapabilityKind} {letter : Char → Bool}

omit [Primitives] in
theorem Listing.alphabet (listing : Listing kind letter) : Alphabet letter := by
  cases listing with
  | feature => exact alphabet_feature
  | osState => exact alphabet_state

omit [Primitives] in
theorem Listing.letters (listing : Listing kind letter) (valid : requirement.Valid) :
    ∀ name ∈ requirement.named kind, name.toList.all letter = true := by
  cases listing with
  | feature => exact fun name listed => (valid.feature name listed).2.2
  | osState => exact fun name listed => (all_of_validLowerIdentity (valid.state name listed)).1

omit [Primitives] in
theorem Listing.sorted (listing : Listing kind letter) (valid : requirement.Valid) :
    (requirement.named kind).Pairwise (· < ·) := by
  cases listing with
  | feature => exact valid.featuresSorted
  | osState => exact valid.statesSorted

theorem Listing.mem_ofKind (listing : Listing kind letter) (suffix : String) :
    kind.lead ++ suffix ∈ ofKind kind (boundCapabilities requirement) ↔
      ∃ name ∈ requirement.named kind, normalizeName name = suffix := by
  rw [ofKind, List.mem_filter, lead_append_mem_boundCapabilities, startsWith_append]
  cases listing with
  | feature => exact and_iff_left rfl
  | osState => exact and_iff_left rfl

theorem Listing.ofKind_boundCapabilities (listing : Listing kind letter) :
    ofKind kind (boundCapabilities requirement) =
      sortDedup ((requirement.named kind).map fun name => kind.lead ++ normalizeName name) := by
  have sorted : (ofKind kind (boundCapabilities requirement)).Pairwise (· < ·) :=
    (pairwise_sortDedup _).filter _
  rw [← sortDedup_of_pairwise sorted]
  apply sortDedup_congr
  intro capability
  rw [List.mem_map]
  constructor
  · intro member
    obtain ⟨suffix, rfl⟩ := startsWith_iff.mp (List.mem_filter.mp member).2
    obtain ⟨name, listed, rfl⟩ := (listing.mem_ofKind suffix).mp member
    exact ⟨name, listed, rfl⟩
  · rintro ⟨name, listed, rfl⟩
    exact (listing.mem_ofKind _).mpr ⟨name, listed, rfl⟩

/-- There is a capability for each name exactly when the names are separate. -/
theorem Listing.length_ofKind_iff (listing : Listing kind letter) (valid : requirement.Valid) :
    (ofKind kind (boundCapabilities requirement)).length = (requirement.named kind).length ↔
      ProcessorRequirement.Separate (requirement.named kind) := by
  have distinct : (requirement.named kind).Nodup := (listing.sorted valid).imp ne_of_lt
  have letters := listing.letters valid
  have whole : (requirement.named kind).length =
      ((requirement.named kind).map fun name => kind.lead ++ normalizeName name).length :=
    (List.length_map _).symm
  rw [listing.ofKind_boundCapabilities, whole, length_sortDedup_eq_iff,
    List.nodup_map_iff_inj_on distinct]
  have same : ∀ first ∈ requirement.named kind, ∀ second ∈ requirement.named kind,
      (kind.lead ++ normalizeName first = kind.lead ++ normalizeName second ↔
        hyphenate first = hyphenate second) := by
    intro first member second among
    rw [String.append_right_inj]
    exact listing.alphabet.normalizeName_eq_iff (letters first member) (letters second among)
  constructor
  · intro injective first member second among equal
    exact injective first member second among ((same first member second among).mpr equal)
  · intro separate first member second among equal
    exact separate first member second among ((same first member second among).mp equal)

/-- Unmarked names are read off the capabilities of their kind. -/
theorem Listing.named_eq (listing : Listing kind letter) (valid : requirement.Valid)
    (validOther : other.Valid) (unmarked : ∀ name ∈ requirement.named kind, Unmarked name)
    (same : ofKind kind (boundCapabilities other) = ofKind kind (boundCapabilities requirement)) :
    other.named kind = requirement.named kind := by
  have letters := listing.letters valid
  have lettersOther := listing.letters validOther
  apply List.Pairwise.eq_of_mem_iff (listing.sorted validOther) (listing.sorted valid)
  intro name
  constructor
  · intro listed
    have member := (listing.mem_ofKind (normalizeName name)).mpr ⟨name, listed, rfl⟩
    rw [same] at member
    obtain ⟨first, among, spelled⟩ := (listing.mem_ofKind _).mp member
    rw [← listing.alphabet.eq_of_unmarked (unmarked first among) (letters first among)
      (lettersOther name listed) spelled]
    exact among
  · intro listed
    have member := (listing.mem_ofKind (normalizeName name)).mpr ⟨name, listed, rfl⟩
    rw [← same] at member
    obtain ⟨first, among, spelled⟩ := (listing.mem_ofKind _).mp member
    rw [listing.alphabet.eq_of_unmarked (unmarked name listed) (letters name listed)
      (lettersOther first among) spelled.symm]
    exact among

/-! ## A requirement with the marks exchanged -/

def swappedNames (names : List String) : List String := sortDedup (names.map swapMarks)

def ProcessorRequirement.swapped (requirement : ProcessorRequirement) : ProcessorRequirement :=
  { requirement with
    instructionFeatures := swappedNames requirement.instructionFeatures
    osEnabledStates := swappedNames requirement.osEnabledStates }

omit [Primitives] in
theorem mem_swappedNames {names : List String} {name : String} :
    name ∈ swappedNames names ↔ ∃ first ∈ names, swapMarks first = name := by
  rw [swappedNames, mem_sortDedup, List.mem_map]

omit [Primitives] in
theorem isEmpty_swapMarks {name : String} (nonempty : name.isEmpty = false) :
    (swapMarks name).isEmpty = false := by
  rw [String.isEmpty_eq_false_iff] at nonempty ⊢
  intro empty
  have lists := congrArg String.toList empty
  rw [swapMarks, String.toList_ofList] at lists
  exact nonempty (String.toList_injective (List.map_eq_nil_iff.mp lists))

omit [Primitives] in
theorem validLowerIdentity_swapMarks {state : String}
    (valid : Processor.validLowerIdentity state = true) :
    Processor.validLowerIdentity (swapMarks state) = true := by
  have all := (all_of_validLowerIdentity valid).1
  rw [Processor.validLowerIdentity, Bool.and_eq_true, Bool.and_eq_true] at valid ⊢
  refine ⟨⟨?_, ?_⟩, alphabet_state.all_swapMarks all⟩
  · rw [alphabet_state.utf8ByteSize_swapMarks all]
    exact valid.1.1
  · have head := valid.1.2
    rw [swapMarks, String.toList_ofList, List.head?_map]
    cases first : state.toList.head? with
    | none =>
        rw [first] at head
        cases head
    | some c =>
        rw [first] at head
        have lower : c.isLower = true := head
        have plain : swapChar c = c := by
          by_cases low : c = '_'
          · subst low
            cases lower
          · by_cases high : c = '-'
            · subst high
              cases lower
            · rw [swapChar, if_neg low, if_neg high]
        change (swapChar c).isLower = true
        rw [plain, lower]

omit [Primitives] in
theorem ValidView.swapped (valid : requirement.Valid) : requirement.swapped.Valid := by
  have length : ∀ names : List String, (swappedNames names).length ≤ names.length := fun names =>
    (length_sortDedup_le _).trans_eq (List.length_map _)
  constructor
  case abi => exact valid.abi
  case featuresLength => exact (length _).trans valid.featuresLength
  case statesLength => exact (length _).trans valid.statesLength
  case feature =>
    intro name listed
    obtain ⟨feature, among, rfl⟩ := mem_swappedNames.mp listed
    obtain ⟨nonempty, size, all⟩ := valid.feature feature among
    refine ⟨isEmpty_swapMarks nonempty, ?_, alphabet_feature.all_swapMarks all⟩
    rwa [alphabet_feature.utf8ByteSize_swapMarks all]
  case state =>
    intro name listed
    obtain ⟨state, among, rfl⟩ := mem_swappedNames.mp listed
    exact validLowerIdentity_swapMarks (valid.state state among)
  case featuresSorted => exact pairwise_sortDedup _
  case statesSorted => exact pairwise_sortDedup _
  case identity => exact valid.identity

omit [Primitives] in
theorem Nameable.swapped (nameable : Nameable requirement) : Nameable requirement.swapped := by
  have spellable : ∀ {name : String}, Spellable name → Spellable (swapMarks name) := by
    intro name held
    rwa [Spellable, normalizeName_swapMarks]
  constructor
  case feature =>
    intro name listed
    obtain ⟨feature, among, rfl⟩ := mem_swappedNames.mp listed
    exact spellable (nameable.feature feature among)
  case state =>
    intro name listed
    obtain ⟨state, among, rfl⟩ := mem_swappedNames.mp listed
    exact spellable (nameable.state state among)

omit [Primitives] in
theorem Listing.named_swapped (listing : Listing kind letter) :
    requirement.swapped.named kind = swappedNames (requirement.named kind) := by
  cases listing <;> rfl

/-- The exchange of the marks does not show in the capabilities of names. -/
theorem Listing.ofKind_swapped (listing : Listing kind letter) :
    ofKind kind (boundCapabilities requirement.swapped) =
      ofKind kind (boundCapabilities requirement) := by
  rw [listing.ofKind_boundCapabilities, listing.ofKind_boundCapabilities, listing.named_swapped]
  apply sortDedup_congr
  intro capability
  rw [List.mem_map, List.mem_map]
  constructor
  · rintro ⟨name, listed, rfl⟩
    obtain ⟨first, among, rfl⟩ := mem_swappedNames.mp listed
    exact ⟨first, among, by rw [normalizeName_swapMarks]⟩
  · rintro ⟨name, listed, rfl⟩
    exact ⟨swapMarks name, mem_swappedNames.mpr ⟨name, listed, rfl⟩, by
      rw [normalizeName_swapMarks]⟩

omit [Primitives] in
/-- Separate names that are not changed by the exchange have no marks. -/
theorem Listing.unmarked_of_swapped (listing : Listing kind letter)
    (separate : ProcessorRequirement.Separate (requirement.named kind))
    (same : requirement.swapped.named kind = requirement.named kind) :
    ∀ name ∈ requirement.named kind, Unmarked name := by
  intro name listed
  by_contra marked
  have member : swapMarks name ∈ requirement.named kind := by
    rw [← same, listing.named_swapped]
    exact mem_swappedNames.mpr ⟨name, listed, rfl⟩
  exact swapMarks_ne marked (separate _ member _ listed (hyphenate_swapMarks name))

/-! ## Faithful lists -/

/-- The list is computed, each of its strings is accepted by capsules and by replays, and it has
a string for each name. -/
structure FaithfulCapabilities (requirement : ProcessorRequirement) (capabilities : List String) :
    Prop where
  computed : processorRequirementCapabilities requirement = .ok capabilities
  grammar : ∀ capability ∈ capabilities, Grammatical capability
  bindings : ∀ capability ∈ capabilities, validCapabilityBinding capability = true
  features : (ofKind .feature capabilities).length = requirement.instructionFeatures.length
  states : (ofKind .osState capabilities).length = requirement.osEnabledStates.length

/-- No other valid requirement with the same feature and state capabilities has other features
or states. -/
def DeterminesNames (requirement : ProcessorRequirement) (capabilities : List String) : Prop :=
  ∀ other : ProcessorRequirement, other.validate = .ok () →
    ∀ others, processorRequirementCapabilities other = .ok others →
      ofKind .feature others = ofKind .feature capabilities →
        ofKind .osState others = ofKind .osState capabilities →
          other.instructionFeatures = requirement.instructionFeatures ∧
            other.osEnabledStates = requirement.osEnabledStates

theorem faithful_iff (valid : requirement.Valid) {capabilities : List String} :
    FaithfulCapabilities requirement capabilities ↔
      boundCapabilities requirement = capabilities ∧ requirement.Short ∧
        ProcessorRequirement.Separate requirement.instructionFeatures ∧
          ProcessorRequirement.Separate requirement.osEnabledStates := by
  constructor
  · intro faithful
    obtain ⟨-, nameable, rfl⟩ := processorRequirementCapabilities_eq_ok.mp faithful.computed
    obtain ⟨features, states⟩ := valid.nameable_iff.mp nameable
    exact ⟨rfl, ⟨features, states, (grammatical_iff valid nameable).mp faithful.grammar⟩,
      (Listing.feature.length_ofKind_iff valid).mp faithful.features,
      (Listing.osState.length_ofKind_iff valid).mp faithful.states⟩
  · rintro ⟨rfl, short, features, states⟩
    have nameable := valid.nameable_iff.mpr ⟨short.feature, short.state⟩
    constructor
    case computed => exact processorRequirementCapabilities_eq_ok.mpr ⟨valid, nameable, rfl⟩
    case grammar => exact (grammatical_iff valid nameable).mpr short.identity
    case bindings => exact fun _ member => validCapabilityBinding_of_mem valid nameable member
    case features => exact (Listing.feature.length_ofKind_iff valid).mpr features
    case states => exact (Listing.osState.length_ofKind_iff valid).mpr states

omit [Primitives] in
theorem separate_of_unmarked {names : List String} (unmarked : ∀ name ∈ names, Unmarked name) :
    ProcessorRequirement.Separate names := by
  intro first member second among same
  rwa [hyphenate_of_unmarked (unmarked first member),
    hyphenate_of_unmarked (unmarked second among)] at same

/-- A valid requirement has faithful capabilities exactly when its names and its identity are
short and no two names differ in marks only.  They determine its names exactly when these have
no marks at all. -/
theorem faithful_capabilities {requirement : ProcessorRequirement}
    (valid : requirement.validate = .ok ()) :
    ((∃ capabilities, FaithfulCapabilities requirement capabilities) ↔
      requirement.Short ∧ ProcessorRequirement.Separate requirement.instructionFeatures ∧
        ProcessorRequirement.Separate requirement.osEnabledStates) ∧
    ((∃ capabilities, FaithfulCapabilities requirement capabilities ∧
        DeterminesNames requirement capabilities) ↔
      requirement.Short ∧ (∀ feature ∈ requirement.instructionFeatures, Unmarked feature) ∧
        ∀ state ∈ requirement.osEnabledStates, Unmarked state) := by
  have view := ProcessorRequirement.validate_eq_ok.mp valid
  constructor
  · constructor
    · intro ⟨capabilities, faithful⟩
      exact ((faithful_iff view).mp faithful).2
    · intro held
      exact ⟨_, (faithful_iff view).mpr ⟨rfl, held⟩⟩
  · constructor
    · intro ⟨capabilities, faithful, determines⟩
      obtain ⟨rfl, short, features, states⟩ := (faithful_iff view).mp faithful
      have nameable := view.nameable_iff.mpr ⟨short.feature, short.state⟩
      have same := determines requirement.swapped
        (ProcessorRequirement.validate_eq_ok.mpr view.swapped) _
        (processorRequirementCapabilities_eq_ok.mpr ⟨view.swapped, nameable.swapped, rfl⟩)
        Listing.feature.ofKind_swapped Listing.osState.ofKind_swapped
      exact ⟨short, Listing.feature.unmarked_of_swapped features same.1,
        Listing.osState.unmarked_of_swapped states same.2⟩
    · intro ⟨short, features, states⟩
      refine ⟨_, (faithful_iff view).mpr ⟨rfl, short, separate_of_unmarked features,
        separate_of_unmarked states⟩, ?_⟩
      intro other validOther others computed sameFeatures sameStates
      obtain ⟨viewOther, -, rfl⟩ := processorRequirementCapabilities_eq_ok.mp computed
      exact ⟨Listing.feature.named_eq view viewOther features sameFeatures,
        Listing.osState.named_eq view viewOther states sameStates⟩

omit [Primitives] in
theorem faithful_capabilities_sample :
    letI := Backend.Sample.marked
    ∃ capabilities, FaithfulCapabilities Backend.Sample.requirement capabilities ∧
      DeterminesNames Backend.Sample.requirement capabilities := by
  let _ := Backend.Sample.marked
  apply (faithful_capabilities Backend.Sample.validate_requirement).2.mpr
  refine ⟨⟨?_, ?_, nofun⟩, ?_, ?_⟩
  · intro feature listed
    obtain rfl := List.mem_singleton.mp listed
    decide
  · intro state listed
    obtain rfl := List.mem_singleton.mp listed
    decide
  · intro feature listed
    obtain rfl := List.mem_singleton.mp listed
    exact ⟨by decide, by decide⟩
  · intro state listed
    obtain rfl := List.mem_singleton.mp listed
    exact ⟨by decide, by decide⟩

/-- A requirement with two features that have one spelling. -/
def Backend.Sample.confused : ProcessorRequirement :=
  { Backend.Sample.requirement with instructionFeatures := ["A-B", "A_B"] }

omit [Primitives] in
theorem not_faithful_confused :
    letI := Backend.Sample.marked
    Backend.Sample.confused.validate = .ok () ∧
      ¬ ∃ capabilities, FaithfulCapabilities Backend.Sample.confused capabilities := by
  let _ := Backend.Sample.marked
  have below : "A-B" < "A_B" := String.lt_iff_toList_lt.mpr (by decide)
  have order : ["A-B", "A_B"].Pairwise (· < ·) :=
    .cons (fun _ listed => (List.mem_singleton.mp listed) ▸ below) (List.pairwise_singleton _ _)
  have valid : Backend.Sample.confused.validate = .ok () := by
    rw [ProcessorRequirement.validate_eq_ok]
    exact ⟨by decide, by decide, by decide, by decide, by decide, order, by decide, nofun⟩
  refine ⟨valid, ?_⟩
  rintro ⟨capabilities, faithful⟩
  obtain ⟨-, -, separate, -⟩ :=
    (faithful_iff (ProcessorRequirement.validate_eq_ok.mp valid)).mp faithful
  exact absurd (separate "A-B" (.head _) "A_B" (.tail _ (.head _)) (by decide)) (by decide)

end Reproit
