/-
# Captured processor views

What a capture lists of its processor is valid, is read back as an observation, and is
what the initial requirement of that observation names again.  The features and states
come from tables whose names have one spelling each.  The identity comes from the text
of the processor file, so its fields may be too long for a token, or spell a number in
another way than a token does.
-/

import Reproit.Processor.Honest

namespace Reproit

open Backend

/-! ## Fields of an identity -/

/-- The results of a map that never fails. -/
theorem of_mapM_eq_some {α β : Type} {f : α → Option β} {values : List α} {results : List β}
    (mapped : values.mapM f = some results) :
    results.length = values.length ∧ ∀ result ∈ results, ∃ value, f value = some result := by
  induction values generalizing results with
  | nil =>
      obtain rfl : [] = results := by simpa using mapped
      exact ⟨rfl, nofun⟩
  | cons value values ih =>
      simp only [List.mapM_cons, Option.bind_eq_bind, Option.bind_eq_some_iff, Option.pure_def,
        Option.some.injEq] at mapped
      obtain ⟨result, first, rest, others, rfl⟩ := mapped
      obtain ⟨length, found⟩ := ih others
      refine ⟨by rw [List.length_cons, List.length_cons, length], ?_⟩
      exact List.forall_mem_cons.mpr ⟨⟨value, first⟩, found⟩

/-- Every block has a value for each field. -/
theorem of_mem_identityBlocks {cpuinfo : List Char} {names : List String}
    {found : List (List (List Char))} (read : identityBlocks cpuinfo names = some found)
    {block : List (List Char)} (member : block ∈ found) :
    block.length = names.length ∧ ∀ value ∈ block, value ≠ [] := by
  simp only [identityBlocks, Option.bind_eq_bind, Option.bind_eq_some_iff] at read
  obtain ⟨every, blocks, read⟩ := read
  split_ifs at read
  obtain rfl := Option.some.inj read
  obtain ⟨text, fields⟩ := (of_mapM_eq_some blocks).2 block member
  obtain ⟨length, found⟩ := of_mapM_eq_some fields
  refine ⟨length, fun value inside => ?_⟩
  obtain ⟨name, given⟩ := found value inside
  simpa using (Option.filter_eq_some_iff.mp given).2

/-- The fields that the processors agree on are not empty, and can be read in a token. -/
structure AgreedValues (architecture : ProcessorArchitecture) (values : List String) : Prop where
  length : values.length = (identityFieldNames architecture).length
  nonempty : ∀ value ∈ values, value.isEmpty = false
  chars : ∀ value ∈ values, value.toList.all validIdentityChar = true

theorem agreedValues_of_eq_some {architecture : ProcessorArchitecture} {cpuinfo : List Char}
    {values : List String} (agreed : identityValues architecture cpuinfo = some values) :
    AgreedValues architecture values := by
  simp only [identityValues, Option.bind_eq_bind, Option.bind_eq_some_iff] at agreed
  obtain ⟨found, read, first, head, agreed⟩ := agreed
  split_ifs at agreed with differ chars
  obtain rfl := Option.some.inj agreed
  obtain ⟨length, nonempty⟩ := of_mem_identityBlocks read (List.mem_of_mem_head? head)
  refine ⟨by simpa using length, ?_, ?_⟩
  · intro value member
    obtain ⟨text, lower, rfl⟩ := List.mem_map.mp member
    obtain ⟨field, inside, rfl⟩ := List.mem_map.mp lower
    simpa [String.isEmpty_iff] using nonempty field inside
  · intro value member
    obtain ⟨text, lower, rfl⟩ := List.mem_map.mp member
    rw [String.toList_ofList]
    exact List.all_eq_true.mp chars text lower

/-! ## Tokens -/

def kindOf : ProcessorArchitecture → String
  | .arm64 => "arm"
  | .x86_64 => "x86"

/-- The fields that are numbers. -/
def numericFields : ProcessorArchitecture → List String → List String
  | .arm64, _ => []
  | .x86_64, values => (values.drop 1).take 3

theorem identityToken_eq_some {architecture : ProcessorArchitecture} {cpuinfo : List Char}
    {token : String} : identityToken architecture cpuinfo = some token ↔
      ∃ values, identityValues architecture cpuinfo = some values ∧
        (∀ numeric ∈ numericFields architecture values, (parseUInt32 numeric.toList).isSome) ∧
          ".".intercalate (kindOf architecture :: values) = token := by
  simp only [identityToken, Option.bind_eq_bind, Option.bind_eq_some_iff]
  cases architecture with
  | arm64 => simp [numericFields, kindOf]
  | x86_64 =>
      refine exists_congr fun values => and_congr_right fun _ => ?_
      rw [Option.ite_none_right_eq_some, Option.some.injEq, List.all_eq_true]
      rfl

/-- Each field fits into a token, and each number is spelled as it is written. -/
def CanonicalValues (architecture : ProcessorArchitecture) (values : List String) : Prop :=
  (∀ value ∈ values, value.utf8ByteSize ≤ 64) ∧
    ∀ numeric ∈ numericFields architecture values, ∃ number : UInt32, toString number = numeric

theorem kindOf_fields {architecture : ProcessorArchitecture} {identity : ProcessorIdentity}
    {values : List String} (same : tokenFields identity = kindOf architecture :: values) :
    (∃ arm, identity = .arm arm ∧ architecture = .arm64) ∨
      ∃ x86, identity = .x86 x86 ∧ architecture = .x86_64 := by
  cases identity with
  | arm identity =>
      cases architecture with
      | arm64 => exact .inl ⟨identity, rfl, rfl⟩
      | x86_64 => exact absurd (List.cons.inj same).1 (by decide)
  | x86 identity =>
      cases architecture with
      | arm64 => exact absurd (List.cons.inj same).1 (by decide)
      | x86_64 => exact .inr ⟨identity, rfl, rfl⟩

theorem tokenParts_values {architecture : ProcessorArchitecture} {values : List String}
    (agreed : AgreedValues architecture values) :
    tokenParts (".".intercalate (kindOf architecture :: values)) =
      kindOf architecture :: values := by
  apply tokenParts_intercalate (List.cons_ne_nil _ _)
  rw [List.forall_mem_cons]
  refine ⟨by cases architecture <;> decide, fun value member point => ?_⟩
  exact absurd (List.all_eq_true.mp (agreed.chars value member) _ point) (by decide)

theorem validIdentityValue_iff {architecture : ProcessorArchitecture} {values : List String}
    (agreed : AgreedValues architecture values) {value : String} (member : value ∈ values) :
    validIdentityValue value = true ↔ value.utf8ByteSize ≤ 64 := by
  simp [validIdentityValue, agreed.nonempty value member, agreed.chars value member]

theorem utf8ByteSize_toString_le (number : UInt32) : (toString number).utf8ByteSize ≤ 64 := by
  rw [utf8ByteSize_of_ascii, toList_toString]
  · refine ((Nat.length_toDigits_le_iff (by decide) (k := 10) (by decide)).mpr ?_).trans
      (by decide)
    exact number.toNat_lt.trans (by decide)
  · intro c member
    have digit := List.all_eq_true.mp (all_isDigit_toString number) c member
    simp only [Char.isDigit, Bool.and_eq_true, decide_eq_true_eq, UInt32.le_iff_toNat_le] at digit
    exact digit.2.trans_lt (by decide)

/-- The token of agreed fields is read, and written again, exactly if they are canonical. -/
theorem decodes_iff {architecture : ProcessorArchitecture} {values : List String}
    (agreed : AgreedValues architecture values) :
    (∃ identity,
      decodeIdentityToken (".".intercalate (kindOf architecture :: values)) = some identity ∧
        encodeIdentityToken identity = ".".intercalate (kindOf architecture :: values)) ↔
      CanonicalValues architecture values := by
  have parts := tokenParts_values agreed
  have valid : ∀ {value}, value ∈ values →
      (validIdentityValue value = true ↔ value.utf8ByteSize ≤ 64) :=
    fun member => validIdentityValue_iff agreed member
  constructor
  · rintro ⟨identity, decoded, encoded⟩
    have token := (decodeIdentityToken_eq_some.mp decoded).2
    have fields := tokenParts_encodeIdentityToken token
    rw [encoded, parts] at fields
    rcases kindOf_fields fields.symm with ⟨arm, rfl, rfl⟩ | ⟨x86, rfl, rfl⟩
    · refine ⟨fun value member => (valid member).mp ?_, nofun⟩
      rw [(List.cons.inj fields).2] at member
      exact token value member
    · obtain rfl := (List.cons.inj fields).2
      refine ⟨?_, ?_⟩
      · simp only [List.forall_mem_cons]
        exact ⟨(valid (by simp)).mp token.1, utf8ByteSize_toString_le _,
          utf8ByteSize_toString_le _, utf8ByteSize_toString_le _,
          (valid (by simp)).mp token.2, nofun⟩
      · simp only [numericFields, List.drop_succ_cons, List.drop_zero, List.take_succ_cons,
          List.take_zero, List.forall_mem_cons]
        exact ⟨⟨_, rfl⟩, ⟨_, rfl⟩, ⟨_, rfl⟩, nofun⟩
  · rintro ⟨short, written⟩
    suffices found : ∃ identity, ValidToken identity ∧
        tokenFields identity = kindOf architecture :: values by
      obtain ⟨identity, token, fields⟩ := found
      have encoded := encodeIdentityToken_eq identity
      rw [fields] at encoded
      exact ⟨identity, encoded ▸ decodeIdentityToken_encodeIdentityToken token, encoded⟩
    have length := agreed.length
    cases architecture with
    | arm64 =>
        obtain ⟨implementer, variant, part, revision, rfl⟩ := List.length_eq_four.mp length
        exact ⟨.arm { implementer, variant, part, revision },
          fun value member => (valid member).mpr (short value member), rfl⟩
    | x86_64 =>
        match values, length with
        | [vendor, family, model, stepping, microcode], _ =>
            simp only [numericFields, List.drop_succ_cons, List.drop_zero, List.take_succ_cons,
              List.take_zero, List.forall_mem_cons] at written
            obtain ⟨⟨family, rfl⟩, ⟨model, rfl⟩, ⟨stepping, rfl⟩, -⟩ := written
            refine ⟨.x86 { vendor, family, model, stepping, microcode }, ⟨?_, ?_⟩, rfl⟩
            · exact (valid (by simp)).mpr (short _ (by simp))
            · exact (valid (by simp)).mpr (short _ (by simp))

/-! ## Curated names -/

def curatedGroups : List String := x86FlagGroups.map Prod.snd ++ arm64HwcapGroups.map Prod.snd

/-- A capability of the tables. -/
inductive Curated : String → Prop
  | feature {group : String} (listed : group ∈ curatedGroups) :
      Curated (CapabilityKind.feature.lead ++ normalizeName group)
  | osState {state : String} (listed : state ∈ osEnabledStates) :
      Curated (CapabilityKind.osState.lead ++ state)

theorem curated_discreteCapabilities {architecture : ProcessorArchitecture}
    {cpuinfo : List Char} {hwcap : Option UInt64} {capability : String}
    (member : capability ∈ discreteCapabilities architecture cpuinfo hwcap) :
    Curated capability := by
  have state : ∀ {present : Prop} [Decidable present] {name : String}, name ∈ osEnabledStates →
      capability ∈ (if present then [processorOsStateLead ++ name] else []) →
        Curated capability := by
    intro present _ name listed member
    split at member
    · obtain rfl := List.mem_singleton.mp member
      exact .osState listed
    · cases member
  cases architecture with
  | x86_64 =>
      simp only [discreteCapabilities, List.mem_append] at member
      rcases member with ((features | osxsave) | avx) | avx512
      · obtain ⟨⟨flag, group⟩, inside, rfl⟩ := List.mem_map.mp features
        exact .feature (List.mem_append_left _
          (List.mem_map_of_mem (f := Prod.snd) (List.mem_filter.mp inside).1))
      · exact state (by decide) osxsave
      · exact state (by decide) avx
      · exact state (by decide) avx512
  | arm64 =>
      cases hwcap with
      | none => cases member
      | some hwcap =>
          simp only [discreteCapabilities, List.mem_append] at member
          rcases member with features | auxv
          · obtain ⟨⟨bit, group⟩, inside, rfl⟩ := List.mem_map.mp features
            exact .feature (List.mem_append_right _
              (List.mem_map_of_mem (f := Prod.snd) (List.mem_filter.mp inside).1))
          · obtain rfl := List.mem_singleton.mp auxv
            exact .osState (by decide)

/-- What the tables promise of a group. -/
theorem curatedGroups_spelled : ∀ group ∈ curatedGroups,
    restoreName (normalizeName group) = group ∧ group.isEmpty = false ∧
      group.utf8ByteSize ≤ 128 ∧ group.toList.all Processor.featureChar = true ∧
        (normalizeName group).isEmpty = false ∧ (normalizeName group).utf8ByteSize ≤ 96 ∧
          (normalizeName group).toList.all capabilityNameChar = true := by
  decide

/-- What the tables promise of a state. -/
theorem osEnabledStates_spelled : ∀ state ∈ osEnabledStates,
    normalizeName state = state ∧ Processor.validLowerIdentity state = true ∧
      (normalizeName state).isEmpty = false ∧ (normalizeName state).utf8ByteSize ≤ 96 ∧
        (normalizeName state).toList.all capabilityNameChar = true := by
  decide

theorem validCaptured_feature (suffix : String) :
    validCapturedProcessorCapability (CapabilityKind.feature.lead ++ suffix) =
      curatedGroups.any fun group => normalizeName group = suffix := by
  change validCapturedProcessorCapability (processorFeatureLead ++ suffix) = _
  rw [validCapturedProcessorCapability, stripStart_append]
  rfl

theorem validCaptured_osState (suffix : String) :
    validCapturedProcessorCapability (CapabilityKind.osState.lead ++ suffix) =
      osEnabledStates.contains suffix := by
  change validCapturedProcessorCapability (processorOsStateLead ++ suffix) = _
  rw [validCapturedProcessorCapability, stripStart_append_of_clash (by decide), stripStart_append]

theorem validCaptured_identity (suffix : String) :
    validCapturedProcessorCapability (CapabilityKind.identity.lead ++ suffix) =
      (decodeIdentityToken suffix).isSome := by
  change validCapturedProcessorCapability (processorIdentityLead ++ suffix) = _
  rw [validCapturedProcessorCapability, stripStart_append_of_clash (by decide),
    stripStart_append_of_clash (by decide), stripStart_append]

theorem Curated.valid {capability : String} (curated : Curated capability) :
    validCapturedProcessorCapability capability = true := by
  cases curated with
  | feature listed =>
      rw [validCaptured_feature, List.any_eq_true]
      exact ⟨_, listed, decide_eq_true rfl⟩
  | osState listed =>
      rw [validCaptured_osState]
      exact List.contains_iff_mem.mpr listed

/-- The kind and the suffix of a curated capability. -/
theorem Curated.cases {kind : CapabilityKind} {suffix : String}
    (curated : Curated (kind.lead ++ suffix)) :
    (kind = .feature ∧ ∃ group ∈ curatedGroups, normalizeName group = suffix) ∨
      kind = .osState ∧ suffix ∈ osEnabledStates := by
  generalize whole : kind.lead ++ suffix = capability at curated
  cases curated with
  | feature listed =>
      obtain ⟨rfl, rfl⟩ := CapabilityKind.lead_append_inj.mp whole
      exact .inl ⟨rfl, _, listed, rfl⟩
  | osState listed =>
      obtain ⟨rfl, rfl⟩ := CapabilityKind.lead_append_inj.mp whole
      exact .inr ⟨rfl, listed⟩

/-! ## Captured lists -/

/-- The capabilities of the tables and of a token, in order. -/
def capturedList (discrete : List String) (token : Option String) : List String :=
  sortDedup (discrete ++ (token.map (processorIdentityLead ++ ·)).toList)

section

variable {architecture : ProcessorArchitecture} {discrete : List String} {token : Option String}
  {identity : Option ProcessorIdentity}

theorem mem_capturedList (kind : CapabilityKind) {suffix : String} :
    kind.lead ++ suffix ∈ capturedList discrete token ↔
      kind.lead ++ suffix ∈ discrete ∨ kind = .identity ∧ token = some suffix := by
  rw [capturedList, mem_sortDedup, List.mem_append, Option.mem_toList, Option.map_eq_some_iff]
  refine or_congr_right ⟨?_, ?_⟩
  · rintro ⟨value, given, same⟩
    obtain ⟨rfl, rfl⟩ := CapabilityKind.lead_append_inj.mp
      (show CapabilityKind.identity.lead ++ value = kind.lead ++ suffix from same)
    exact ⟨rfl, given⟩
  · rintro ⟨rfl, given⟩
    exact ⟨suffix, given, rfl⟩

/-- The features that are read back. -/
def observedFeatures (capabilities : List String) : List String :=
  sortDedup ((capabilities.filterMap fun capability =>
    stripStart capability "processor.feature.").map restoreName)

/-- The states that are read back. -/
def observedStates (capabilities : List String) : List String :=
  sortDedup (capabilities.filterMap fun capability => stripStart capability "processor.os-state.")

theorem mem_observedFeatures (curated : ∀ capability ∈ discrete, Curated capability)
    {feature : String} : feature ∈ observedFeatures (capturedList discrete token) ↔
      feature ∈ curatedGroups ∧
        CapabilityKind.feature.lead ++ normalizeName feature ∈ discrete := by
  rw [observedFeatures, mem_sortDedup, List.mem_map]
  constructor
  · rintro ⟨suffix, member, rfl⟩
    rw [mem_filterMap_stripStart] at member
    rcases (mem_capturedList .feature).mp member with listed | ⟨other, -⟩
    · rcases (curated _ listed).cases with ⟨-, group, known, rfl⟩ | ⟨other, -⟩
      · rw [(curatedGroups_spelled group known).1]
        exact ⟨known, listed⟩
      · cases other
    · cases other
  · rintro ⟨known, listed⟩
    refine ⟨normalizeName feature, ?_, (curatedGroups_spelled feature known).1⟩
    rw [mem_filterMap_stripStart]
    exact (mem_capturedList .feature).mpr (.inl listed)

theorem mem_observedStates (curated : ∀ capability ∈ discrete, Curated capability)
    {state : String} : state ∈ observedStates (capturedList discrete token) ↔
      state ∈ osEnabledStates ∧ CapabilityKind.osState.lead ++ state ∈ discrete := by
  rw [observedStates, mem_sortDedup, mem_filterMap_stripStart]
  constructor
  · intro member
    rcases (mem_capturedList .osState).mp member with listed | ⟨other, -⟩
    · rcases (curated _ listed).cases with ⟨other, -⟩ | ⟨-, known⟩
      · cases other
      · exact ⟨known, listed⟩
    · cases other
  · rintro ⟨-, listed⟩
    exact (mem_capturedList .osState).mpr (.inl listed)

/-- At most one identity is captured. -/
theorem filterMap_identity (curated : ∀ capability ∈ discrete, Curated capability) :
    (capturedList discrete token).filterMap
      (fun capability => stripStart capability "processor.identity.") = token.toList := by
  have members : ∀ suffix, suffix ∈ (capturedList discrete token).filterMap
      (fun capability => stripStart capability "processor.identity.") ↔
        suffix ∈ token.toList := by
    intro suffix
    rw [mem_filterMap_stripStart, Option.mem_toList]
    refine (mem_capturedList .identity).trans ⟨?_, fun given => .inr ⟨rfl, given⟩⟩
    rintro (listed | ⟨-, given⟩)
    · rcases (curated _ listed).cases with ⟨other, -⟩ | ⟨other, -⟩
      · cases other
      · cases other
    · exact given
  have distinct : ((capturedList discrete token).filterMap
      (fun capability => stripStart capability "processor.identity.")).Nodup := by
    refine List.Nodup.filterMap ?_ ((pairwise_sortDedup _).imp ne_of_lt)
    intro first second suffix left right
    rw [stripStart_eq_some.mp left, stripStart_eq_some.mp right]
  cases token with
  | none => exact List.eq_nil_iff_forall_not_mem.mpr fun suffix member =>
      absurd ((members suffix).mp member) (List.not_mem_nil)
  | some value =>
      refine List.perm_singleton.mp ((List.perm_ext_iff_of_nodup distinct ?_).mpr members)
      exact List.nodup_singleton value

/-- What was read back is a valid view. -/
theorem validView_captured (curated : ∀ capability ∈ discrete, Curated capability)
    (fits : ∀ value ∈ identity, value.Fits architecture) :
    ValidView (processorCaptureAbi architecture) architecture identity
      (observedFeatures (capturedList discrete token))
      (observedStates (capturedList discrete token)) := by
  have features : ∀ feature ∈ observedFeatures (capturedList discrete token),
      feature ∈ curatedGroups := fun _ member => ((mem_observedFeatures curated).mp member).1
  have states : ∀ state ∈ observedStates (capturedList discrete token),
      state ∈ osEnabledStates := fun _ member => ((mem_observedStates curated).mp member).1
  have ascending : ∀ values : List String, (sortDedup values).Nodup := fun values =>
    (pairwise_sortDedup values).imp ne_of_lt
  refine ⟨?_, ?_, ?_, ?_, ?_, pairwise_sortDedup _, pairwise_sortDedup _, fits⟩
  · cases architecture <;> decide
  · exact ((ascending _).subperm features).length_le.trans (by decide)
  · exact ((ascending _).subperm states).length_le.trans (by decide)
  · intro feature member
    have spelled := curatedGroups_spelled feature (features feature member)
    exact ⟨spelled.2.1, spelled.2.2.1, spelled.2.2.2.1⟩
  · intro state member
    exact (osEnabledStates_spelled state (states state member)).2.1

variable [Primitives]

/-- Capture and admission name one processor view: each captured capability is valid, the
capabilities are read back as an observation, and its initial requirement names exactly
them again, beside its architecture and its digest. -/
structure OneView (architecture : ProcessorArchitecture) (capabilities : List String) : Prop where
  valid : ∀ capability ∈ capabilities, validCapturedProcessorCapability capability = true
  accepted : ∃ observation,
    observationFromCapturedCapabilities architecture capabilities = .ok observation
  again : ∀ observation,
    observationFromCapturedCapabilities architecture capabilities = .ok observation →
      ∃ requirement digest bound, initialProcessorRequirement observation = .ok requirement ∧
        Canonical.digest requirement = .ok digest ∧
        processorRequirementCapabilities requirement = .ok bound ∧
        (bound.filter fun capability => capability ≠ requirement.architecture.name ∧
          capability ≠ "processor.requirement." ++ digestSuffix digest) = capabilities

/-- The initial requirement of what was read back. -/
def capturedRequirement (architecture : ProcessorArchitecture) (capabilities : List String)
    (identity : Option ProcessorIdentity) : ProcessorRequirement where
  abi := processorCaptureAbi architecture
  architecture := architecture
  format := .v1
  identity := identity
  instructionFeatures := observedFeatures capabilities
  osEnabledStates := observedStates capabilities

omit [Primitives] in
theorem observation_capturedList (curated : ∀ capability ∈ discrete, Curated capability)
    {observation : ProcessorObservation}
    (observed : observationFromCapturedCapabilities architecture (capturedList discrete token) =
      .ok observation) :
    ∃ identity, capturedIdentity architecture token.toList = .ok identity ∧
      observation.validate = .ok () ∧
        initialProcessorRequirement observation =
          .ok (capturedRequirement architecture (capturedList discrete token) identity) := by
  simp only [observationFromCapturedCapabilities, bind_eq_ok, pure_eq_ok,
    filterMap_identity curated] at observed
  obtain ⟨identity, read, _, valid, rfl⟩ := observed
  refine ⟨identity, read, valid, ?_⟩
  simp only [initialProcessorRequirement, bind_eq_ok, pure_eq_ok]
  exact ⟨(), valid, rfl⟩

/-- A requirement names what was captured, beside its architecture and its digest. -/
theorem filter_boundCapabilities (curated : ∀ capability ∈ discrete, Curated capability)
    {requirement : ProcessorRequirement}
    (encoded : token = requirement.identity.map encodeIdentityToken)
    (features : requirement.instructionFeatures = observedFeatures (capturedList discrete token))
    (states : requirement.osEnabledStates = observedStates (capturedList discrete token)) :
    ((boundCapabilities requirement).filter fun capability =>
      capability ≠ requirement.architecture.name ∧ capability ≠
        "processor.requirement." ++ digestSuffix (Digest.of (Canonical.text requirement))) =
      capturedList discrete token := by
  obtain ⟨name, architectureName⟩ := requirement.architecture.name_eq
  have own : ∀ {kind : CapabilityKind} {suffix : String}, kind.declarable = true →
      kind ≠ .architecture → requirement.NamesSuffix kind suffix →
        kind.lead ++ suffix ∈ (boundCapabilities requirement).filter fun capability =>
          capability ≠ requirement.architecture.name ∧ capability ≠
            "processor.requirement." ++ digestSuffix (Digest.of (Canonical.text requirement)) := by
    intro kind suffix declarable plain names
    refine List.mem_filter.mpr ⟨lead_append_mem_boundCapabilities.mpr names, decide_eq_true ?_⟩
    constructor
    · rw [architectureName]
      exact fun equal => plain (CapabilityKind.lead_append_inj.mp equal).1
    · change _ ≠ CapabilityKind.requirement.lead ++ _
      intro equal
      rw [(CapabilityKind.lead_append_inj.mp equal).1] at declarable
      cases declarable
  refine (sortDedup_eq ((pairwise_sortDedup _).filter _) fun capability => ⟨?_, ?_⟩).symm
  · intro member
    obtain ⟨bound, apart⟩ := List.mem_filter.mp member
    obtain ⟨notArchitecture, notDigest⟩ := of_decide_eq_true apart
    obtain ⟨kind, suffix, plain, rfl⟩ := exists_of_mem_boundCapabilities bound
    have names := lead_append_mem_boundCapabilities.mp bound
    rw [← mem_sortDedup]
    apply (mem_capturedList kind).mpr
    cases kind with
    | architecture => exact absurd (Eq.symm names) notArchitecture
    | feature =>
        obtain ⟨feature, listed, rfl⟩ := names
        rw [features, mem_observedFeatures curated] at listed
        exact .inl listed.2
    | osState =>
        obtain ⟨state, listed, rfl⟩ := names
        rw [states, mem_observedStates curated] at listed
        rw [(osEnabledStates_spelled state listed.1).1]
        exact .inl listed.2
    | identity =>
        obtain ⟨identity, given, rfl⟩ := names
        exact .inr ⟨rfl, encoded.trans (Option.map_eq_some_iff.mpr ⟨identity, given, rfl⟩)⟩
    | reduction => exact absurd rfl plain
    | requirement =>
        rw [← show _ = suffix from names] at notDigest
        exact absurd rfl notDigest
  · intro member
    rcases List.mem_append.mp member with listed | captured
    · have known := curated capability listed
      cases known with
      | feature known =>
          refine own rfl nofun ⟨_, ?_, rfl⟩
          rw [features]
          exact (mem_observedFeatures curated).mpr ⟨known, listed⟩
      | osState known =>
          refine own rfl nofun ⟨_, ?_, (osEnabledStates_spelled _ known).1⟩
          rw [states]
          exact (mem_observedStates curated).mpr ⟨known, listed⟩
    · obtain ⟨value, given, rfl⟩ := Option.map_eq_some_iff.mp (Option.mem_toList.mp captured)
      obtain ⟨identity, present, rfl⟩ := Option.map_eq_some_iff.mp (encoded.symm.trans given)
      exact @own .identity _ rfl nofun ⟨identity, present, rfl⟩

omit [Primitives] in
/-- What was captured can be bound. -/
theorem nameable_captured (curated : ∀ capability ∈ discrete, Curated capability)
    {requirement : ProcessorRequirement}
    (features : requirement.instructionFeatures = observedFeatures (capturedList discrete token))
    (states : requirement.osEnabledStates = observedStates (capturedList discrete token)) :
    Nameable requirement := by
  constructor
  · intro feature member
    rw [features, mem_observedFeatures curated] at member
    exact (curatedGroups_spelled feature member.1).2.2.2.2
  · intro state member
    rw [states, mem_observedStates curated] at member
    exact (osEnabledStates_spelled state member.1).2.2

/-- A token that its identity is written with makes one view. -/
theorem oneView_of_encoded (curated : ∀ capability ∈ discrete, Curated capability)
    (encoded : token = identity.map encodeIdentityToken)
    (read : capturedIdentity architecture token.toList = .ok identity)
    (fits : ∀ value ∈ identity, value.Fits architecture) :
    OneView architecture (capturedList discrete token) := by
  have view := @validView_captured architecture discrete token identity curated fits
  refine ⟨?_, ?_, ?_⟩
  · intro capability member
    rcases List.mem_append.mp (mem_sortDedup.mp member) with listed | own
    · exact (curated capability listed).valid
    · obtain ⟨value, given, rfl⟩ := Option.map_eq_some_iff.mp (Option.mem_toList.mp own)
      obtain ⟨identity, rfl, rfl⟩ := Option.map_eq_some_iff.mp (encoded.symm.trans given)
      rw [encoded] at read
      obtain ⟨_, same, decoded⟩ := capturedIdentity_eq_some read
      obtain rfl := (List.cons.inj same).1
      refine (validCaptured_identity _).trans ?_
      rw [decoded, Option.isSome_some]
  · refine ⟨⟨processorCaptureAbi architecture, architecture, .v1, identity,
      observedFeatures (capturedList discrete token),
      observedStates (capturedList discrete token)⟩, ?_⟩
    simp only [observationFromCapturedCapabilities, bind_eq_ok, pure_eq_ok,
      filterMap_identity curated]
    exact ⟨identity, read, (), validateProcessorView_eq_ok.mpr view, rfl⟩
  · intro observation observed
    obtain ⟨other, again, -, initial⟩ := observation_capturedList curated observed
    obtain rfl : other = identity := Except.ok.inj (again.symm.trans read)
    refine ⟨_, _, _, initial, ProcessorRequirement.digest _, ?_,
      filter_boundCapabilities curated encoded rfl rfl⟩
    rw [processorRequirementCapabilities_eq_ok]
    exact ⟨view, nameable_captured curated rfl rfl, rfl⟩

/-- In one view, the token is read, and written again. -/
theorem OneView.encoded (curated : ∀ capability ∈ discrete, Curated capability) {value : String}
    (view : OneView architecture (capturedList discrete (some value))) :
    ∃ identity, decodeIdentityToken value = some identity ∧
      encodeIdentityToken identity = value := by
  obtain ⟨observation, observed⟩ := view.accepted
  obtain ⟨requirement, digest, bound, initial, -, named, same⟩ := view.again _ observed
  obtain ⟨identity, read, -, captured⟩ := observation_capturedList curated observed
  obtain rfl := Except.ok.inj (captured.symm.trans initial)
  obtain ⟨-, -, rfl⟩ := processorRequirementCapabilities_eq_ok.mp named
  -- the token is captured, so the requirement names it
  have member : CapabilityKind.identity.lead ++ value ∈ capturedList discrete (some value) :=
    (mem_capturedList .identity).mpr (.inr ⟨rfl, rfl⟩)
  rw [← same] at member
  obtain ⟨other, given, written⟩ :=
    lead_append_mem_boundCapabilities.mp (List.mem_filter.mp member).1
  obtain rfl : identity = some other := given
  obtain ⟨_, tokens, decoded⟩ := capturedIdentity_eq_some read
  obtain rfl := (List.cons.inj tokens).1
  exact ⟨other, decoded, written⟩

end

/-! ## The condition -/

/-- The identity of a text is spelled as its token is: whenever the processors agree on
fields whose numbers can be read, these fields are canonical. -/
def CanonicalIdentity (architecture : ProcessorArchitecture) (cpuinfo : List Char) : Prop :=
  ∀ values, identityValues architecture cpuinfo = some values →
    (∀ numeric ∈ numericFields architecture values, (parseUInt32 numeric.toList).isSome) →
      CanonicalValues architecture values

theorem capturedIdentity_of_decoded {architecture : ProcessorArchitecture} {token : String}
    {values : List String} {identity : ProcessorIdentity}
    (parts : tokenParts token = kindOf architecture :: values)
    (decoded : decodeIdentityToken token = some identity) :
    capturedIdentity architecture [token] = .ok (some identity) ∧ identity.Fits architecture := by
  obtain ⟨spelled, valid⟩ := decodeIdentityToken_eq_some.mp decoded
  rw [parts] at spelled
  rw [capturedIdentity, decoded]
  cases identity with
  | arm identity =>
      cases architecture with
      | arm64 =>
          simp only [ValidToken, List.forall_mem_cons] at valid
          obtain ⟨implementer, variant, part, revision, -⟩ := valid
          refine ⟨rfl, rfl, ?_⟩
          simp only [List.forall_mem_cons]
          exact ⟨implementer, part, revision, variant, by simp⟩
      | x86_64 => exact absurd (List.cons.inj spelled).1 (by decide)
  | x86 identity =>
      obtain ⟨_, _, _, same, -⟩ := spelled
      cases architecture with
      | arm64 => exact absurd (List.cons.inj same).1 (by decide)
      | x86_64 => exact ⟨rfl, rfl, valid⟩

variable [Primitives] {architecture : ProcessorArchitecture} {cpuinfo : String}
  {hwcap : Option UInt64}

theorem canonicalIdentity_of_oneView (view : OneView architecture
    (captureProcessorCapabilities architecture cpuinfo hwcap).capabilities) :
    CanonicalIdentity architecture cpuinfo.toList := by
  intro values agreed numbers
  have token := identityToken_eq_some.mpr ⟨values, agreed, numbers, rfl⟩
  change OneView architecture (capturedList (discreteCapabilities architecture cpuinfo.toList hwcap)
    (identityToken architecture cpuinfo.toList)) at view
  rw [token] at view
  refine (decodes_iff (agreedValues_of_eq_some agreed)).mp ?_
  exact view.encoded fun _ member => curated_discreteCapabilities member

theorem oneView_of_canonicalIdentity
    (canonical : CanonicalIdentity architecture cpuinfo.toList) :
    OneView architecture
      (captureProcessorCapabilities architecture cpuinfo hwcap).capabilities := by
  change OneView architecture (capturedList (discreteCapabilities architecture cpuinfo.toList hwcap)
    (identityToken architecture cpuinfo.toList))
  have curated : ∀ capability ∈ discreteCapabilities architecture cpuinfo.toList hwcap,
      Curated capability := fun _ member => curated_discreteCapabilities member
  cases token : identityToken architecture cpuinfo.toList with
  | none => exact @oneView_of_encoded _ _ _ none _ curated rfl rfl nofun
  | some value =>
      obtain ⟨values, agreed, numbers, rfl⟩ := identityToken_eq_some.mp token
      have plain := agreedValues_of_eq_some agreed
      obtain ⟨identity, decoded, encoded⟩ :=
        (decodes_iff plain).mpr (canonical values agreed numbers)
      obtain ⟨read, fits⟩ := capturedIdentity_of_decoded (tokenParts_values plain) decoded
      refine @oneView_of_encoded _ _ _ (some identity) _ curated ?_ read ?_
      · exact congrArg some encoded.symm
      · rintro _ ⟨⟩
        exact fits

/-- Capture and admission name one view exactly if the identity is canonical. -/
theorem captured_oneView_iff (architecture : ProcessorArchitecture) (cpuinfo : String)
    (hwcap : Option UInt64) :
    OneView architecture (captureProcessorCapabilities architecture cpuinfo hwcap).capabilities ↔
      CanonicalIdentity architecture cpuinfo.toList :=
  ⟨canonicalIdentity_of_oneView, oneView_of_canonicalIdentity⟩

/-- A processor file whose model has a leading zero. -/
def Sample.paddedModel : String :=
  "vendor_id\t: v\ncpu family\t: 6\nmodel\t: 06\nstepping\t: 1\nmicrocode\t: 0x1\n"

omit [Primitives] in
/-- A number that a token spells in another way. -/
theorem not_captured_oneView_padded :
    letI := Sample.marked
    ¬ OneView .x86_64
      (captureProcessorCapabilities .x86_64 Sample.paddedModel none).capabilities := by
  let _ := Sample.marked
  intro view
  have agreed : identityValues .x86_64 Sample.paddedModel.toList =
      some ["v", "6", "06", "1", "0x1"] := by decide
  obtain ⟨number, written⟩ := (canonicalIdentity_of_oneView view _ agreed (by decide)).2 "06"
    (by decide)
  have read := parseUInt32_toString number
  rw [written] at read
  obtain rfl : 6 = number := Option.some.inj read
  exact absurd written (by decide)

end Reproit
