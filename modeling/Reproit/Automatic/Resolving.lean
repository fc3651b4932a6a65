/-
# Resolving an automatic World loses and invents nothing

Every state artifact and every interaction of the transcript becomes one observation, with
the place, the request digest and the outcome of its source and the bytes that were read
for it.  Two of them are the boundary of the operation; the others are pending, at the
next positions of their classes without a gap.
-/

import Reproit.Backend.AutomaticReplay
import Reproit.Backend.Sample

namespace Reproit

open Backend

namespace Backend

/-! ## Addresses of state artifacts -/

/-- The address names the observation. -/
structure NamesState (uri : String) (key : ObservationKey) (requestDigest : Digest)
    (outcome : DependencyOutcome) : Prop where
  stateClass : key.observationClass = .environment ∨ key.observationClass = .filesystem
  position : key.position.toNat < maxReplayObservations
  spelled : uri = stateScheme ++ "/".intercalate [key.observationClass.boundaryId,
    requestDigest.toText, String.ofList (Nat.toDigits 10 key.position.toNat), outcome.name]

theorem parsePosition_eq_ok {text : List Char} {position : UInt64} :
    parsePosition text = .ok position ↔
      text = Nat.toDigits 10 position.toNat ∧ position.toNat < maxReplayObservations := by
  simp only [parsePosition, bind_eq_ok, okOr_eq_ok, rejectIf_eq_ok, pure_eq_ok, not_or, not_not,
    not_le]
  constructor
  · rintro ⟨_, _, _, ⟨spelled, small⟩, same⟩
    rw [same] at spelled small
    exact ⟨spelled.symm, small⟩
  · rintro ⟨spelled, small⟩
    exact ⟨position, by rw [spelled, parseUInt64_toDigits], (), ⟨spelled.symm, small⟩, rfl⟩

theorem stateClass_eq_ok {field : Option String} {observed : AutomaticObservationClass} :
    stateClass field = .ok observed ↔
      (observed = .environment ∨ observed = .filesystem) ∧ field = some observed.boundaryId := by
  constructor
  · intro read
    unfold stateClass at read
    split at read
    · cases read
      exact ⟨.inl rfl, rfl⟩
    · cases read
      exact ⟨.inr rfl, rfl⟩
    · cases read
  · rintro ⟨rfl | rfl, rfl⟩
    · rfl
    · rfl

theorem stateOutcome_eq_ok {field : Option String} {outcome : DependencyOutcome} :
    stateOutcome field = .ok outcome ↔ field = some outcome.name := by
  constructor
  · intro read
    unfold stateOutcome at read
    split at read <;> cases read <;> rfl
  · rintro rfl
    cases outcome <;> rfl

theorem nextField_eq_ok {fields rest : List String} {field : String} :
    nextField fields = .ok (field, rest) ↔ fields = field :: rest := by
  cases fields with
  | nil => exact ⟨nofun, nofun⟩
  | cons first others =>
      show Except.ok (first, others) = Except.ok (field, rest) ↔ _
      rw [Except.ok.injEq, Prod.mk.injEq, List.cons.injEq]

theorem head_tail_iff {fields rest : List String} {field : String} :
    fields.head? = some field ∧ fields.tail = rest ↔ fields = field :: rest := by
  cases fields with
  | nil => exact ⟨nofun, nofun⟩
  | cons first others => rw [List.head?_cons, Option.some.injEq, List.tail_cons, List.cons.injEq]

/-- No field of an address is cut. -/
theorem NamesState.whole {key : ObservationKey} (requestDigest : Digest)
    (outcome : DependencyOutcome)
    (stateClass : key.observationClass = .environment ∨ key.observationClass = .filesystem) :
    ∀ part ∈ [key.observationClass.boundaryId, requestDigest.toText,
      String.ofList (Nat.toDigits 10 key.position.toNat), outcome.name],
      '/' ∉ part.toList := by
  simp only [List.forall_mem_cons, List.not_mem_nil, false_implies, implies_true, and_true]
  refine ⟨?_, ?_, ?_, ?_⟩
  · rcases stateClass with environment | filesystem
    · rw [environment]
      decide
    · rw [filesystem]
      decide
  · rw [Digest.toText, String.toList_ofList, List.mem_append, not_or]
    exact ⟨by decide, fun member =>
      absurd (Radix.hexValue_isSome_of_mem_hexText member) (by decide)⟩
  · rw [String.toList_ofList]
    exact fun member => absurd (Json.toDigits_isDigit _ member) (by decide)
  · cases outcome <;> decide

/-- An address is read as the one observation that it names. -/
theorem stateIdentity_eq_ok {uri : String} {key : ObservationKey} {requestDigest : Digest}
    {outcome : DependencyOutcome} :
    stateIdentity uri = .ok (key, requestDigest, outcome) ↔
      NamesState uri key requestDigest outcome := by
  have slash : "/".toList = ['/'] := rfl
  simp only [stateIdentity, bind_eq_ok, okOr_eq_ok, rejectIf_eq_ok, pure_eq_ok, not_not,
    stripStart_eq_some]
  constructor
  · rintro ⟨suffix, stripped, observed, boundary, ⟨digestText, afterDigest⟩, second, _, read,
      ⟨positionText, afterPosition⟩, third, position, parsed, _, fourth, _, last, same⟩
    obtain ⟨rfl, rfl, rfl⟩ := same
    dsimp only at third read parsed fourth last
    obtain ⟨states, first⟩ := stateClass_eq_ok.mp boundary
    obtain ⟨spelled, small⟩ := parsePosition_eq_ok.mp parsed
    have fields : (suffix.toList.splitOn '/').map String.ofList =
        [observed.boundaryId, digestText, positionText, outcome.name] := by
      apply head_tail_iff.mp
      refine ⟨first, ?_⟩
      rw [nextField_eq_ok.mp second, nextField_eq_ok.mp third]
      rw [head_tail_iff.mp ⟨stateOutcome_eq_ok.mp fourth, last⟩]
    have joined := intercalate_splitOn slash suffix
    rw [fields, Digest.ofText_eq_some.mp read] at joined
    refine ⟨states, small, ?_⟩
    rw [stripped, ← joined, ← spelled, String.ofList_toList]
  · rintro ⟨states, small, spelled⟩
    have fields := splitOn_intercalate slash (List.cons_ne_nil _ _)
      (NamesState.whole requestDigest outcome states)
    refine ⟨_, spelled, key.observationClass, ?_⟩
    rw [fields]
    refine ⟨stateClass_eq_ok.mpr ⟨states, rfl⟩, _, rfl, _, Digest.ofText_toText _, _, rfl, _,
      parsePosition_eq_ok.mpr ⟨String.toList_ofList, small⟩, _,
      stateOutcome_eq_ok.mpr rfl, (), rfl, rfl⟩

/-- The address of a state artifact. -/
def stateUri (key : ObservationKey) (requestDigest : Digest) (outcome : DependencyOutcome) :
    String :=
  "reproit-managed://automatic-world/" ++ key.observationClass.boundaryId ++ "/" ++
    requestDigest.toText ++ "/" ++ toString key.position.toNat ++ "/" ++ outcome.name

theorem stateUri_eq (key : ObservationKey) (requestDigest : Digest)
    (outcome : DependencyOutcome) :
    stateUri key requestDigest outcome = stateScheme ++ "/".intercalate
      [key.observationClass.boundaryId, requestDigest.toText,
        String.ofList (Nat.toDigits 10 key.position.toNat), outcome.name] := by
  have decimal : ∀ number : Nat, toString number = String.ofList (Nat.toDigits 10 number) :=
    fun _ => String.toList_injective (Nat.toList_repr.trans String.toList_ofList.symm)
  unfold stateUri stateScheme
  simp only [decimal, String.intercalate_cons_cons, String.intercalate_singleton,
    String.append_assoc]

/-- Addresses are read exactly from the form that is written, so an address and its fields
determine each other. -/
theorem stateIdentity_exact :
    (∀ (uri : String) (key : ObservationKey) (requestDigest : Digest)
      (outcome : DependencyOutcome),
      stateIdentity uri = .ok (key, requestDigest, outcome) ↔
        uri = stateUri key requestDigest outcome ∧
          (key.observationClass = .environment ∨ key.observationClass = .filesystem) ∧
            key.position.toNat < 1024) ∧
    ∀ (first second : String) (one two : ObservationKey × Digest × DependencyOutcome),
      stateIdentity first = .ok one → stateIdentity second = .ok two →
        (first = second ↔ one = two) := by
  have exact : ∀ (uri : String) (key : ObservationKey) (requestDigest : Digest)
      (outcome : DependencyOutcome),
      stateIdentity uri = .ok (key, requestDigest, outcome) ↔
        uri = stateUri key requestDigest outcome ∧
          (key.observationClass = .environment ∨ key.observationClass = .filesystem) ∧
            key.position.toNat < 1024 := by
    intro uri key requestDigest outcome
    rw [stateIdentity_eq_ok, stateUri_eq]
    exact ⟨fun named => ⟨named.spelled, named.stateClass, named.position⟩,
      fun ⟨spelled, states, small⟩ => ⟨states, small, spelled⟩⟩
  refine ⟨exact, ?_⟩
  intro first second (key, requestDigest, outcome) two readFirst readSecond
  constructor
  · rintro rfl
    exact Except.ok.inj (readFirst.symm.trans readSecond)
  · rintro rfl
    have spelledFirst := ((exact first key requestDigest outcome).mp readFirst).1
    have spelledSecond := ((exact second key requestDigest outcome).mp readSecond).1
    exact spelledFirst.trans spelledSecond.symm

/-- The address of the environment at the boundary. -/
theorem stateIdentity_exact_boundary :
    stateIdentity (stateUri ⟨.environment, 0⟩ ⟨0⟩ .response) =
        .ok (⟨.environment, 0⟩, ⟨0⟩, .response) ∧
      (stateUri ⟨.environment, 0⟩ ⟨0⟩ .response = stateUri ⟨.environment, 0⟩ ⟨0⟩ .error ↔
        (⟨⟨.environment, 0⟩, ⟨0⟩, .response⟩ : ObservationKey × Digest × DependencyOutcome) =
          ⟨⟨.environment, 0⟩, ⟨0⟩, .error⟩) := by
  have read : ∀ outcome, stateIdentity (stateUri ⟨.environment, 0⟩ ⟨0⟩ outcome) =
      .ok (⟨.environment, 0⟩, ⟨0⟩, outcome) := fun outcome =>
    (stateIdentity_exact.1 _ ⟨.environment, 0⟩ ⟨0⟩ outcome).mpr ⟨rfl, .inl rfl, by decide⟩
  exact ⟨read .response, stateIdentity_exact.2 _ _ _ _ (read .response) (read .error)⟩

/-! ## Payloads -/

variable [Primitives]

/-- The reader gave the bytes for the descriptor, and they are the ones that it describes. -/
structure Payload (read : ManifestReader) (object : LogicalObject) (bytes : Bytes) : Prop where
  read : ∃ earlier, read earlier object = .ok bytes
  mediaType : object.mediaType = "application/octet-stream"
  size : bytes.length = object.plainSize.toNat
  digest : Digest.of bytes = object.plainDigest

theorem payload_of_read {object : LogicalObject} {limit : Nat} {read : ManifestReader}
    {bytes : Bytes} {before after : List LogicalObject}
    (success : readPayload object limit read before = .ok bytes after) :
    Payload read object bytes ∧ object.plainSize.toNat ≤ limit := by
  simp only [readPayload, Update.bind_eq_ok, Update.attempt_eq_ok, rejectIf_eq_ok, not_or,
    not_not, not_lt] at success
  obtain ⟨_, _, ⟨⟨mediaType, small⟩, rfl⟩, earlier, _, got, _, _, written, _, _, ⟨gave, rfl⟩,
    _, _, ⟨⟨size, digest⟩, rfl⟩, returned⟩ := success
  cases returned
  exact ⟨⟨⟨earlier, gave⟩, mediaType, size, digest⟩, small⟩

/-! ## Sources -/

/-- An entry of the table of observations. -/
abbrev ObservationEntry := ObservationKey × RecordedObservation

/-- The bytes are a semantic response of the class, to the request and with the outcome. -/
def SemanticState (entry : ObservationEntry) : Prop :=
  ∃ value, parseCanonical SemanticObservationResponse entry.2.response = .ok value ∧
    value.validate = .ok () ∧ observationClass value.operation = entry.1.observationClass ∧
    value.requestDigest = entry.2.requestDigest ∧
    dependencyOutcome value.outcome = entry.2.outcome

/-- The observation is the one of the state artifact. -/
structure FromArtifact (read : ManifestReader) (artifact : ResolvedWorldArtifact)
    (entry : ObservationEntry) : Prop where
  point : artifact.pointIndex = 0
  named : NamesState artifact.artifact.uri entry.1 entry.2.requestDigest entry.2.outcome
  payload : Payload read artifact.object entry.2.response
  semantic : entry.1 ≠ ⟨.environment, 0⟩ → SemanticState entry

/-- The class of the observation is that of its request. -/
def Classified (interaction : DependencyTranscriptInteraction) (request : Bytes)
    (entry : ObservationEntry) : Prop :=
  (request = wallClock ∧ entry.1 = ⟨.clock, 0⟩ ∧ entry.2.outcome = .response) ∨
    (request ≠ wallClock ∧ validatePair request entry.2.response =
      .ok (entry.1.observationClass, interaction.outcome))

/-- The observation is the one of the interaction. -/
structure FromInteraction (read : ManifestReader) (operationId : OperationId)
    (source : DependencyTranscriptInteraction × ResolvedInteraction)
    (entry : ObservationEntry) : Prop where
  operation : source.1.operationId = operationId
  position : entry.1.position = source.1.sessionPosition
  requestDigest : entry.2.requestDigest = source.1.requestDigest
  outcome : entry.2.outcome = source.1.outcome
  transcriptClass : entry.1.observationClass ≠ .environment ∧
    entry.1.observationClass ≠ .filesystem
  request : ∃ request, Payload read source.2.request request ∧
    Digest.of request = source.1.requestDigest ∧ Classified source.1 request entry
  payload : Payload read source.2.response entry.2.response
  responseDigest : Digest.of entry.2.response = source.1.responseDigest

theorem fromArtifact_of_ok {read : ManifestReader} {artifact : ResolvedWorldArtifact}
    {entry : ObservationEntry} {before after : List LogicalObject}
    (success : readArtifact read artifact before = .ok entry after) :
    FromArtifact read artifact entry := by
  rw [readArtifact, Update.bind_eq_ok] at success
  obtain ⟨_, _, checked, success⟩ := success
  obtain ⟨first, rfl⟩ := Update.attempt_eq_ok.mp checked
  have point := not_not.mp ((rejectIf_eq_ok _ _ _).mp first)
  obtain ⟨⟨key, requestDigest, outcome⟩, _, identified, success⟩ := Update.bind_eq_ok.mp success
  obtain ⟨named, rfl⟩ := Update.attempt_eq_ok.mp identified
  obtain ⟨response, _, got, success⟩ := Update.bind_eq_ok.mp success
  have payload := (payload_of_read got).1
  by_cases baseline : key = ⟨.environment, 0⟩
  · simp only [baseline, decide_true, not_true_eq_false, if_false] at success
    cases success
    exact ⟨point, stateIdentity_eq_ok.mp (baseline ▸ named), payload, fun other => absurd rfl other⟩
  · simp only [baseline, decide_false, Bool.false_eq_true, not_false_eq_true, if_true,
      Update.bind_eq_ok, Update.attempt_eq_ok, rejectIf_eq_ok, not_or, not_not] at success
    obtain ⟨value, _, ⟨parsed, rfl⟩, _, _, ⟨valid, rfl⟩, _, _, ⟨⟨observed, digest, result⟩, rfl⟩,
      returned⟩ := success
    cases returned
    exact ⟨point, stateIdentity_eq_ok.mp named, payload, fun _ =>
      ⟨value, parsed, valid, observed, digest, result⟩⟩

theorem interactionClass_eq_ok {interaction : DependencyTranscriptInteraction}
    {request response : Bytes} {observed : AutomaticObservationClass}
    (read : interactionClass interaction request response = .ok observed) :
    (observed ≠ .environment ∧ observed ≠ .filesystem) ∧
      ((request = wallClock ∧ observed = .clock ∧ interaction.sessionPosition = 0 ∧
          interaction.outcome = .response) ∨
        (request ≠ wallClock ∧
          validatePair request response = .ok (observed, interaction.outcome))) := by
  rw [interactionClass] at read
  by_cases boundary : request = wallClock
  · simp only [boundary, if_true, bind_eq_ok, rejectIf_eq_ok, pure_eq_ok, not_or,
      not_not] at read
    obtain ⟨_, ⟨position, outcome⟩, rfl⟩ := read
    exact ⟨⟨by decide, by decide⟩, .inl ⟨boundary, rfl, position, outcome⟩⟩
  · simp only [boundary, if_false, bind_eq_ok, rejectIf_eq_ok, pure_eq_ok, not_or,
      not_not] at read
    obtain ⟨⟨_, _⟩, pair, _, ⟨noEnvironment, noFile, rfl⟩, rfl⟩ := read
    exact ⟨⟨noEnvironment, noFile⟩, .inr ⟨boundary, pair⟩⟩

theorem fromInteraction_of_ok {read : ManifestReader} {operationId : OperationId}
    {interaction : DependencyTranscriptInteraction} {objects : ResolvedInteraction}
    {entry : ObservationEntry} {before after : List LogicalObject}
    (success : readInteraction read operationId interaction objects before = .ok entry after) :
    FromInteraction read operationId (interaction, objects) entry := by
  simp only [readInteraction, Update.bind_eq_ok, Update.attempt_eq_ok, rejectIf_eq_ok, not_or,
    not_not] at success
  obtain ⟨_, _, ⟨operation, rfl⟩, request, _, gotRequest, response, _, gotResponse, _, _,
    ⟨⟨requestDigest, responseDigest⟩, rfl⟩, observed, _, ⟨classified, rfl⟩, returned⟩ := success
  cases returned
  obtain ⟨transcriptClass, cause⟩ := interactionClass_eq_ok classified
  have classes : Classified interaction request (⟨observed, interaction.sessionPosition⟩,
      { outcome := interaction.outcome, response
        requestDigest := interaction.requestDigest }) := by
    rcases cause with ⟨boundary, rfl, position, outcome⟩ | other
    · exact .inl ⟨boundary, by rw [position], outcome⟩
    · exact .inr other
  exact {
    operation := operation
    position := rfl
    requestDigest := rfl
    outcome := rfl
    transcriptClass := transcriptClass
    request := ⟨request, (payload_of_read gotRequest).1, requestDigest, classes⟩
    payload := (payload_of_read gotResponse).1
    responseDigest := responseDigest }

/-! ## The table -/

/-- Reading artifacts inserts the observation of each. -/
theorem readArtifacts_eq_ok {read : ManifestReader} {artifacts : List ResolvedWorldArtifact}
    {observations result : Observations} {before after : List LogicalObject}
    (success : readArtifacts read artifacts observations before = .ok result after) :
    ∃ entries, List.Forall₂ (FromArtifact read) artifacts entries ∧
      OrderedMap.insertAllNew observations entries = some result := by
  induction artifacts generalizing observations before with
  | nil =>
      cases success
      exact ⟨[], List.Forall₂.nil, rfl⟩
  | cons artifact rest ih =>
      simp only [readArtifacts, Update.bind_eq_ok, Update.attempt_eq_ok, insertObservation,
        okOr_eq_ok] at success
      obtain ⟨entry, _, got, next, _, ⟨inserted, rfl⟩, later⟩ := success
      obtain ⟨entries, sources, all⟩ := ih later
      refine ⟨entry :: entries, List.Forall₂.cons (fromArtifact_of_ok got) sources, ?_⟩
      rw [OrderedMap.insertAllNew, List.foldlM_cons, inserted]
      exact all

theorem readDependencies_eq_ok {read : ManifestReader} {operationId : OperationId}
    {sources : List (DependencyTranscriptInteraction × ResolvedInteraction)}
    {observations result : Observations} {before after : List LogicalObject}
    (success : readDependencies read operationId sources observations before =
      .ok result after) :
    ∃ entries, List.Forall₂ (FromInteraction read operationId) sources entries ∧
      OrderedMap.insertAllNew observations entries = some result := by
  induction sources generalizing observations before with
  | nil =>
      cases success
      exact ⟨[], List.Forall₂.nil, rfl⟩
  | cons source rest ih =>
      simp only [readDependencies, Update.bind_eq_ok, Update.attempt_eq_ok, insertObservation,
        okOr_eq_ok] at success
      obtain ⟨entry, _, got, next, _, ⟨inserted, rfl⟩, later⟩ := success
      obtain ⟨entries, others, all⟩ := ih later
      refine ⟨entry :: entries, List.Forall₂.cons (fromInteraction_of_ok got) others, ?_⟩
      rw [OrderedMap.insertAllNew, List.foldlM_cons, inserted]
      exact all

/-! ## Positions -/

omit [Primitives] in
/-- The positions of a class go on from its next one without a gap. -/
theorem positions_of_contiguous {next : AutomaticObservationClass → UInt64}
    {keys : List ObservationKey} (contiguous : requireContiguous next keys = .ok ())
    (small : ∀ observed, (next observed).toNat + keys.length < 2 ^ 64)
    (observed : AutomaticObservationClass) (position : UInt64) :
    (⟨observed, position⟩ : ObservationKey) ∈ keys ↔
      (next observed).toNat ≤ position.toNat ∧ position.toNat <
        (next observed).toNat + keys.countP fun key => key.observationClass = observed := by
  induction keys generalizing next with
  | nil =>
      rw [List.countP_nil]
      exact ⟨nofun, fun between => absurd between (by omega)⟩
  | cons key rest ih =>
      simp only [requireContiguous, bind_eq_ok, rejectIf_eq_ok, not_not] at contiguous
      obtain ⟨_, here, later⟩ := contiguous
      rw [List.length_cons] at small
      have step : (next key.observationClass + 1).toNat = (next key.observationClass).toNat + 1 := by
        have bound := small key.observationClass
        rw [UInt64.toNat_add]
        exact Nat.mod_eq_of_lt (by show (next key.observationClass).toNat + 1 < 2 ^ 64; omega)
      have shorter : ∀ other, (Function.update next key.observationClass
          (next key.observationClass + 1) other).toNat + rest.length < 2 ^ 64 := by
        intro other
        have bound := small other
        by_cases same : other = key.observationClass
        · rw [same, Function.update_self, step]
          have bound := small key.observationClass
          omega
        · rw [Function.update_of_ne same]
          omega
      have others := ih later shorter
      rw [List.mem_cons, others]
      by_cases same : observed = key.observationClass
      · subst same
        have first : (⟨key.observationClass, position⟩ : ObservationKey) = key ↔
            position.toNat = (next key.observationClass).toNat := by
          rw [UInt64.toNat_inj, ← here]
          exact ⟨fun equal => congrArg ObservationKey.position equal, fun equal => by rw [equal]⟩
        rw [Function.update_self, step, first, List.countP_cons, if_pos (decide_eq_true rfl)]
        omega
      · have apart : (⟨observed, position⟩ : ObservationKey) ≠ key :=
          fun equal => same (congrArg ObservationKey.observationClass equal)
        have uncounted : ¬ decide (key.observationClass = observed) = true :=
          fun equal => same (of_decide_eq_true equal).symm
        rw [Function.update_of_ne same, List.countP_cons, if_neg uncounted, Nat.add_zero]
        exact ⟨fun held => held.resolve_left apart, Or.inr⟩

theorem takeBaseline_eq_ok {observations after : Observations}
    {observed : AutomaticObservationClass} {request response : Bytes} :
    takeBaseline observations observed request = .ok (response, after) ↔
      ∃ record, observations[(⟨observed, 0⟩ : ObservationKey)]? = some record ∧
        record.requestDigest = Digest.of request ∧ record.outcome = .response ∧
        record.response = response ∧ observations.erase ⟨observed, 0⟩ = after := by
  simp only [takeBaseline, bind_eq_ok, okOr_eq_ok, rejectIf_eq_ok, pure_eq_ok, not_or,
    not_not, Prod.mk.injEq]
  constructor
  · rintro ⟨record, present, _, ⟨digest, outcome⟩, same⟩
    exact ⟨record, present, digest, outcome, same⟩
  · rintro ⟨record, present, digest, outcome, same⟩
    exact ⟨record, present, (), ⟨digest, outcome⟩, same⟩

/-! ## What is resolved -/

/-- The entry is the response to a fixed request, at position zero of its class. -/
structure Baseline (entries : List ObservationEntry) (observed : AutomaticObservationClass)
    (request : Bytes) (recorded : RecordedObservation) : Prop where
  member : (⟨observed, 0⟩, recorded) ∈ entries
  request : recorded.requestDigest = Digest.of request
  outcome : recorded.outcome = .response

/-- The two observations at the boundary. -/
def atBoundary (key : ObservationKey) : Prop := key = ⟨.environment, 0⟩ ∨ key = ⟨.clock, 0⟩

/-- The state artifacts and the interactions of the capsule are, one by one, the
observations of the boundary and the pending ones. -/
structure Replays (resolved : ResolvedReplayCapsule) (read : ManifestReader)
    (states calls : List ObservationEntry) (replay : AutomaticReplay) : Prop where
  artifacts : List.Forall₂ (FromArtifact read) resolved.worldArtifacts states
  interactions : ∃ dependency, resolved.dependency = some dependency ∧
    dependency.interactions.length = dependency.transcript.interactions.length ∧
    List.Forall₂ (FromInteraction read resolved.trigger.operationId)
      (dependency.transcript.interactions.zip dependency.interactions) calls
  count : (states ++ calls).length ≤ maxReplayObservations
  distinct : ((states ++ calls).map Prod.fst).Nodup
  environment : ∃ recorded, Baseline states .environment processEnvironment recorded ∧
    decodeEnvironment recorded.response = .ok replay.environment
  clock : ∃ recorded, Baseline calls .clock wallClock recorded ∧
    decodeClock recorded.response = .ok replay.boundaryClock
  pending : ∀ (key : ObservationKey) (recorded : RecordedObservation),
    replay.observations[key]? = some recorded ↔
      (key, recorded) ∈ states ++ calls ∧ ¬ atBoundary key
  positions : ∀ observed, ∃ count, ∀ position : UInt64,
    (⟨observed, position⟩ : ObservationKey) ∈ replay.observations ↔
      AutomaticReplay.firstPosition observed ≤ position.toNat ∧
        position.toNat < AutomaticReplay.firstPosition observed + count

/-! ## Assembling -/

/-- What is in the table, and where it comes from. -/
structure Recorded (resolved : ResolvedReplayCapsule) (read : ManifestReader)
    (states calls : List ObservationEntry) (observations : Observations) : Prop where
  artifacts : List.Forall₂ (FromArtifact read) resolved.worldArtifacts states
  interactions : ∃ dependency, resolved.dependency = some dependency ∧
    dependency.interactions.length = dependency.transcript.interactions.length ∧
    List.Forall₂ (FromInteraction read resolved.trigger.operationId)
      (dependency.transcript.interactions.zip dependency.interactions) calls
  count : (states ++ calls).length ≤ maxReplayObservations
  inserted : OrderedMap.insertAllNew ∅ (states ++ calls) = some observations

theorem readObservations_eq_ok {resolved : ResolvedReplayCapsule} {read : ManifestReader}
    {observations : Observations} {before after : List LogicalObject}
    (success : readObservations resolved read before = .ok observations after) :
    ∃ states calls, Recorded resolved read states calls observations := by
  simp only [readObservations, Update.bind_eq_ok, Update.attempt_eq_ok, okOr_eq_ok,
    rejectIf_eq_ok, not_or, not_not, not_lt] at success
  obtain ⟨_, _, ⟨-, rfl⟩, point, _, ⟨-, rfl⟩, dependency, _, ⟨present, rfl⟩, _, _, ⟨-, rfl⟩, _, _,
    ⟨-, rfl⟩, _, _, ⟨⟨-, same, small⟩, rfl⟩, held, _, readStates, readCalls⟩ := success
  obtain ⟨states, artifacts, first⟩ := readArtifacts_eq_ok readStates
  obtain ⟨calls, interactions, second⟩ := readDependencies_eq_ok readCalls
  refine ⟨states, calls, artifacts, ⟨dependency, present, same, interactions⟩, ?_, ?_⟩
  · rw [List.length_append, ← artifacts.length_eq, ← interactions.length_eq, List.length_zip,
      same, Nat.min_self, ← same]
    exact small
  · rw [OrderedMap.insertAllNew, List.foldlM_append]
    rw [OrderedMap.insertAllNew] at first second
    rw [first]
    exact second

namespace Recorded

variable {resolved : ResolvedReplayCapsule} {read : ManifestReader}
  {states calls : List ObservationEntry} {observations : Observations}

theorem distinct (recorded : Recorded resolved read states calls observations) :
    ((states ++ calls).map Prod.fst).Nodup :=
  (OrderedMap.insertAllNew_eq_some.mp recorded.inserted).1

theorem getElem?_eq_some (recorded : Recorded resolved read states calls observations)
    {key : ObservationKey} {value : RecordedObservation} :
    observations[key]? = some value ↔ (key, value) ∈ states ++ calls := by
  rw [(OrderedMap.insertAllNew_eq_some.mp recorded.inserted).2.2, Std.ExtTreeMap.getElem?_empty]
  exact or_iff_left nofun

theorem mem_iff (recorded : Recorded resolved read states calls observations)
    {key : ObservationKey} : key ∈ observations ↔ key ∈ (states ++ calls).map Prod.fst := by
  rw [Std.ExtTreeMap.mem_iff_isSome_getElem?, Option.isSome_iff_exists, List.mem_map]
  constructor
  · rintro ⟨value, present⟩
    exact ⟨(key, value), recorded.getElem?_eq_some.mp present, rfl⟩
  · rintro ⟨entry, member, rfl⟩
    exact ⟨entry.2, recorded.getElem?_eq_some.mpr member⟩

theorem length_keys (recorded : Recorded resolved read states calls observations) :
    observations.keys.length = (states ++ calls).length := by
  have exactly : ∀ key, key ∈ (states ++ calls).map Prod.fst ↔ key ∈ observations :=
    fun key => recorded.mem_iff.symm
  rw [Std.ExtTreeMap.length_keys, ← OrderedMap.length_eq_size recorded.distinct exactly,
    List.length_map]

theorem state_of_environment (recorded : Recorded resolved read states calls observations)
    {key : ObservationKey} {value : RecordedObservation}
    (present : observations[key]? = some value)
    (environment : key.observationClass = .environment) : (key, value) ∈ states := by
  rcases List.mem_append.mp (recorded.getElem?_eq_some.mp present) with state | call
  · exact state
  · obtain ⟨dependency, -, -, interactions⟩ := recorded.interactions
    obtain ⟨source, -, from'⟩ := exists_source interactions call
    exact absurd environment from'.transcriptClass.1

theorem call_of_clock (recorded : Recorded resolved read states calls observations)
    {key : ObservationKey} {value : RecordedObservation}
    (present : observations[key]? = some value) (clock : key.observationClass = .clock) :
    (key, value) ∈ calls := by
  rcases List.mem_append.mp (recorded.getElem?_eq_some.mp present) with state | call
  · obtain ⟨source, -, from'⟩ := exists_source recorded.artifacts state
    rcases from'.named.stateClass with environment | filesystem
    · rw [environment] at clock
      cases clock
    · rw [filesystem] at clock
      cases clock
  · exact call

end Recorded

/-- Splitting the boundary off takes its two observations and keeps the others. -/
theorem boundary_eq_ok {observations : Observations} {replay : AutomaticReplay}
    (split : boundary observations = .ok replay) :
    requireContiguousPositions observations = .ok () ∧
      (∃ record, observations[(⟨.environment, 0⟩ : ObservationKey)]? = some record ∧
        record.requestDigest = Digest.of processEnvironment ∧ record.outcome = .response ∧
        decodeEnvironment record.response = .ok replay.environment) ∧
      (∃ record, observations[(⟨.clock, 0⟩ : ObservationKey)]? = some record ∧
        record.requestDigest = Digest.of wallClock ∧ record.outcome = .response ∧
        decodeClock record.response = .ok replay.boundaryClock) ∧
      replay.observations = (observations.erase ⟨.environment, 0⟩).erase ⟨.clock, 0⟩ := by
  simp only [boundary, bind_eq_ok, pure_eq_ok] at split
  obtain ⟨_, contiguous, ⟨_, _⟩, environmentTaken, ⟨_, _⟩, clockTaken, environment, decoded, clock,
    time, rfl⟩ := split
  obtain ⟨first, firstThere, firstDigest, firstOutcome, rfl, rfl⟩ :=
    takeBaseline_eq_ok.mp environmentTaken
  obtain ⟨second, secondThere, secondDigest, secondOutcome, rfl, rfl⟩ :=
    takeBaseline_eq_ok.mp clockTaken
  rw [OrderedMap.getElem?_erase, if_neg (by decide)] at secondThere
  exact ⟨contiguous, ⟨first, firstThere, firstDigest, firstOutcome, decoded⟩,
    ⟨second, secondThere, secondDigest, secondOutcome, time⟩, rfl⟩

omit [Primitives] in
/-- The observations that are left when the boundary is taken. -/
theorem getElem?_pending {observations : Observations} {key : ObservationKey}
    {value : RecordedObservation} :
    ((observations.erase ⟨.environment, 0⟩).erase ⟨.clock, 0⟩)[key]? = some value ↔
      observations[key]? = some value ∧ ¬ atBoundary key := by
  rw [OrderedMap.getElem?_erase, OrderedMap.getElem?_erase]
  by_cases clock : (⟨.clock, 0⟩ : ObservationKey) = key
  · rw [if_pos clock]
    exact ⟨nofun, fun held => absurd (.inr clock.symm) held.2⟩
  · rw [if_neg clock]
    by_cases environment : (⟨.environment, 0⟩ : ObservationKey) = key
    · rw [if_pos environment]
      exact ⟨nofun, fun held => absurd (.inl environment.symm) held.2⟩
    · rw [if_neg environment]
      exact ⟨fun held => ⟨held, fun here => here.elim (fun same => environment same.symm)
        fun same => clock same.symm⟩, fun held => held.1⟩

omit [Primitives] in
/-- The class of position zero is one of the boundary. -/
theorem atBoundary_iff {observed : AutomaticObservationClass} {position : UInt64} :
    atBoundary ⟨observed, position⟩ ↔
      AutomaticReplay.firstPosition observed = 1 ∧ position.toNat = 0 := by
  have zero : position.toNat = 0 ↔ position = 0 := by
    rw [← UInt64.toNat_inj]
    rfl
  rw [atBoundary, ObservationKey.mk.injEq, ObservationKey.mk.injEq, zero]
  cases observed <;> simp [AutomaticReplay.firstPosition]

omit [Primitives] in
/-- The pending positions of a class go on from its first one without a gap. -/
theorem positions_pending {observations : Observations}
    (contiguous : requireContiguousPositions observations = .ok ())
    (few : observations.keys.length ≤ maxReplayObservations)
    {observed : AutomaticObservationClass}
    (baseline : AutomaticReplay.firstPosition observed = 1 →
      (⟨observed, 0⟩ : ObservationKey) ∈ observations) :
    ∃ count, ∀ position : UInt64,
      ((⟨observed, position⟩ : ObservationKey) ∈ observations ∧
        ¬ atBoundary ⟨observed, position⟩) ↔
      AutomaticReplay.firstPosition observed ≤ position.toNat ∧
        position.toNat < AutomaticReplay.firstPosition observed + count := by
  have small : ∀ other : AutomaticObservationClass,
      ((fun _ => 0 : AutomaticObservationClass → UInt64) other).toNat +
        observations.keys.length < 2 ^ 64 := by
    intro other
    show 0 + observations.keys.length < 2 ^ 64
    have bound : maxReplayObservations = 1024 := rfl
    omega
  let total := observations.keys.countP fun key => key.observationClass = observed
  have there : ∀ position : UInt64, (⟨observed, position⟩ : ObservationKey) ∈ observations ↔
      position.toNat < total := by
    intro position
    rw [← Std.ExtTreeMap.mem_keys, positions_of_contiguous contiguous small observed position]
    show 0 ≤ position.toNat ∧ position.toNat < 0 + total ↔ _
    omega
  have first : AutomaticReplay.firstPosition observed = 0 ∨
      AutomaticReplay.firstPosition observed = 1 := by
    cases observed <;> simp [AutomaticReplay.firstPosition]
  refine ⟨total - AutomaticReplay.firstPosition observed, fun position => ?_⟩
  rw [there, atBoundary_iff]
  rcases first with none | one
  · rw [none]
    omega
  · have some := (there 0).mp (baseline one)
    have zero : (0 : UInt64).toNat = 0 := rfl
    rw [one]
    omega

theorem Recorded.replays {resolved : ResolvedReplayCapsule} {read : ManifestReader}
    {states calls : List ObservationEntry} {observations : Observations}
    {replay : AutomaticReplay} (recorded : Recorded resolved read states calls observations)
    (split : boundary observations = .ok replay) :
    Replays resolved read states calls replay := by
  obtain ⟨contiguous, ⟨environment, environmentThere, environmentRequest, environmentOutcome,
    decoded⟩, ⟨clock, clockThere, clockRequest, clockOutcome, time⟩, left⟩ := boundary_eq_ok split
  have pending : ∀ (key : ObservationKey) (value : RecordedObservation),
      replay.observations[key]? = some value ↔
        observations[key]? = some value ∧ ¬ atBoundary key := by
    intro key value
    rw [left]
    exact getElem?_pending
  constructor
  case artifacts => exact recorded.artifacts
  case interactions => exact recorded.interactions
  case count => exact recorded.count
  case distinct => exact recorded.distinct
  case environment =>
    exact ⟨environment, ⟨recorded.state_of_environment environmentThere rfl, environmentRequest,
      environmentOutcome⟩, decoded⟩
  case clock =>
    exact ⟨clock, ⟨recorded.call_of_clock clockThere rfl, clockRequest, clockOutcome⟩, time⟩
  case pending =>
    intro key value
    rw [pending, recorded.getElem?_eq_some]
  case positions =>
    intro observed
    have few : observations.keys.length ≤ maxReplayObservations := by
      rw [recorded.length_keys]
      exact recorded.count
    have baseline : AutomaticReplay.firstPosition observed = 1 →
        (⟨observed, 0⟩ : ObservationKey) ∈ observations := by
      intro one
      rw [Std.ExtTreeMap.mem_iff_isSome_getElem?, Option.isSome_iff_exists]
      cases observed with
      | environment => exact ⟨environment, environmentThere⟩
      | clock => exact ⟨clock, clockThere⟩
      | _ => cases one
    obtain ⟨count, positions⟩ := positions_pending contiguous few baseline
    refine ⟨count, fun position => ?_⟩
    rw [← positions, Std.ExtTreeMap.mem_iff_isSome_getElem?, Option.isSome_iff_exists,
      Std.ExtTreeMap.mem_iff_isSome_getElem?, Option.isSome_iff_exists]
    simp only [pending, exists_and_right]

end Backend

variable [Primitives]

/-- If an automatic World is resolved, its state artifacts and interactions are, one by one,
the observations at the boundary and the pending ones: at most 1024, at different places,
with the class, position, request digest, outcome and response of their source, read as
their descriptors say. -/
theorem automatic_replays {resolved : ResolvedReplayCapsule} {read : ManifestReader}
    {replay : AutomaticReplay} {before after : List LogicalObject}
    (success : resolveAutomaticReplay resolved read before = .ok replay after) :
    ∃ states calls, Replays resolved read states calls replay := by
  rw [resolveAutomaticReplay, Update.bind_eq_ok] at success
  obtain ⟨observations, _, collected, split⟩ := success
  obtain ⟨states, calls, recorded⟩ := readObservations_eq_ok collected
  exact ⟨states, calls, recorded.replays (Update.attempt_eq_ok.mp split).1⟩

/-! ## A capsule of a boundary -/

namespace ReplaySample

omit [Primitives] in
theorem length_mod_lt (bytes : Bytes) : bytes.length % 2 ^ 256 < 2 ^ 256 :=
  Nat.mod_lt _ (by decide)

/-- The size of a content for its digest: it tells the few contents here apart. -/
@[reducible] def sized : Primitives :=
  { Sample.primitives with
    sha256 := fun bytes => ⟨bytes.length % 2 ^ 256, length_mod_lt bytes⟩ }

omit [Primitives] in
def environment : Bytes := Json.textBytes ['\x7b', '\x7d']

omit [Primitives] in
def clock : Bytes := Json.textBytes Sample.time.text.toList

def object (index : Nat) (bytes : Bytes) : LogicalObject where
  mediaType := "application/octet-stream"
  objectId := Sample.id index
  plainDigest := Digest.of bytes
  plainSize := UInt64.ofNat bytes.length
  role := .worldState

def uri : String :=
  stateScheme ++ "/".intercalate ["automatic.environment",
    (Digest.of processEnvironment).toText, "0", "response"]

def artifact : ArtifactReference where
  digest := Digest.of environment
  mediaType := "application/octet-stream"
  size := UInt64.ofNat environment.length
  uri := uri

def point : Reproit.RecoverablePoint :=
  { Sample.point [artifact] with
    capabilities := ["capture.automatic-world.v1"]
    engineIdentity := "reproit-native"
    engineVersion := "1.0.0"
    providerId := "automatic-world"
    resourceClaim :=
      { materializedBytes := 2, objects := 2, pinnedBytes := 2, temporaryBytes := 0 } }

def world : WorldCheckpoint where
  createdAt := Sample.time
  format := .v1
  points := [point]

def interaction : DependencyTranscriptInteraction where
  causalParentId := none
  operationId := Sample.id 0
  outcome := .response
  requestDigest := Digest.of wallClock
  requestObjectId := Sample.id 11
  responseDigest := Digest.of clock
  responseObjectId := Sample.id 12
  sequence := 0
  sessionPosition := 0

def transcript : DependencyTranscript where
  adapterId := "reproit-native"
  adapterVersion := "1.0.0"
  format := .v1
  interactions := [interaction]

/-- A capsule that recorded the boundary of its operation and nothing else. -/
def capsule : ResolvedReplayCapsule :=
  { Sample.resolved Sample.single with
    world := world
    worldArtifacts := [{ artifact, object := object 10 environment, pointIndex := 0 }]
    dependency := some
      { interactions := [{ request := object 11 wallClock, response := object 12 clock }]
        manifestObject := object 13 []
        transcript } }

omit [Primitives] in
def reader : ManifestReader := fun _ object =>
  if object.objectId = Sample.id 10 then .ok environment
  else if object.objectId = Sample.id 11 then .ok wallClock
  else .ok clock

def atEnvironment : RecordedObservation where
  outcome := .response
  response := environment
  requestDigest := Digest.of processEnvironment

def atClock : RecordedObservation where
  outcome := .response
  response := clock
  requestDigest := Digest.of wallClock

def observations : Observations :=
  ((∅ : Observations).insert ⟨.environment, 0⟩ atEnvironment).insert ⟨.clock, 0⟩ atClock

set_option maxRecDepth 4000 in
omit [Primitives] in
theorem validate_point : (@point sized).validate = .ok () := by
  decide

omit [Primitives] in
theorem validate_world : (@world sized).validate = .ok () :=
  WorldCheckpoint.validate_of_point validate_point (le_refl Sample.time) (Nat.le_of_ble_eq_true rfl)
    (Nat.le_of_ble_eq_true rfl) rfl

theorem validate_transcript : transcript.validate = .ok () := by
  have adapter : validComponent "reproit-native" = true ∧ "1.0.0".isEmpty = false ∧
      "1.0.0".utf8ByteSize ≤ 64 := by decide
  simp [DependencyTranscript.validate, transcript, bind_eq_ok, rejectIf_eq_ok, forEach_eq_ok,
    adapter, interaction]

theorem stateIdentity_uri : stateIdentity uri =
    .ok (⟨.environment, 0⟩, Digest.of processEnvironment, .response) :=
  stateIdentity_eq_ok.mpr ⟨.inl rfl, by decide, rfl⟩

omit [Primitives] in
theorem readArtifact_sample : letI := sized
    readArtifact reader { artifact, object := object 10 environment, pointIndex := 0 } [] =
      .ok (⟨.environment, 0⟩, atEnvironment) [object 10 environment] := by
  let _ := sized
  refine Update.bind_eq_ok.mpr ⟨_, _, rfl, ?_⟩
  exact Update.bind_eq_ok.mpr ⟨_, _, Update.attempt_eq_ok.mpr ⟨stateIdentity_uri, rfl⟩, rfl⟩

omit [Primitives] in
theorem readInteraction_sample (before : List LogicalObject) : letI := sized
    readInteraction reader (Sample.id 0) interaction
      { request := object 11 wallClock, response := object 12 clock } before =
        .ok (⟨.clock, 0⟩, atClock) (before ++ [object 11 wallClock] ++ [object 12 clock]) := by
  rfl

omit [Primitives] in
theorem automaticPoint_world : automaticPoint (@world sized) = .ok (@point sized) := by
  rfl

theorem inserted : insertObservation ∅ ⟨.environment, 0⟩ atEnvironment =
    .ok ((∅ : Observations).insert ⟨.environment, 0⟩ atEnvironment) := by
  rw [insertObservation, okOr_eq_ok, OrderedMap.insertNew_eq_some]
  exact ⟨Std.ExtTreeMap.not_mem_empty, rfl⟩

theorem inserted_both :
    insertObservation ((∅ : Observations).insert ⟨.environment, 0⟩ atEnvironment) ⟨.clock, 0⟩
      atClock = .ok observations := by
  rw [insertObservation, okOr_eq_ok, OrderedMap.insertNew_eq_some]
  refine ⟨?_, rfl⟩
  rw [Std.ExtTreeMap.mem_insert, not_or]
  exact ⟨by decide, Std.ExtTreeMap.not_mem_empty⟩

omit [Primitives] in
theorem readObservations_sample : letI := sized
    ∃ after, readObservations capsule reader [] = .ok observations after := by
  let _ := sized
  refine ⟨[object 10 environment] ++ [object 11 wallClock] ++ [object 12 clock], ?_⟩
  rw [readObservations]
  refine Update.bind_eq_ok.mpr ⟨(), [], Update.attempt_eq_ok.mpr ⟨validate_world, rfl⟩, ?_⟩
  refine Update.bind_eq_ok.mpr ⟨point, [], Update.attempt_eq_ok.mpr ⟨automaticPoint_world, rfl⟩, ?_⟩
  refine Update.bind_eq_ok.mpr ⟨_, [], rfl, ?_⟩
  refine Update.bind_eq_ok.mpr ⟨(), [], Update.attempt_eq_ok.mpr ⟨validate_transcript, rfl⟩, ?_⟩
  refine Update.bind_eq_ok.mpr ⟨(), [], rfl, ?_⟩
  refine Update.bind_eq_ok.mpr ⟨(), [], rfl, ?_⟩
  refine Update.bind_eq_ok.mpr ⟨(∅ : Observations).insert ⟨.environment, 0⟩ atEnvironment,
    [object 10 environment], ?_, ?_⟩
  · refine Update.bind_eq_ok.mpr ⟨_, _, readArtifact_sample, ?_⟩
    exact Update.bind_eq_ok.mpr ⟨_, _, Update.attempt_eq_ok.mpr ⟨inserted, rfl⟩, rfl⟩
  · refine Update.bind_eq_ok.mpr ⟨_, _, readInteraction_sample _, ?_⟩
    exact Update.bind_eq_ok.mpr ⟨_, _, Update.attempt_eq_ok.mpr ⟨inserted_both, rfl⟩, rfl⟩


omit [Primitives] in
/-- One observation of each class, at the next position of the class. -/
theorem requireContiguous_of_apart {next : AutomaticObservationClass → UInt64}
    {keys : List ObservationKey} (first : ∀ key ∈ keys, key.position = next key.observationClass)
    (apart : keys.Pairwise fun one other => one.observationClass ≠ other.observationClass) :
    requireContiguous next keys = .ok () := by
  induction keys generalizing next with
  | nil => rfl
  | cons key rest ih =>
      obtain ⟨others, later⟩ := List.pairwise_cons.mp apart
      rw [requireContiguous, rejectIf_of_not _ (not_not.mpr (first key List.mem_cons_self)), ok_bind]
      refine ih (fun other member => ?_) later
      rw [Function.update_of_ne (others other member).symm]
      exact first other (List.mem_cons_of_mem _ member)

theorem keys_perm : observations.keys.Perm [⟨.clock, 0⟩, ⟨.environment, 0⟩] := by
  have first : ((∅ : Observations).insert ⟨.environment, 0⟩ atEnvironment)[(⟨.clock, 0⟩ :
      ObservationKey)]? = none := by
    rw [OrderedMap.getElem?_insert, if_neg nofun, Std.ExtTreeMap.getElem?_empty]
  have empty := @OrderedMap.toList_insert_perm ObservationKey RecordedObservation _ ∅
    ⟨.environment, 0⟩ Std.ExtTreeMap.getElem?_empty atEnvironment
  rw [OrderedMap.toList_empty] at empty
  have whole := ((OrderedMap.toList_insert_perm first atClock).trans (empty.cons _)).map Prod.fst
  rwa [Std.ExtTreeMap.map_fst_toList_eq_keys] at whole

theorem contiguous : requireContiguousPositions observations = .ok () := by
  apply requireContiguous_of_apart
  · intro key member
    have listed := keys_perm.subset member
    simp only [List.mem_cons, List.not_mem_nil, or_false] at listed
    rcases listed with rfl | rfl
    · rfl
    · rfl
  · apply (keys_perm.pairwise_iff fun different same => different same.symm).mpr
    simp

omit [Primitives] in
theorem decodeEnvironment_empty : decodeEnvironment environment = .ok [] := by
  have shallow : Json.depth (.object []) ≤ Json.maxDepth := by decide
  have plain : Json.Plain (.object []) := ⟨.nil, nofun, trivial⟩
  have parsed : Canonical.parseStrictValue environment = .ok (.object []) :=
    Canonical.parseStrictValue_render shallow plain
  have written : Canonical.valueBytes (.object []) = .ok environment :=
    Canonical.valueBytes_of_plain shallow plain
  have texts : parseTexts environment = .ok [] := by
    rw [parseTexts, parsed, ok_bind]
    show (Canonical.valueBytes (.object []) >>= _) = _
    rw [written, ok_bind, rejectIf_of_not _ (not_not.mpr rfl)]
    rfl
  rw [decodeEnvironment, texts, ok_bind]
  rfl

omit [Primitives] in
theorem decodeClock_time : decodeClock clock = .ok Sample.time := by
  have text : Json.bytesText clock = some Sample.time.text.toList := Json.bytesText_textBytes _
  rw [decodeClock, text, okOr, ok_bind, String.ofList_toList, Timestamp.ofText_text, okOr]

theorem getElem?_environment :
    observations[(⟨.environment, 0⟩ : ObservationKey)]? = some atEnvironment := by
  rw [observations, OrderedMap.getElem?_insert, if_neg nofun, OrderedMap.getElem?_insert,
    if_pos rfl]

theorem getElem?_clock : (observations.erase ⟨.environment, 0⟩)[(⟨.clock, 0⟩ : ObservationKey)]? =
    some atClock := by
  rw [OrderedMap.getElem?_erase, if_neg nofun, observations, OrderedMap.getElem?_insert,
    if_pos rfl]

/-- The observations at the boundary leave nothing pending. -/
def replay : AutomaticReplay where
  environment := []
  boundaryClock := Sample.time
  observations := (observations.erase ⟨.environment, 0⟩).erase ⟨.clock, 0⟩

theorem split : boundary observations = .ok replay := by
  have environmentThere : takeBaseline observations .environment processEnvironment =
      .ok (environment, observations.erase ⟨.environment, 0⟩) :=
    takeBaseline_eq_ok.mpr ⟨atEnvironment, getElem?_environment, rfl, rfl, rfl, rfl⟩
  have clockThere : takeBaseline (observations.erase ⟨.environment, 0⟩) .clock wallClock =
      .ok (clock, (observations.erase ⟨.environment, 0⟩).erase ⟨.clock, 0⟩) :=
    takeBaseline_eq_ok.mpr ⟨atClock, getElem?_clock, rfl, rfl, rfl, rfl⟩
  rw [boundary, contiguous, ok_bind, environmentThere, ok_bind]
  dsimp only
  rw [clockThere, ok_bind]
  dsimp only
  rw [decodeEnvironment_empty, ok_bind, decodeClock_time]
  rfl

end ReplaySample

omit [Primitives] in
/-- The capsule that recorded the boundary only. -/
theorem automatic_replays_boundary :
    letI := ReplaySample.sized
    ∃ replay after states calls,
      resolveAutomaticReplay ReplaySample.capsule ReplaySample.reader [] = .ok replay after ∧
        Replays ReplaySample.capsule ReplaySample.reader states calls replay := by
  let _ := ReplaySample.sized
  obtain ⟨after, collected⟩ := ReplaySample.readObservations_sample
  have success : resolveAutomaticReplay ReplaySample.capsule ReplaySample.reader [] =
      .ok ReplaySample.replay after := by
    rw [resolveAutomaticReplay]
    exact Update.bind_eq_ok.mpr ⟨_, _, collected, Update.attempt_eq_ok.mpr
      ⟨ReplaySample.split, rfl⟩⟩
  obtain ⟨states, calls, replays⟩ := automatic_replays success
  exact ⟨_, after, states, calls, success, replays⟩

end Reproit
