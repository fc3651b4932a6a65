/-
# The World of an automatic capture

The observations of the environment and the filesystem are the state artifacts of one
recoverable point.  Every artifact takes a known number of bytes in the checkpoint, and the
checkpoint of the observations is valid exactly when these bytes fit with the fields of the
point.  The number of observations that a replay allows is more than fit.
-/

import Reproit.Automatic.Resolving
import Reproit.Core.ManifestSize

namespace Reproit

open Backend Json

namespace Automatic

/-- An observation with the content of its response. -/
structure Observed where
  key : ObservationKey
  outcome : DependencyOutcome
  requestDigest : Digest
  responseDigest : Digest
  responseSize : UInt64
  deriving DecidableEq

namespace Observed

/-- The observation is stored as a state artifact. -/
def isState (observed : Observed) : Bool :=
  observed.key.observationClass = .environment || observed.key.observationClass = .filesystem

def uri (observed : Observed) : String :=
  stateScheme ++ "/".intercalate [observed.key.observationClass.boundaryId,
    observed.requestDigest.toText, String.ofList (Nat.toDigits 10 observed.key.position.toNat),
    observed.outcome.name]

def artifact (observed : Observed) : ArtifactReference where
  digest := observed.responseDigest
  mediaType := "application/octet-stream"
  size := observed.responseSize
  uri := observed.uri

/-- The bytes of the artifact in the checkpoint. -/
def stateBytes (observed : Observed) : Nat :=
  249 + observed.key.observationClass.boundaryId.length + observed.outcome.name.length +
    digits observed.key.position.toNat + digits observed.responseSize.toNat

/-- The replay reads the observation back from its address. -/
theorem stateIdentity_uri {observed : Observed} (state : observed.isState = true)
    (within : observed.key.position.toNat < maxReplayObservations) :
    stateIdentity observed.uri = .ok (observed.key, observed.requestDigest, observed.outcome) := by
  rw [isState, Bool.or_eq_true, decide_eq_true_eq, decide_eq_true_eq] at state
  exact stateIdentity_eq_ok.mpr ⟨state, within, rfl⟩

/-! ## One artifact -/

theorem toList_uri (observed : Observed) : observed.uri.toList =
    stateScheme.toList ++ (observed.key.observationClass.boundaryId.toList ++
      '/' :: (observed.requestDigest.toText.toList ++
        '/' :: (Nat.toDigits 10 observed.key.position.toNat ++
          '/' :: observed.outcome.name.toList))) := by
  simp [uri]

/-- A character that an address may have. -/
def AddressChar (c : Char) : Prop := PlainChar c ∧ c.toNat < 127

theorem addressChar_of_all {text : String} (all : text.toList.all (fun c =>
    c ≠ quote ∧ c ≠ backslash ∧ 32 ≤ c.toNat ∧ c.toNat < 127) = true) :
    ∀ c ∈ text.toList, AddressChar c := by
  intro c listed
  obtain ⟨noQuote, noEscape, printed, small⟩ := of_decide_eq_true (List.all_eq_true.mp all c listed)
  exact ⟨⟨noQuote, noEscape, printed⟩, small⟩

theorem addressChar_of_hexText {width number : Nat} :
    ∀ c ∈ Radix.hexText width number, AddressChar c := by
  intro c listed
  have hex := Radix.hexValue_isSome_of_mem_hexText listed
  obtain ⟨plain, ascii⟩ := plain_of_hexValue hex
  have printed : c.toNat ≠ 127 := by
    intro delete
    obtain rfl := Char.toNat_inj.mp (delete.trans (by decide : 127 = '\x7f'.toNat))
    exact absurd hex (by decide)
  exact ⟨plain, by omega⟩

theorem addressChar_of_toDigits {number : Nat} :
    ∀ c ∈ Nat.toDigits 10 number, AddressChar c := by
  intro c listed
  have digit := toDigits_isDigit c listed
  simp only [Char.isDigit, Bool.and_eq_true, decide_eq_true_eq, ge_iff_le] at digit
  have low : 48 ≤ c.toNat := UInt32.le_iff_toNat_le.mp digit.1
  have high : c.toNat ≤ 57 := UInt32.le_iff_toNat_le.mp digit.2
  refine ⟨⟨?_, ?_, by omega⟩, by omega⟩
  · rintro rfl
    exact absurd low (by decide)
  · rintro rfl
    exact absurd high (by decide)

theorem addressChar_uri (observed : Observed) : ∀ c ∈ observed.uri.toList, AddressChar c := by
  have scheme : ∀ c ∈ stateScheme.toList, AddressChar c := addressChar_of_all (by decide)
  have boundary : ∀ c ∈ observed.key.observationClass.boundaryId.toList, AddressChar c := by
    apply addressChar_of_all
    cases observed.key.observationClass <;> decide
  have outcome : ∀ c ∈ observed.outcome.name.toList, AddressChar c := by
    apply addressChar_of_all
    cases observed.outcome <;> decide
  have slash : AddressChar '/' := ⟨⟨by decide, by decide, by decide⟩, by decide⟩
  have tag : ∀ c ∈ Digest.tag, AddressChar c := by
    have all := @addressChar_of_all "sha256:" (by decide)
    exact all
  intro c listed
  rw [toList_uri, Digest.toText, String.toList_ofList] at listed
  simp only [List.mem_append, List.mem_cons] at listed
  rcases listed with first | second | rfl | (third | fourth) | rfl | fifth | rfl | sixth
  · exact scheme c first
  · exact boundary c second
  · exact slash
  · exact tag c third
  · exact addressChar_of_hexText c fourth
  · exact slash
  · exact addressChar_of_toDigits c fifth
  · exact slash
  · exact outcome c sixth

theorem length_uri (observed : Observed) : observed.uri.toList.length =
    108 + observed.key.observationClass.boundaryId.length + observed.outcome.name.length +
      digits observed.key.position.toNat := by
  have scheme : stateScheme.toList.length = 34 := by decide
  have digest : observed.requestDigest.toText.toList.length = 71 := by
    rw [Digest.toText, String.toList_ofList, List.length_append, Radix.length_hexText]
    rfl
  rw [toList_uri]
  simp only [List.length_append, List.length_cons, scheme, digest, String.length_toList, digits]
  omega

theorem size_artifact (observed : Observed) :
    ArtifactReference.codec.size observed.artifact = observed.stateBytes := by
  have names : stringSize "digest" = 8 ∧ stringSize "media_type" = 12 ∧ stringSize "size" = 6 ∧
      stringSize "uri" = 5 ∧ stringSize "application/octet-stream" = 26 := by decide
  have address : stringSize observed.uri = 2 + observed.uri.toList.length := by
    apply stringSize_of_plain
    intro c listed
    obtain ⟨plain, small⟩ := observed.addressChar_uri c listed
    exact ⟨plain, by omega⟩
  simp only [ArtifactReference.codec, artifact, Digest.codec, Codec.size_record, Codec.size_text,
    Codec.size_uint64, Fields.size_required, Fields.size_done, Digest.stringSize_toText,
    Codec.size_string, names, address, length_uri, stateBytes]
  omega

/-- An artifact of a bounded response is valid. -/
theorem validate_artifact {observed : Observed}
    (bounded : observed.responseSize.toNat ≤ maxObjectBytes) :
    observed.artifact.validate = .ok () := by
  have position := Codec.size_uint64_le observed.key.position
  have boundary : observed.key.observationClass.boundaryId.length ≤ 30 := by
    cases observed.key.observationClass <;> decide
  have outcome : observed.outcome.name.length ≤ 8 := by
    cases observed.outcome <;> decide
  have length := observed.length_uri
  rw [Codec.size_uint64] at position
  have media : ("application/octet-stream".isEmpty = false ∧
      "application/octet-stream".utf8ByteSize ≤ 256) ∧
      "application/octet-stream".toList.any ArtifactReference.isControl = false := by decide
  have bytes : observed.uri.utf8ByteSize = observed.uri.toList.length := by
    rw [← String.ofList_toList (s := observed.uri), utf8ByteSize_ofList, length_textBytes_of_ascii,
      String.toList_ofList]
    intro c listed
    have small := (observed.addressChar_uri c listed).2
    omega
  have printed : observed.uri.toList.any ArtifactReference.isControl = false := by
    rw [List.any_eq_false]
    intro c listed
    obtain ⟨⟨-, -, low⟩, high⟩ := observed.addressChar_uri c listed
    simp only [ArtifactReference.isControl, Bool.or_eq_true, decide_eq_true_eq]
    omega
  have nonempty : observed.uri.isEmpty = false := by
    rw [String.isEmpty_eq_false_iff]
    intro empty
    rw [empty] at length
    simp only [String.toList_empty, List.length_nil] at length
    omega
  rw [ArtifactReference.validate, rejectIf_eq_ok]
  rintro (empty | long | empty | long | large | control)
  · exact absurd (media.1.1.symm.trans empty) (by decide)
  · exact absurd media.1.2 (Nat.not_le_of_lt long)
  · exact absurd (nonempty.symm.trans empty) (by decide)
  · have short : observed.uri.utf8ByteSize ≤ 2048 := by omega
    exact absurd short (Nat.not_le_of_lt long)
  · exact absurd bounded (Nat.not_le_of_lt large)
  · rw [artifact, List.any_append, media.2, printed] at control
    cases control

end Observed

/-! ## The World -/

/-- The observations that are stored as state artifacts. -/
def states (observations : List Observed) : List Observed := observations.filter Observed.isState

/-- A recoverable point of the automatic provider. -/
structure IsAutomatic (point : RecoverablePoint) : Prop where
  providerId : point.providerId = "automatic-world"
  engineIdentity : point.engineIdentity = "reproit-native"
  engineVersion : point.engineVersion = "1.0.0"
  capabilities : point.capabilities = ["capture.automatic-world.v1"]

/-- The claim has room for the responses of the observations. -/
structure Covers (claim : ProviderResourceClaim) (observations : List Observed) : Prop where
  bytes : (observations.map fun observed => observed.responseSize.toNat).sum ≤
    claim.pinnedBytes.toNat
  objects : observations.length ≤ claim.objects.toNat

/-- The point with the state artifacts of the observations. -/
def automaticPoint (point : RecoverablePoint) (observations : List Observed) : RecoverablePoint :=
  { point with artifacts := (states observations).map Observed.artifact }

def automaticWorld (createdAt : Timestamp) (point : RecoverablePoint)
    (observations : List Observed) : WorldCheckpoint where
  createdAt := createdAt
  format := .v1
  points := [automaticPoint point observations]

def claimBytes (claim : ProviderResourceClaim) : Nat :=
  69 + digits claim.materializedBytes.toNat + digits claim.objects.toNat +
    digits claim.pinnedBytes.toNat + digits claim.temporaryBytes.toNat

/-- The bytes of the World but for its artifacts. -/
def identityBytes (createdAt : Timestamp) (point : RecoverablePoint) : Nat :=
  442 + stringSize createdAt.text + stringSize point.point + stringSize point.publishedAt.text +
    stringSize point.recoverableUntil.text + digits point.generation.toNat +
    claimBytes point.resourceClaim + CheckpointScope.codec.size point.scope

theorem size_claim : ProviderResourceClaim.codec.size = claimBytes := by
  funext claim
  have names : stringSize "materialized_bytes" = 20 ∧ stringSize "objects" = 9 ∧
      stringSize "pinned_bytes" = 14 ∧ stringSize "temporary_bytes" = 17 := by decide
  simp only [ProviderResourceClaim.codec, Codec.size_record, Codec.size_uint64,
    Fields.size_required, Fields.size_done, names, claimBytes]
  omega

section

variable {createdAt : Timestamp} {point : RecoverablePoint} {observations : List Observed}

/-- The World takes the bytes of its fields and of its artifacts. -/
theorem length_text_automaticWorld (automatic : IsAutomatic point) :
    (Canonical.text (automaticWorld createdAt point observations)).length =
      identityBytes createdAt point +
        arrayBytes ((states observations).map Observed.stateBytes) := by
  have names : stringSize "artifacts" = 11 ∧ stringSize "capabilities" = 14 ∧
      stringSize "configuration_digest" = 22 ∧ stringSize "engine_identity" = 17 ∧
      stringSize "engine_version" = 16 ∧ stringSize "format" = 8 ∧ stringSize "generation" = 12 ∧
      stringSize "point" = 7 ∧ stringSize "provider_id" = 13 ∧ stringSize "published_at" = 14 ∧
      stringSize "recoverable_until" = 19 ∧ stringSize "resource_claim" = 16 ∧
      stringSize "scope" = 7 ∧ stringSize "created_at" = 12 ∧ stringSize "points" = 8 := by decide
  have texts : stringSize "automatic-world" = 17 ∧ stringSize "reproit-native" = 16 ∧
      stringSize "1.0.0" = 7 ∧ stringSize "capture.automatic-world.v1" = 28 := by decide
  have formats : (Format.codec "reproit.recoverable-point.v1").size point.format = 30 ∧
      (Format.codec "reproit.world-checkpoint.v1").size .v1 = 29 := by
    cases point.format
    decide
  have artifacts : (Codec.list ArtifactReference.codec).size
      ((states observations).map Observed.artifact) =
        arrayBytes ((states observations).map Observed.stateBytes) := by
    rw [Codec.size_list_eq, List.map_map]
    exact congrArg arrayBytes (List.map_congr_left fun observed _ => observed.size_artifact)
  have one : ∀ size, arrayBytes [size] = 2 + size := by
    intro size
    rw [arrayBytes, List.map_singleton, List.sum_singleton]
    omega
  rw [Canonical.length_text]
  change WorldCheckpoint.codec.size _ = _
  simp only [WorldCheckpoint.codec, RecoverablePoint.codec, automaticWorld, automaticPoint,
    Digest.codec, Timestamp.codec, Codec.size_record, Codec.size_text, Codec.size_list_eq _ [_],
    Codec.size_uint64, Fields.size_required, Fields.size_done, Digest.stringSize_toText,
    Codec.size_string, List.map_cons, List.map_nil, artifacts, size_claim, automatic.providerId,
    automatic.engineIdentity, automatic.engineVersion, automatic.capabilities, names, texts,
    formats, one, identityBytes]
  omega

/-- The point with the artifacts is valid when its own fields are. -/
theorem validate_automaticPoint (valid : point.validate = .ok ())
    (count : observations.length ≤ maxReplayObservations)
    (bounded : ∀ observed ∈ observations, observed.responseSize.toNat ≤ maxObjectBytes)
    (covers : Covers point.resourceClaim (states observations)) :
    (automaticPoint point observations).validate = .ok () := by
  simp only [RecoverablePoint.validate, bind_eq_ok, rejectIf_eq_ok, forEach_eq_ok, okOr_eq_ok,
    not_or, not_lt] at valid ⊢
  obtain ⟨_, ⟨_, fields⟩, _, capabilities, _, claim, _, scope, -⟩ := valid
  have few : (states observations).length ≤ maxReplayObservations :=
    (List.length_filter_le _ _).trans count
  have sizes : ((automaticPoint point observations).artifacts.map ArtifactReference.size).map
      UInt64.toNat = (states observations).map fun observed => observed.responseSize.toNat := by
    rw [automaticPoint, List.map_map, List.map_map]
    rfl
  obtain ⟨total, sum⟩ : ∃ total : UInt64, total.toNat =
      ((states observations).map fun observed => observed.responseSize.toNat).sum :=
    ⟨_, UInt64.toNat_ofNat_of_lt' (lt_of_le_of_lt covers.bytes
      point.resourceClaim.pinnedBytes.toNat_lt)⟩
  refine ⟨(), ⟨?_, fields⟩, (), capabilities, (), claim, (), scope, (), ?_, total,
    checkedSum_eq_some.mpr ?_, ?_⟩
  · rw [maxReplayObservations] at few
    rw [automaticPoint, List.length_map]
    omega
  · intro artifact listed
    obtain ⟨observed, member, rfl⟩ := List.mem_map.mp listed
    exact Observed.validate_artifact (bounded observed (List.mem_of_mem_filter member))
  · rw [sizes, sum, UInt64.toNat_zero, zero_add]
  · have pinned : total ≤ point.resourceClaim.pinnedBytes := by
      rw [UInt64.le_iff_toNat_le, sum]
      exact covers.bytes
    refine ⟨UInt64.not_lt.mpr pinned, ?_⟩
    rw [automaticPoint, List.length_map]
    exact covers.objects

/-- The World is valid exactly when its checkpoint is small. -/
theorem validate_automaticWorld_iff (published : point.publishedAt ≤ createdAt)
    (valid : (automaticPoint point observations).validate = .ok ()) :
    (automaticWorld createdAt point observations).validate = .ok () ↔
      (Canonical.text (automaticWorld createdAt point observations)).length ≤
        maxWorldManifestBytes := by
  have exact : Document.Exact (automaticWorld createdAt point observations) := by
    change WorldCheckpoint.codec.exact _ = true
    simp [WorldCheckpoint.codec, Timestamp.codec, Format.codec, automaticWorld,
      WorldCheckpoint.exact_of_point valid]
  constructor
  · intro whole
    exact (WorldCheckpoint.exact_of_validate whole).2
  · intro small
    simp only [WorldCheckpoint.validate, bind_eq_ok, rejectIf_eq_ok, not_lt]
    refine ⟨(), Nat.one_le_ofNat, (), ?_, _, Canonical.bytes_of_exact exact, small⟩
    simp only [automaticWorld, WorldCheckpoint.validatePoints, bind_eq_ok, rejectIf_eq_ok]
    refine ⟨(), valid, (), ?_, trivial⟩
    rw [not_or, not_lt]
    exact ⟨published, List.not_mem_nil⟩

variable [Primitives]

/-- The observations of a capture that a replay may resolve: not too many, without a gap in
any class, with both baselines and within the sizes of their payloads. -/
structure WithinLimits (observations : List Observed) : Prop where
  count : observations.length ≤ maxReplayObservations
  contiguous : ∀ observationClass, ∃ count,
    ((observations.filter fun observed => observed.key.observationClass = observationClass).map
      fun observed => observed.key.position.toNat).Perm (List.range count)
  environment : ∃ observed ∈ observations, observed.key = ⟨.environment, 0⟩ ∧
    observed.requestDigest = Digest.of processEnvironment ∧ observed.outcome = .response
  clock : ∃ observed ∈ observations, observed.key = ⟨.clock, 0⟩ ∧
    observed.requestDigest = Digest.of wallClock ∧ observed.outcome = .response
  sizes : ∀ observed ∈ observations, observed.responseSize.toNat ≤
    if observed.key = ⟨.environment, 0⟩ then maxEnvironmentObjectBytes else maxRecordBytes

theorem WithinLimits.bounded (within : WithinLimits observations) :
    ∀ observed ∈ observations, observed.responseSize.toNat ≤ maxObjectBytes := by
  intro observed listed
  have size := within.sizes observed listed
  split_ifs at size
  · exact size.trans (by decide)
  · exact size.trans (by decide)

/-- The World of a capture within the limits of the replay is valid exactly when the bytes of
its fields and its artifacts are within the limit of a checkpoint. -/
theorem automaticWorld_valid_iff (within : WithinLimits observations)
    (automatic : IsAutomatic point) (valid : point.validate = .ok ())
    (published : point.publishedAt ≤ createdAt)
    (covers : Covers point.resourceClaim (states observations)) :
    (automaticWorld createdAt point observations).validate = .ok () ↔
      identityBytes createdAt point + arrayBytes ((states observations).map Observed.stateBytes) ≤
        maxWorldManifestBytes := by
  have artifacts := validate_automaticPoint valid within.count within.bounded covers
  rw [validate_automaticWorld_iff published artifacts, length_text_automaticWorld automatic]

omit [Primitives] in
/-- Nine hundred and fifty state artifacts never fit. -/
theorem not_valid_of_many (automatic : IsAutomatic point)
    (many : 950 ≤ (states observations).length) :
    (automaticWorld createdAt point observations).validate ≠ .ok () := by
  intro valid
  have small := (WorldCheckpoint.exact_of_validate valid).2
  rw [length_text_automaticWorld automatic, maxWorldManifestBytes] at small
  have each := List.card_nsmul_le_sum (((states observations).map Observed.stateBytes).map (1 + ·))
    277 fun size member => by
      obtain ⟨_, listed, rfl⟩ := List.mem_map.mp member
      obtain ⟨observed, state, rfl⟩ := List.mem_map.mp listed
      have boundary : 20 ≤ observed.key.observationClass.boundaryId.length := by
        have kind := (List.mem_filter.mp state).2
        rw [Observed.isState, Bool.or_eq_true, decide_eq_true_eq, decide_eq_true_eq] at kind
        rcases kind with environment | filesystem
        · rw [environment]
          decide
        · rw [filesystem]
          decide
      have outcome : 5 ≤ observed.outcome.name.length := by cases observed.outcome <;> decide
      have position := digits_pos observed.key.position.toNat
      have response := digits_pos observed.responseSize.toNat
      rw [Observed.stateBytes]
      omega
  rw [List.length_map, List.length_map, smul_eq_mul] at each
  have artifacts : (states observations).length * 277 ≤
      arrayBytes ((states observations).map Observed.stateBytes) := by
    rw [arrayBytes]
    omega
  omega

end

/-! ## Small and large captures -/

namespace WorldSample

def worldPoint : RecoverablePoint :=
  { Sample.point [] with
    capabilities := ["capture.automatic-world.v1"]
    engineIdentity := "reproit-native"
    engineVersion := "1.0.0"
    providerId := "automatic-world"
    resourceClaim :=
      { materializedBytes := 1048576, objects := 1024, pinnedBytes := 1048576
        temporaryBytes := 0 } }

theorem validate_worldPoint : worldPoint.validate = .ok () := by decide

theorem isAutomatic_worldPoint : IsAutomatic worldPoint := ⟨rfl, rfl, rfl, rfl⟩

variable [Primitives]

/-- The environment at the boundary. -/
def environment : Observed where
  key := ⟨.environment, 0⟩
  outcome := .response
  requestDigest := Digest.of processEnvironment
  responseDigest := ⟨0⟩
  responseSize := 2

/-- The time at the boundary. -/
def clock : Observed where
  key := ⟨.clock, 0⟩
  outcome := .response
  requestDigest := Digest.of wallClock
  responseDigest := ⟨0⟩
  responseSize := 20

/-- A read of a file. -/
def fileRead (position : Nat) : Observed where
  key := ⟨.filesystem, UInt64.ofNat position⟩
  outcome := .response
  requestDigest := ⟨0⟩
  responseDigest := ⟨0⟩
  responseSize := 200

/-- Both baselines and a number of reads of files. -/
def fileReads (count : Nat) : List Observed :=
  environment :: clock :: (List.range count).map fileRead

theorem withinLimits_fileReads {count : Nat} (few : count ≤ 1022) :
    WithinLimits (fileReads count) := by
  constructor
  case count =>
    rw [fileReads, maxReplayObservations]
    simp only [List.length_cons, List.length_map, List.length_range]
    omega
  case contiguous =>
    intro observationClass
    have places : ((List.range count).map fileRead).map
        (fun observed => observed.key.position.toNat) = List.range count := by
      rw [List.map_map]
      conv_rhs => rw [← List.map_id (List.range count)]
      apply List.map_congr_left
      intro position listed
      have small := List.mem_range.mp listed
      exact UInt64.toNat_ofNat_of_lt' (lt_of_le_of_lt (small.le.trans few) (by decide))
    by_cases files : observationClass = .filesystem
    · refine ⟨count, ?_⟩
      subst files
      have kept : (fileReads count).filter (fun observed =>
          observed.key.observationClass = .filesystem) = (List.range count).map fileRead := by
        rw [fileReads, List.filter_cons_of_neg Bool.false_ne_true,
          List.filter_cons_of_neg Bool.false_ne_true, List.filter_eq_self]
        intro observed listed
        obtain ⟨position, -, rfl⟩ := List.mem_map.mp listed
        rfl
      rw [kept, places]
    · have none : ((List.range count).map fileRead).filter (fun observed =>
          observed.key.observationClass = observationClass) = [] := by
        rw [List.filter_eq_nil_iff]
        intro observed listed
        obtain ⟨position, -, rfl⟩ := List.mem_map.mp listed
        rw [decide_eq_true_eq]
        exact fun same => files same.symm
      rw [fileReads, List.filter_cons, List.filter_cons, none]
      cases observationClass with
      | environment => exact ⟨1, .refl _⟩
      | clock => exact ⟨1, .refl _⟩
      | filesystem => exact absurd rfl files
      | _ => exact ⟨0, .refl _⟩
  case environment => exact ⟨environment, List.mem_cons_self, rfl, rfl, rfl⟩
  case clock => exact ⟨clock, List.mem_cons_of_mem _ List.mem_cons_self, rfl, rfl, rfl⟩
  case sizes =>
    intro observed listed
    rw [fileReads, List.mem_cons, List.mem_cons, List.mem_map] at listed
    have small : observed.responseSize.toNat ≤ maxRecordBytes := by
      rcases listed with rfl | rfl | ⟨position, -, rfl⟩
      · exact (show 2 ≤ 65536 by decide)
      · exact (show 20 ≤ 65536 by decide)
      · exact (show 200 ≤ 65536 by decide)
    split_ifs
    · exact small.trans (by decide)
    · exact small

theorem states_fileReads (count : Nat) :
    states (fileReads count) = environment :: (List.range count).map fileRead := by
  have all : ((List.range count).map fileRead).filter Observed.isState =
      (List.range count).map fileRead := by
    rw [List.filter_eq_self]
    intro observed listed
    obtain ⟨position, -, rfl⟩ := List.mem_map.mp listed
    rfl
  rw [states, fileReads, List.filter_cons_of_pos rfl, List.filter_cons_of_neg Bool.false_ne_true,
    all]

theorem covers_fileReads {count : Nat} (few : count ≤ 1022) :
    Covers worldPoint.resourceClaim (states (fileReads count)) := by
  have each : ((List.range count).map fileRead).map (fun observed => observed.responseSize.toNat) =
      List.replicate count 200 := by
    rw [List.map_map, List.eq_replicate_iff, List.length_map, List.length_range]
    refine ⟨rfl, fun size listed => ?_⟩
    obtain ⟨position, -, rfl⟩ := List.mem_map.mp listed
    rfl
  rw [states_fileReads]
  constructor
  case bytes =>
    rw [List.map_cons, List.sum_cons, each, List.sum_replicate]
    show 2 + count * 200 ≤ 1048576
    omega
  case objects =>
    rw [List.length_cons, List.length_map, List.length_range]
    show count + 1 ≤ 1024
    omega

end WorldSample

/-- The World of the boundary alone is valid. -/
theorem automaticWorld_valid_boundary :
    letI := Sample.primitives
    (automaticWorld Sample.time WorldSample.worldPoint (WorldSample.fileReads 0)).validate =
      .ok () := by
  let _ := Sample.primitives
  apply (automaticWorld_valid_iff (WorldSample.withinLimits_fileReads (Nat.zero_le _))
    WorldSample.isAutomatic_worldPoint WorldSample.validate_worldPoint (le_refl _)
    (WorldSample.covers_fileReads (Nat.zero_le _))).mpr
  rw [WorldSample.states_fileReads]
  decide

/-- The World of as many observations as a replay allows is not valid. -/
theorem automaticWorld_not_valid :
    letI := Sample.primitives
    ∃ observations, WithinLimits observations ∧ IsAutomatic WorldSample.worldPoint ∧
      WorldSample.worldPoint.validate = .ok () ∧
      WorldSample.worldPoint.publishedAt ≤ Sample.time ∧
      Covers WorldSample.worldPoint.resourceClaim (states observations) ∧
      (automaticWorld Sample.time WorldSample.worldPoint observations).validate ≠ .ok () := by
  let _ := Sample.primitives
  refine ⟨WorldSample.fileReads 1022, WorldSample.withinLimits_fileReads le_rfl,
    WorldSample.isAutomatic_worldPoint, WorldSample.validate_worldPoint, le_refl _,
    WorldSample.covers_fileReads le_rfl, not_valid_of_many WorldSample.isAutomatic_worldPoint ?_⟩
  rw [WorldSample.states_fileReads, List.length_cons, List.length_map, List.length_range]
  decide

end Automatic

end Reproit
