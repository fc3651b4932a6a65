/-
# The artifacts of a World

A valid World has few artifacts and each of them is valid.  A World is storable when
one object per content can hold every artifact.
-/

import Mathlib.Algebra.BigOperators.Ring.List
import Mathlib.Algebra.Group.Action.Defs
import Reproit.Core.Exactness
import Reproit.Core.ResolveSpec

namespace Reproit

/-- The state artifacts of every point, in order. -/
def WorldCheckpoint.artifacts (world : WorldCheckpoint) : List ArtifactReference :=
  world.points.flatMap RecoverablePoint.artifacts

/-- What an object that stores the artifact holds. -/
def ArtifactReference.content (artifact : ArtifactReference) : String × Digest × UInt64 :=
  (artifact.mediaType, artifact.digest, artifact.size)

/-- No content occurs twice, and every media type fits an object descriptor. -/
structure WorldCheckpoint.Storable (world : WorldCheckpoint) : Prop where
  distinct : (world.artifacts.map ArtifactReference.content).Nodup
  mediaTypes : ∀ artifact ∈ world.artifacts, artifact.mediaType.utf8ByteSize ≤ 128

theorem map_fst_worldArtifactEntries (world : WorldCheckpoint) :
    (worldArtifactEntries world).map Prod.fst = world.artifacts := by
  rw [worldArtifactEntries, List.map_flatMap, WorldCheckpoint.artifacts]
  conv_rhs => rw [← List.zipIdx_map_fst 0 world.points, List.flatMap_map]
  simp [List.map_map, Function.comp_def]

namespace WorldCheckpoint

theorem exact_of_validate {world : WorldCheckpoint} (valid : world.validate = .ok ()) :
    Document.Exact world ∧ (Canonical.text world).length ≤ maxWorldManifestBytes := by
  simp only [WorldCheckpoint.validate, bind_eq_ok, rejectIf_eq_ok, not_lt] at valid
  obtain ⟨-, -, -, -, written, canonical, small⟩ := valid
  obtain ⟨exact, rfl⟩ := Canonical.bytes_eq_ok.mp canonical
  exact ⟨exact, small⟩

theorem validate_of_mem_points {createdAt : Timestamp} {providers : List String}
    {points : List RecoverablePoint}
    (valid : WorldCheckpoint.validatePoints createdAt providers points = .ok ())
    {point : RecoverablePoint} (member : point ∈ points) : point.validate = .ok () := by
  induction points generalizing providers with
  | nil => cases member
  | cons first points ih =>
      simp only [WorldCheckpoint.validatePoints, bind_eq_ok] at valid
      obtain ⟨_, checked, _, _, rest⟩ := valid
      rcases List.mem_cons.mp member with rfl | later
      · exact checked
      · exact ih rest later

theorem validate_of_mem_artifacts {world : WorldCheckpoint} (valid : world.validate = .ok ())
    {artifact : ArtifactReference} (member : artifact ∈ world.artifacts) :
    artifact.validate = .ok () := by
  obtain ⟨point, held, member⟩ := List.mem_flatMap.mp member
  simp only [WorldCheckpoint.validate, bind_eq_ok] at valid
  obtain ⟨_, _, _, points, _⟩ := valid
  have checked := validate_of_mem_points points held
  simp only [RecoverablePoint.validate, bind_eq_ok, forEach_eq_ok] at checked
  obtain ⟨_, _, _, _, _, _, _, _, _, artifacts, _⟩ := checked
  exact artifacts artifact member

/-- Every artifact takes room in the checkpoint, so there are few. -/
theorem length_artifacts_lt {world : WorldCheckpoint} (valid : world.validate = .ok ()) :
    world.artifacts.length < 4000 := by
  have artifactSize : ∀ artifact : ArtifactReference, 73 ≤ ArtifactReference.codec.size artifact := by
    intro artifact
    simp only [ArtifactReference.codec, Digest.codec, Codec.size_record, Codec.size_text,
      Fields.size_required, Digest.stringSize_toText]
    omega
  have pointSize : ∀ point : RecoverablePoint,
      73 * point.artifacts.length ≤ RecoverablePoint.codec.size point := by
    intro point
    have each := List.card_nsmul_le_sum
      (point.artifacts.map fun artifact => 1 + ArtifactReference.codec.size artifact) 73
      (by simpa using fun artifact _ => (artifactSize artifact).trans (Nat.le_add_left _ _))
    rw [List.length_map, smul_eq_mul, Nat.mul_comm] at each
    simp only [RecoverablePoint.codec, Codec.size_record, Fields.size_required, Codec.size_list]
    omega
  have whole : 73 * world.artifacts.length ≤ (Canonical.text world).length := by
    have each := List.sum_le_sum (l := world.points) (f := fun point => 73 * point.artifacts.length)
      (g := fun point => 1 + RecoverablePoint.codec.size point)
      fun point _ => (pointSize point).trans (Nat.le_add_left _ _)
    have total : (world.points.map fun point => 73 * point.artifacts.length).sum =
        73 * world.artifacts.length := by
      rw [WorldCheckpoint.artifacts, List.length_flatMap, List.sum_map_mul_left]
    rw [Canonical.length_text]
    change _ ≤ WorldCheckpoint.codec.size world
    simp only [WorldCheckpoint.codec, Codec.size_record, Fields.size_required, Codec.size_list]
    omega
  have small := (exact_of_validate valid).2
  rw [maxWorldManifestBytes] at small
  omega

theorem worldId_of_validate [Primitives] {world : WorldCheckpoint} (valid : world.validate = .ok ()) :
    world.worldId = .ok (Digest.of (Canonical.text world)) := by
  rw [WorldCheckpoint.worldId, valid, ok_bind, Canonical.digest_of_exact (exact_of_validate valid).1]

end WorldCheckpoint

/-! ## Worlds of one small point -/

open Json

theorem ArtifactReference.size_le {artifact : ArtifactReference}
    (valid : artifact.validate = .ok ()) : ArtifactReference.codec.size artifact ≤ 14000 := by
  simp only [ArtifactReference.validate, rejectIf_eq_ok, not_or, not_lt] at valid
  have mediaType := stringSize_le artifact.mediaType
  have uri := stringSize_le artifact.uri
  have size := artifact.size.toNat_lt
  have digits : Codec.uint64.size artifact.size ≤ 20 :=
    Codec.size_unsigned_le _ (by decide) (by omega)
  have names : stringSize "digest" + stringSize "media_type" + stringSize "size" +
      stringSize "uri" ≤ 40 := by decide
  simp only [ArtifactReference.codec, Digest.codec, Codec.size_record, Codec.size_text,
    Fields.size_required, Fields.size_done, Digest.stringSize_toText, Codec.size_string]
  omega

namespace WorldCheckpoint

variable {createdAt : Timestamp} {point : RecoverablePoint}

theorem size_claim_le (claim : ProviderResourceClaim) :
    ProviderResourceClaim.codec.size claim ≤ 200 := by
  have digits : ∀ value : UInt64, Codec.uint64.size value ≤ 20 := fun value =>
    Codec.size_unsigned_le _ (by decide) (by have := value.toNat_lt; omega)
  have first := digits claim.materializedBytes
  have second := digits claim.objects
  have third := digits claim.pinnedBytes
  have fourth := digits claim.temporaryBytes
  have names : stringSize "materialized_bytes" + stringSize "objects" + stringSize "pinned_bytes" +
      stringSize "temporary_bytes" ≤ 80 := by decide
  simp only [ProviderResourceClaim.codec, Codec.size_record, Fields.size_required,
    Fields.size_done]
  omega

theorem size_capabilities_le {capabilities : List String} (few : capabilities.length ≤ 4)
    (valid : ∀ value ∈ capabilities, validComponent value) :
    (Codec.list .string).size capabilities ≤ 4 * 800 := by
  have each := List.sum_le_card_nsmul (capabilities.map fun value => 1 + Codec.string.size value)
    780 fun size member => by
      obtain ⟨value, listed, rfl⟩ := List.mem_map.mp member
      have short := valid value listed
      rw [validComponent, Bool.and_eq_true, decide_eq_true_eq] at short
      have bound := stringSize_le value
      rw [Codec.size_string]
      omega
  rw [List.length_map, smul_eq_mul] at each
  rw [Codec.size_list]
  omega

theorem size_artifacts_le {artifacts : List ArtifactReference} (few : artifacts.length ≤ 4)
    (valid : ∀ artifact ∈ artifacts, artifact.validate = .ok ()) :
    (Codec.list ArtifactReference.codec).size artifacts ≤ 4 * 14100 := by
  have each := List.sum_le_card_nsmul
    (artifacts.map fun artifact => 1 + ArtifactReference.codec.size artifact)
    14001 fun size member => by
      obtain ⟨artifact, listed, rfl⟩ := List.mem_map.mp member
      have bound := ArtifactReference.size_le (valid artifact listed)
      omega
  rw [List.length_map, smul_eq_mul] at each
  rw [Codec.size_list]
  omega

/-- A valid point with few artifacts and capabilities and without scope rules is small. -/
theorem size_point_le (valid : point.validate = .ok ()) (artifacts : point.artifacts.length ≤ 4)
    (capabilities : point.capabilities.length ≤ 4) (rules : point.scope.rules = []) :
    RecoverablePoint.codec.size point ≤ 200000 := by
  simp only [RecoverablePoint.validate, bind_eq_ok, rejectIf_eq_ok, forEach_eq_ok, okOr_eq_ok,
    not_or, not_lt, not_exists, not_and, not_not] at valid
  obtain ⟨-, ⟨-, -, -, engine, -, version, -, -, -, place, -, provider, -⟩, -, ⟨components, -⟩, -, -,
    -, -, -, references, -⟩ := valid
  have artifactsSize := size_artifacts_le artifacts references
  have capabilitiesSize := size_capabilities_le capabilities components
  have engineSize := stringSize_le point.engineIdentity
  have versionSize := stringSize_le point.engineVersion
  have placeSize := stringSize_le point.point
  have providerSize := stringSize_le point.providerId
  rw [validComponent, Bool.and_eq_true, decide_eq_true_eq] at provider
  have published := Timestamp.size_le point.publishedAt
  have recoverable := Timestamp.size_le point.recoverableUntil
  have claim := size_claim_le point.resourceClaim
  have generation : Codec.uint64.size point.generation ≤ 20 :=
    Codec.size_unsigned_le _ (by decide) (by have := point.generation.toNat_lt; omega)
  have scope : CheckpointScope.codec.size point.scope ≤ 100 := by
    have names : stringSize "kind" + stringSize "rules" ≤ 20 := by decide
    have kind : CheckpointScopeKind.codec.size point.scope.kind ≤ 20 := by
      cases point.scope.kind <;> decide
    simp only [CheckpointScope.codec, Codec.size_record, Fields.size_required, Fields.size_done,
      rules, Codec.size_list, List.map_nil, List.sum_nil]
    omega
  have format : (Format.codec "reproit.recoverable-point.v1").size point.format ≤ 100 := by
    cases point.format
    decide
  have names : stringSize "artifacts" + stringSize "capabilities" +
      stringSize "configuration_digest" + stringSize "engine_identity" +
      stringSize "engine_version" + stringSize "format" + stringSize "generation" +
      stringSize "point" + stringSize "provider_id" + stringSize "published_at" +
      stringSize "recoverable_until" + stringSize "resource_claim" + stringSize "scope" ≤ 300 := by
    decide
  simp only [RecoverablePoint.codec, Digest.codec, Codec.size_record, Codec.size_text,
    Fields.size_required, Fields.size_done, Digest.stringSize_toText, Codec.size_string]
  omega

/-- The integers of a valid point can be written. -/
theorem exact_of_point (valid : point.validate = .ok ()) :
    RecoverablePoint.codec.exact point = true := by
  simp only [RecoverablePoint.validate, bind_eq_ok, rejectIf_eq_ok, forEach_eq_ok, okOr_eq_ok,
    not_or, not_lt] at valid
  obtain ⟨_, ⟨-, -, -, -, -, -, -, generation, -⟩, _, -, _, claimed, _, -, _, references, -⟩ :=
    valid
  simp only [ProviderResourceClaim.validate, validateExact, rejectIf_eq_ok, not_exists, not_and,
    not_lt, List.forall_mem_cons, List.not_mem_nil, false_implies, implies_true, and_true]
    at claimed
  have sizes : ∀ artifact ∈ point.artifacts, artifact.size.toNat ≤ Json.maxExactInteger := by
    intro artifact member
    have checked := references artifact member
    simp only [ArtifactReference.validate, rejectIf_eq_ok, not_or, not_lt] at checked
    exact checked.2.2.2.2.1.trans (by decide)
  have rules : ∀ rule : ScopeRule, ScopeRule.codec.exact rule = true := by
    intro rule
    simp [ScopeRule.codec, Digest.codec]
  simp only [RecoverablePoint.codec, ArtifactReference.codec, Digest.codec, Timestamp.codec,
    Format.codec, ProviderResourceClaim.codec, CheckpointScope.codec, CheckpointScopeKind.codec,
    Codec.exact_record, Codec.exact_list, Fields.exact_required, Fields.exact_done,
    Codec.exact_enumeration, Codec.exact_text, Codec.exact_string, Codec.exact_uint64, rules,
    Bool.and_true, Bool.true_and, Bool.and_eq_true, List.all_eq_true, decide_eq_true_eq,
    implies_true, true_and]
  exact ⟨sizes, generation, claimed, trivial⟩

/-- A World of one valid point with few artifacts and capabilities is valid. -/
theorem validate_of_point (valid : point.validate = .ok ())
    (published : point.publishedAt ≤ createdAt) (artifacts : point.artifacts.length ≤ 4)
    (capabilities : point.capabilities.length ≤ 4) (rules : point.scope.rules = []) :
    ({ createdAt, format := .v1, points := [point] } : WorldCheckpoint).validate = .ok () := by
  have small := size_point_le valid artifacts capabilities rules
  have exact : Document.Exact
      ({ createdAt, format := .v1, points := [point] } : WorldCheckpoint) := by
    change WorldCheckpoint.codec.exact _ = true
    simp [WorldCheckpoint.codec, Timestamp.codec, Format.codec, exact_of_point valid]
  have names : stringSize "created_at" + stringSize "format" + stringSize "points" ≤ 60 := by decide
  have format : (Format.codec "reproit.world-checkpoint.v1").size .v1 ≤ 100 := by decide
  have created := Timestamp.size_le createdAt
  simp only [WorldCheckpoint.validate, WorldCheckpoint.validatePoints, bind_eq_ok, rejectIf_eq_ok,
    not_lt]
  refine ⟨(), by simp, (), ⟨(), valid, (), ?_, trivial⟩, _, Canonical.bytes_of_exact exact, ?_⟩
  · rw [not_or, not_lt]
    exact ⟨published, List.not_mem_nil⟩
  · rw [Canonical.length_text]
    change WorldCheckpoint.codec.size _ ≤ _
    simp only [WorldCheckpoint.codec, Codec.size_record, Fields.size_required, Fields.size_done,
      Codec.size_list, List.map_cons, List.map_nil, List.sum_cons, List.sum_nil,
      maxWorldManifestBytes]
    omega

end WorldCheckpoint

end Reproit
