/-
# A provider for one service

A provider with room for two leases, and a point of one empty checkpoint.
-/

import Reproit.Backend.SamplePrimitives
import Reproit.Backend.WorldClient
import Reproit.Provider.Reservations

namespace Reproit

open Backend

variable [Primitives]

namespace CheckpointSample

def config : FileCheckpointConfig where
  engineIdentity := "sqlite"
  engineVersion := "3"
  historyRoot := ⟨true, ["history"]⟩
  maximumActiveLeases := 2
  maximumCheckpointBytes := 8
  maximumResourceClaim := ⟨16, 2, 16, 16⟩
  providerId := "state"
  serviceId := onlyService
  workspaceRoot := ⟨true, ["work"]⟩

def identity : ConfigurationIdentity where
  engineIdentity := "sqlite"
  engineVersion := "3"
  maximumActiveLeases := 2
  maximumCheckpointBytes := 8
  maximumResourceClaim := ⟨16, 2, 16, 16⟩
  providerId := "state"
  serviceId := onlyService

def provider : FileCheckpointProvider where
  config := config
  configurationDigest := Digest.of (Canonical.text identity)
  leases := ∅

omit [Primitives] in
theorem validate_config : config.validate = .ok () := by
  decide +kernel

theorem opened : FileCheckpointProvider.open' config = .ok provider := by
  have digest : Canonical.digest identity = .ok (Digest.of (Canonical.text identity)) :=
    Canonical.digest_of_exact (by decide +kernel)
  simp only [FileCheckpointProvider.open', bind_eq_ok, pure_eq_ok]
  exact ⟨(), validate_config, _, digest, rfl⟩

/-- A point of one empty checkpoint. -/
def point : Backend.RecoverablePoint where
  artifacts := (∅ : OrderedMap _ _).insert (Digest.of []) 0
  capabilities := ["checkpoint.file"]
  configurationDigest := Digest.of (Canonical.text identity)
  engineIdentity := "sqlite"
  engineVersion := "3"
  generation := 1
  pointDigest := ⟨1⟩
  providerId := "state"
  publishedAt := Sample.time
  recoverableUntil := Sample.time
  resourceClaim := ⟨8, 1, 8, 8⟩
  scope := .full

theorem artifacts_toList : point.artifacts.toList = [(Digest.of [], 0)] := rfl

theorem selectArtifact_point : selectArtifact provider point = .ok (Digest.of []) := by
  simp only [selectArtifact, bind_eq_ok, rejectIf_eq_ok, okOr_eq_ok, pure_eq_ok, not_or, not_not]
  refine ⟨(), ⟨rfl, rfl, rfl, rfl⟩, (), rfl, (Digest.of [], 0), rfl, (), ?_, (), ?_, rfl⟩
  · exact (by decide : ¬ (0 : UInt64) > 8)
  · exact (by decide : ¬ (0 : UInt64) > 8 ∧ ¬ (1 : UInt64) < 1)

theorem validate_point : point.validate Sample.time = .ok () := by
  simp only [Backend.RecoverablePoint.validate, bind_eq_ok, rejectIf_eq_ok, okOr_eq_ok,
    artifacts_toList]
  refine ⟨(), ?_, (), ?_, (), rfl, 0, rfl, (), ?_, rfl⟩
  · exact (by decide +kernel : ¬ (¬ validComponent "state" ∨ "sqlite".isEmpty ∨
      "sqlite".utf8ByteSize > 256 ∨ "3".isEmpty ∨ "3".utf8ByteSize > 128 ∨ (1 : UInt64) = 0 ∨
      (1 : UInt64).toNat > maxExactInteger ∨ 1 > maxProviderArtifacts ∨
      ["checkpoint.file"].length > maxProviderCapabilities ∨
      ∃ capability ∈ ["checkpoint.file"], ¬ validComponent capability))
  · exact (by simp : ¬ (Sample.time > Sample.time ∨ Sample.time > Sample.time))
  · exact (by decide : ¬ ((0 : UInt64) > 8 ∨ 1 > (1 : UInt64).toNat))

/-! ## Two clients of the point -/

def world : SharedWorld where
  captureId := Sample.id 1
  point := point
  worldId := ⟨1⟩

/-- The first client writes to one file, and every other client to a second one. -/
def clients (executionId : ExecutionId) : ClientRequest where
  executionCapabilities := ["checkpoint.file"]
  now := Sample.time
  targetReference := if executionId = Sample.id 1 then "/work/first" else "/work/second"

/-- The stored checkpoint is in place. -/
def disk : Disk :=
  Disk.set (fun _ => none) (artifactPath config (Digest.of [])) (some (.file []))

theorem validateRequest_client (executionId : ExecutionId) :
    validateRequest (world.request executionId (clients executionId)) = .ok () := by
  simp only [validateRequest, bind_eq_ok, rejectIf_eq_ok]
  refine ⟨(), validate_point, (), ?_, ?_⟩
  · by_cases first : executionId = Sample.id 1
    · simp only [SharedWorld.request, clients, if_pos first]
      decide
    · simp only [SharedWorld.request, clients, if_neg first]
      decide
  · exact (by decide : ¬ ¬ ["checkpoint.file"] ⊆ ["checkpoint.file"])

omit [Primitives] in
/-- The lease of the point is not the first one, and neither are their digests equal. -/
theorem leases_apart :
    letI := Sample.marked
    ((leaseId (Sample.id 1) point.pointDigest ⟨1⟩).toOption.all fun held =>
      leaseDigest (Sample.id 1) ≠ leaseDigest held) = true := by
  decide +kernel

end CheckpointSample

end Reproit
