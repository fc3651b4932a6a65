/-
# Proofs, perturbations and World closures

An admission proof records one reproduction of a failure under one perturbation of
the ambient state.  A closure policy lists the boundaries through which a program
can observe the outside, and a World closure has a receipt for each of them.
-/

import Reproit.Core.Model.Object

namespace Reproit

/-! ## Admission proofs -/

inductive ExecutionResultKind
  | targetReproduced
  deriving DecidableEq

def ExecutionResultKind.codec : Codec ExecutionResultKind :=
  .enumeration [.targetReproduced] (fun _ => "TARGET_REPRODUCED")
    fun value => by cases value; simp

abbrev ProofFormat := Format "reproit.proof.v1"

/-- The record of one reproduction. -/
structure Proof where
  capsuleDigest : Digest
  executorCapabilitiesDigest : Digest
  failureDigest : Digest
  format : ProofFormat
  perturbationDigest : Digest
  processingMode : ProcessingMode
  result : ExecutionResultKind
  runIndex : UInt8
  subjectDigest : Digest
  triggerDigest : Digest
  worldDigest : Digest
  deriving DecidableEq

namespace Proof

def codec : Codec Proof :=
  .record
    (.required "capsule_digest" Digest.codec <|
      .required "executor_capabilities_digest" Digest.codec <|
      .required "failure_digest" Digest.codec <| .required "format" (Format.codec _) <|
      .required "perturbation_digest" Digest.codec <|
      .required "processing_mode" ProcessingMode.codec <|
      .required "result" ExecutionResultKind.codec <| .required "run_index" .uint8 <|
      .required "subject_digest" Digest.codec <| .required "trigger_digest" Digest.codec <|
      .required "world_digest" Digest.codec .done)
    (fun r => (r.capsuleDigest, r.executorCapabilitiesDigest, r.failureDigest, r.format,
      r.perturbationDigest, r.processingMode, r.result, r.runIndex, r.subjectDigest,
      r.triggerDigest, r.worldDigest, ()))
    (fun (capsuleDigest, executorCapabilitiesDigest, failureDigest, format, perturbationDigest,
      processingMode, result, runIndex, subjectDigest, triggerDigest, worldDigest, ()) =>
      { capsuleDigest, executorCapabilitiesDigest, failureDigest, format, perturbationDigest,
        processingMode, result, runIndex, subjectDigest, triggerDigest, worldDigest })
    (fun _ => rfl) (by decide)

instance : Document Proof := ⟨codec, by decide⟩

def validate (proof : Proof) : Result Unit := rejectIf (proof.runIndex > 2) .schemaInvalid

instance : Validate Proof := ⟨validate⟩

end Proof

/-! ## Perturbations -/

inductive PerturbationCase
  | baseline | coldAmbient | timingAmbient
  deriving DecidableEq

namespace PerturbationCase

def name : PerturbationCase → String
  | .baseline => "baseline"
  | .coldAmbient => "cold-ambient"
  | .timingAmbient => "timing-ambient"

def codec : Codec PerturbationCase :=
  .enumeration [.baseline, .coldAmbient, .timingAmbient] name
    fun value => by cases value <;> decide

def runIndex : PerturbationCase → UInt8
  | .baseline => 0
  | .coldAmbient => 1
  | .timingAmbient => 2

end PerturbationCase

abbrev PerturbationFormat := Format "reproit.perturbation.v1"

/-- The ambient state of one run. -/
structure Perturbation where
  ambientIdentityDigest : Digest
  case : PerturbationCase
  format : PerturbationFormat
  runIndex : UInt8
  suite : String
  deriving DecidableEq

namespace Perturbation

def codec : Codec Perturbation :=
  .record
    (.required "ambient_identity_digest" Digest.codec <|
      .required "case" PerturbationCase.codec <| .required "format" (Format.codec _) <|
      .required "run_index" .uint8 <| .required "suite" .string .done)
    (fun r => (r.ambientIdentityDigest, r.case, r.format, r.runIndex, r.suite, ()))
    (fun (ambientIdentityDigest, case, format, runIndex, suite, ()) =>
      { ambientIdentityDigest, case, format, runIndex, suite })
    (fun _ => rfl) (by decide)

instance : Document Perturbation := ⟨codec, by decide⟩

def validate (perturbation : Perturbation) : Result Unit :=
  rejectIf (perturbation.runIndex ≠ perturbation.case.runIndex ∨
    perturbation.suite ≠ "reproit.controlled-perturbation.v1") .schemaInvalid

instance : Validate Perturbation := ⟨validate⟩

end Perturbation

/-! ## Closure policies -/

inductive ClosureMechanism
  | blocked | exactTranscript | fixedExecutorCapability | immutableObject | verifiedSimulator
  deriving DecidableEq

def ClosureMechanism.name : ClosureMechanism → String
  | .blocked => "blocked"
  | .exactTranscript => "exact-transcript"
  | .fixedExecutorCapability => "fixed-executor-capability"
  | .immutableObject => "immutable-object"
  | .verifiedSimulator => "verified-simulator"

def ClosureMechanism.codec : Codec ClosureMechanism :=
  .enumeration [.blocked, .exactTranscript, .fixedExecutorCapability, .immutableObject,
    .verifiedSimulator] name fun value => by cases value <;> decide

inductive ObservationClass
  | clockRandomIdentity | device | filesystemEnvironment | networkIpcSignal
  | operatingSystemHardware | orderingConcurrency | stateService
  deriving DecidableEq

def ObservationClass.name : ObservationClass → String
  | .clockRandomIdentity => "clock-random-identity"
  | .device => "device"
  | .filesystemEnvironment => "filesystem-environment"
  | .networkIpcSignal => "network-ipc-signal"
  | .operatingSystemHardware => "operating-system-hardware"
  | .orderingConcurrency => "ordering-concurrency"
  | .stateService => "state-service"

def ObservationClass.codec : Codec ObservationClass :=
  .enumeration [.clockRandomIdentity, .device, .filesystemEnvironment, .networkIpcSignal,
    .operatingSystemHardware, .orderingConcurrency, .stateService] name
    fun value => by cases value <;> decide

/-- The name of a boundary has the form of a component name. -/
def validBoundaryId (value : String) : Bool := validComponent value

/-- The mechanisms that may close one boundary. -/
structure ClosureRule where
  allowedMechanisms : List ClosureMechanism
  boundaryId : String
  observationClass : ObservationClass
  deriving DecidableEq

def ClosureRule.codec : Codec ClosureRule :=
  .record
    (.required "allowed_mechanisms" (.list ClosureMechanism.codec) <|
      .required "boundary_id" .string <|
      .required "observation_class" ObservationClass.codec .done)
    (fun r => (r.allowedMechanisms, r.boundaryId, r.observationClass, ()))
    (fun (allowedMechanisms, boundaryId, observationClass, ()) =>
      { allowedMechanisms, boundaryId, observationClass })
    (fun _ => rfl) (by decide)

abbrev ClosurePolicyFormat := Format "reproit.closure-policy.v1"

/-- The boundaries that must be closed. -/
structure ClosurePolicy where
  format : ClosurePolicyFormat
  rules : List ClosureRule
  deriving DecidableEq

namespace ClosurePolicy

def codec : Codec ClosurePolicy :=
  .record
    (.required "format" (Format.codec _) <| .required "rules" (.list ClosureRule.codec) .done)
    (fun r => (r.format, r.rules, ())) (fun (format, rules, ()) => { format, rules })
    (fun _ => rfl) (by decide)

instance : Document ClosurePolicy := ⟨codec, by decide⟩

def validate (policy : ClosurePolicy) : Result Unit := do
  rejectIf (policy.rules.isEmpty ∨ policy.rules.length > 256) .schemaInvalid
  requireStrictOrder (policy.rules.map ClosureRule.boundaryId)
  forEach policy.rules fun rule => do
    rejectIf (¬ validBoundaryId rule.boundaryId ∨ rule.allowedMechanisms.isEmpty ∨
      rule.allowedMechanisms.length > 5) .schemaInvalid
    rejectIf (¬ rule.allowedMechanisms.Nodup) .schemaInvalid

instance : Validate ClosurePolicy := ⟨validate⟩

/-- The rules are few, ordered by their boundaries and each names some mechanisms. -/
structure Valid (policy : ClosurePolicy) : Prop where
  nonempty : policy.rules ≠ []
  few : policy.rules.length ≤ 256
  ordered : (policy.rules.map ClosureRule.boundaryId).Pairwise (· < ·)
  boundary : ∀ rule ∈ policy.rules, validBoundaryId rule.boundaryId
  mechanisms : ∀ rule ∈ policy.rules, rule.allowedMechanisms ≠ [] ∧
    rule.allowedMechanisms.length ≤ 5 ∧ rule.allowedMechanisms.Nodup

theorem validate_eq_ok {policy : ClosurePolicy} : policy.validate = .ok () ↔ policy.Valid := by
  simp only [validate, bind_eq_ok, rejectIf_eq_ok, forEach_eq_ok,
    not_or, not_not, not_lt, List.isEmpty_iff]
  constructor
  · rintro ⟨_, ⟨nonempty, few⟩, _, ordered, rules⟩
    refine ⟨nonempty, few, (requireStrictOrder_eq_ok _).mp ordered, fun rule member => ?_,
      fun rule member => ?_⟩
    · obtain ⟨_, ⟨boundary, -⟩, -⟩ := rules rule member
      exact boundary
    · obtain ⟨_, ⟨-, some, five⟩, distinct⟩ := rules rule member
      exact ⟨some, five, distinct⟩
  · intro valid
    refine ⟨(), ⟨valid.nonempty, valid.few⟩, (),
      (requireStrictOrder_eq_ok _).mpr valid.ordered, fun rule member => ?_⟩
    obtain ⟨some, five, distinct⟩ := valid.mechanisms rule member
    exact ⟨(), ⟨valid.boundary rule member, some, five⟩, distinct⟩

end ClosurePolicy

/-- The evidence that one boundary was closed. -/
structure ClosureReceipt where
  boundaryId : String
  evidenceDigest : Digest
  mechanism : ClosureMechanism
  observationClass : ObservationClass
  version : UInt64
  deriving DecidableEq

def ClosureReceipt.codec : Codec ClosureReceipt :=
  .record
    (.required "boundary_id" .string <| .required "evidence_digest" Digest.codec <|
      .required "mechanism" ClosureMechanism.codec <|
      .required "observation_class" ObservationClass.codec <|
      .required "version" .uint64 .done)
    (fun r => (r.boundaryId, r.evidenceDigest, r.mechanism, r.observationClass, r.version, ()))
    (fun (boundaryId, evidenceDigest, mechanism, observationClass, version, ()) =>
      { boundaryId, evidenceDigest, mechanism, observationClass, version })
    (fun _ => rfl) (by decide)

abbrev WorldClosureFormat := Format "reproit.world-closure.v1"

/-- The receipts of a closed World. -/
structure WorldClosure where
  format : WorldClosureFormat
  policyDigest : Digest
  receipts : List ClosureReceipt
  deriving DecidableEq

namespace WorldClosure

def codec : Codec WorldClosure :=
  .record
    (.required "format" (Format.codec _) <| .required "policy_digest" Digest.codec <|
      .required "receipts" (.list ClosureReceipt.codec) .done)
    (fun r => (r.format, r.policyDigest, r.receipts, ()))
    (fun (format, policyDigest, receipts, ()) => { format, policyDigest, receipts })
    (fun _ => rfl) (by decide)

instance : Document WorldClosure := ⟨codec, by decide⟩

def validate (closure : WorldClosure) : Result Unit := do
  rejectIf (closure.receipts.isEmpty ∨ closure.receipts.length > 256) .schemaInvalid
  requireStrictOrder (closure.receipts.map ClosureReceipt.boundaryId)
  rejectIf (∃ receipt ∈ closure.receipts, ¬ validBoundaryId receipt.boundaryId ∨
    receipt.version = 0 ∨ receipt.version.toNat > maxExactInteger) .schemaInvalid

instance : Validate WorldClosure := ⟨validate⟩

/-- The version can be written, and is not zero. -/
def VersionInRange (version : UInt64) : Prop := version ≠ 0 ∧ version.toNat ≤ maxExactInteger

/-- The receipts are few and ordered by their boundaries. -/
structure Valid (closure : WorldClosure) : Prop where
  nonempty : closure.receipts ≠ []
  few : closure.receipts.length ≤ 256
  ordered : (closure.receipts.map ClosureReceipt.boundaryId).Pairwise (· < ·)
  boundary : ∀ receipt ∈ closure.receipts, validBoundaryId receipt.boundaryId
  version : ∀ receipt ∈ closure.receipts, VersionInRange receipt.version

theorem validate_eq_ok {closure : WorldClosure} :
    closure.validate = .ok () ↔ closure.Valid := by
  simp only [validate, bind_eq_ok, rejectIf_eq_ok, not_or, not_not, not_lt, not_exists, not_and, List.isEmpty_iff]
  constructor
  · rintro ⟨_, ⟨nonempty, few⟩, _, ordered, receipts⟩
    exact ⟨nonempty, few, (requireStrictOrder_eq_ok _).mp ordered,
      fun receipt member => (receipts receipt member).1, fun receipt member => (receipts receipt member).2⟩
  · intro valid
    exact ⟨(), ⟨valid.nonempty, valid.few⟩, (),
      (requireStrictOrder_eq_ok _).mpr valid.ordered, fun receipt member => ⟨valid.boundary receipt member, valid.version receipt member⟩⟩

end WorldClosure

end Reproit
