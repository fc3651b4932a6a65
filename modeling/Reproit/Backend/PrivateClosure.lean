/-
# Closing a private candidate

A private candidate is closed by the Runtime: its records are decoded, the trigger and the
dependency transcript are derived from them, and the objects of the capsule are assembled
in one order.
-/

import Reproit.Backend.Closure

namespace Reproit.Backend

def incomplete (what : String) : Error :=
  .new .incompleteCandidate ("The private candidate closure is missing " ++ what ++ ".")

/-! ## Records -/

/-- The documents of the records. -/
structure DecodedRecords where
  begin' : OperationBeginPayload
  cursors : List DependencyCursorPayload
  failure : FailurePayload
  inputs : List (OperationInputPayload × Bytes)

/-- The documents of the records that were read so far. -/
structure FoundRecords where
  begin' : Option OperationBeginPayload
  cursors : List DependencyCursorPayload
  failure : Option FailurePayload
  inputs : List (OperationInputPayload × Bytes)

def FoundRecords.empty : FoundRecords where
  begin' := none
  cursors := []
  failure := none
  inputs := []

variable [Primitives]

def decodeRecord (found : FoundRecords) (record : EventRecord) : Result FoundRecords := do
  let payload ← decodeBase64UrlBytes record.payload
  match record.kind with
  | .begin' => do
      let decoded ← Canonical.parseStrict OperationBeginPayload payload
      rejectIf found.begin'.isSome (incomplete "one begin record")
      return { found with begin' := some decoded }
  | .input => do
      let decoded ← Canonical.parseStrict OperationInputPayload payload
      let bytes ← decodeBase64UrlBytes decoded.value
      rejectIf (Digest.of bytes ≠ decoded.valueDigest ∨
        decoded.inputIndex.toNat ≠ found.inputs.length) (incomplete "one input record")
      return { found with inputs := found.inputs ++ [(decoded, bytes)] }
  | .dependency => do
      let decoded ← Canonical.parseStrict DependencyCursorPayload payload
      decoded.validate
      return { found with cursors := found.cursors ++ [decoded] }
  | .failure => do
      let decoded ← Canonical.parseStrict FailurePayload payload
      decoded.validate
      rejectIf found.failure.isSome (incomplete "one Failure record")
      return { found with failure := some decoded }
  | .observation | .observationFence =>
      .error (.new .unsupported "Private capture does not accept automatic observation records.")
  | .terminal => return found

def decodeRecords (found : FoundRecords) : List EventRecord → Result FoundRecords
  | [] => .ok found
  | record :: rest => do
      let next ← decodeRecord found record
      decodeRecords next rest

def decodeCandidateRecords (candidate : Candidate) : Result DecodedRecords := do
  let found ← decodeRecords .empty candidate.records
  let begin' ← okOr found.begin' (incomplete "the begin record")
  let failure ← okOr found.failure (incomplete "the Failure record")
  rejectIf (failure.failure ≠ candidate.failure) (incomplete "the Failure binding")
  let identity ← Canonical.digest failure.identity
  rejectIf (identity ≠ candidate.failure.identity) (incomplete "the Failure binding")
  rejectIf found.inputs.isEmpty (incomplete "one semantic input")
  return { begin', cursors := found.cursors, failure, inputs := found.inputs }

end Reproit.Backend
