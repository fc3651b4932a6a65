/-
# Capture coverage

While an operation is captured, every boundary of its World hands in a receipt.  The
coverage keeps the receipts by boundary and is invalid for good after a receipt that no
rule wants, a second receipt of one boundary, or an observation that nobody owns.  It
closes to the closure of the World when every rule of the policy has its receipt.
-/

import Reproit.Core.Admission
import Reproit.Data.OrderedMap
import Reproit.Data.Update

namespace Reproit

structure CaptureCoverage where
  policy : ClosurePolicy
  receipts : OrderedMap String ClosureReceipt
  coverageInvalid : Bool

namespace CaptureCoverage

def worldNotClosed : Error :=
  .new .worldNotClosed "Repro It could not capture every required application observation."

def new (policy : ClosurePolicy) : Result CaptureCoverage := do
  policy.validate
  return { policy, receipts := ∅, coverageInvalid := false }

/-- Refuse a receipt, and with it the whole capture. -/
def poison : Update Error CaptureCoverage Unit := do
  let coverage ← get
  set { coverage with coverageInvalid := true }
  throw worldNotClosed

def record (receipt : ClosureReceipt) : Update Error CaptureCoverage Unit := do
  let coverage ← get
  match coverage.policy.rules.find? fun rule => rule.boundaryId = receipt.boundaryId with
  | none => poison
  | some rule =>
      if rule.observationClass ≠ receipt.observationClass ∨
          receipt.mechanism ∉ rule.allowedMechanisms ∨
          receipt.boundaryId ∈ coverage.receipts then poison
      else set { coverage with receipts := coverage.receipts.insert receipt.boundaryId receipt }

def markUnowned (coverage : CaptureCoverage) : CaptureCoverage :=
  { coverage with coverageInvalid := true }

/-- The closure of the receipts, in the order of their boundaries. -/
def close [Primitives] (coverage : CaptureCoverage) : Result WorldClosure := do
  rejectIf (coverage.coverageInvalid ∨ coverage.receipts.size ≠ coverage.policy.rules.length)
    worldNotClosed
  let policyDigest ← Canonical.digest coverage.policy
  let closure : WorldClosure :=
    { format := .v1, policyDigest, receipts := coverage.receipts.toList.map Prod.snd }
  validateWorldClosure coverage.policy closure
  return closure

/-! ## Calls -/

/-- What a capture can tell its coverage. -/
inductive Call
  | record (receipt : ClosureReceipt)
  | markUnowned
  deriving DecidableEq

/-- The coverage after a call, whether it succeeded or not. -/
def next (coverage : CaptureCoverage) : Call → CaptureCoverage
  | .record receipt => Update.state (record receipt coverage)
  | .markUnowned => coverage.markUnowned

/-- The answer to a call. -/
def answer (coverage : CaptureCoverage) : Call → Result Unit
  | .record receipt => Update.verdict (record receipt coverage)
  | .markUnowned => .ok ()

def run (coverage : CaptureCoverage) (calls : List Call) : CaptureCoverage :=
  calls.foldl next coverage

/-- The receipt that a call hands in. -/
def Call.receipt : Call → Option ClosureReceipt
  | .record receipt => some receipt
  | .markUnowned => none

/-- The receipts that calls hand in, in their order. -/
def recorded (calls : List Call) : List ClosureReceipt := calls.filterMap Call.receipt

end CaptureCoverage

end Reproit
