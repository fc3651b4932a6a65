/-
# Dependency limits

The bounds of the service that records the dependencies of operations.
-/

import Reproit.Core.Model.World

namespace Reproit

/-- Every value is a positive integer that every reader represents exactly. -/
def validatePositive (values : List UInt64) : Result Unit := do
  validateExact values
  rejectIf (0 ∈ values) .schemaInvalid

structure DependencyLimits where
  activeOperations : UInt64
  candidateBytes : UInt64
  concurrentCloseRequests : UInt64
  cursorLifetimeMs : UInt64
  durableBytes : UInt64
  interactionsPerOperation : UInt64
  memoryBytes : UInt64
  objectBytes : UInt64
  sessions : UInt64

namespace DependencyLimits

def validate (limits : DependencyLimits) : Result Unit := do
  validatePositive [limits.activeOperations, limits.candidateBytes,
    limits.concurrentCloseRequests, limits.cursorLifetimeMs, limits.durableBytes,
    limits.interactionsPerOperation, limits.memoryBytes, limits.objectBytes, limits.sessions]
  rejectIf (limits.activeOperations > 1024 ∨ limits.candidateBytes > 8388608 ∨
    limits.concurrentCloseRequests > 8 ∨ limits.cursorLifetimeMs > 60000 ∨
    limits.durableBytes > 1073741824 ∨ limits.interactionsPerOperation > 1024 ∨
    limits.memoryBytes > 67108864 ∨ limits.objectBytes > 8388608 ∨ limits.sessions > 256)
    .schemaInvalid

instance : Validate DependencyLimits := ⟨validate⟩

/-- The bounds that every validated one keeps. -/
def v1 : DependencyLimits where
  activeOperations := 1024
  candidateBytes := 8388608
  concurrentCloseRequests := 8
  cursorLifetimeMs := 60000
  durableBytes := 1073741824
  interactionsPerOperation := 1024
  memoryBytes := 67108864
  objectBytes := 8388608
  sessions := 256

theorem validate_v1 : v1.validate = .ok () := by decide

end DependencyLimits

end Reproit
