/-
# Errors

Every fallible operation returns a bounded error: a stable code, a safe message and
whether a retry can help.  Retrying is decided by the code alone.
-/

import Reproit.Data.Outcome

namespace Reproit

/-- The stable error codes. -/
inductive ErrorCode
  | admissionProofBinding | admissionProofCount | assigneeNotAuthorized | artifactNotFound
  | attestationRevoked | attestationScope | authenticationRequired | authorizationDenied
  | captureIdConflict | configConflict | crossTenantScope | decryptionAuthentication
  | dependencyTranscriptMismatch | differentFailure | evaluationError | forbidden
  | incompleteCandidate | incompleteRecordSequence | liveEgressBlocked | keyProviderUnavailable
  | keyUnwrapFailed | keepDestinationUnavailable | legalDeletionConflict | nonceReuse | notFound
  | objectDigestMismatch | priorityInvalid | rateLimited | runtimeQuota | schemaInvalid
  | serviceUnavailable | sourceAccessDenied | sourceCheckoutFailed | sourceDependencyMissing
  | sourceRevisionMissing | stateScopeViolation | subjectDigestMismatch | triageConflict
  | unsupported | unsupportedCapabilitySet | uploadExpired | uploadIncomplete
  | uploadLimitExceeded | worldNotClosed | worldPointExpired | worldProviderMissing
  deriving DecidableEq, Repr

/-- The codes whose request may succeed when it is made again. -/
def ErrorCode.retryable : ErrorCode → Bool
  | .keyProviderUnavailable | .keepDestinationUnavailable | .rateLimited | .runtimeQuota
  | .serviceUnavailable | .sourceCheckoutFailed | .uploadExpired | .uploadIncomplete => true
  | _ => false

structure Error where
  code : ErrorCode
  message : String
  retryable : Bool
  deriving DecidableEq, Repr

namespace Error

def new (code : ErrorCode) (message : String) : Error where
  code := code
  message := message
  retryable := code.retryable

def schemaInvalid : Error :=
  new .schemaInvalid "The value does not match the v1 schema."

def objectDigestMismatch : Error :=
  new .objectDigestMismatch "The object digest does not match its content."

end Error

/-- The result of a fallible operation of the program. -/
abbrev Result (α : Type) := Except Error α

end Reproit
