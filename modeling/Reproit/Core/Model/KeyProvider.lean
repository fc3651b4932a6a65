/-
# Verification keys

The key with which the attestations of a service are verified.
-/

import Reproit.Core.Base64Url
import Reproit.Core.Model.Object

namespace Reproit

abbrev AdmissionVerificationKeyFormat := Format "reproit.admission-verification-key.v1"

structure AdmissionVerificationKey where
  algorithm : String
  format : AdmissionVerificationKeyFormat
  organizationId : OrganizationId
  projectId : ProjectId
  publicKey : String
  serviceId : ServiceId
  signerKeyId : String
  deriving DecidableEq

def validateSignerKeyId (value : String) : Result Unit :=
  rejectIf (value.isEmpty ∨ value.utf8ByteSize > 256) .schemaInvalid

def AdmissionVerificationKey.validate (key : AdmissionVerificationKey) : Result Unit := do
  rejectIf (key.algorithm ≠ "Ed25519") .schemaInvalid
  validateSignerKeyId key.signerKeyId
  let _ ← decodeBase64Url 32 key.publicKey
  return

end Reproit
