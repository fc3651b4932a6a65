/-
# Fuzz contexts

A fuzz campaign signs the context of every case it runs.  A captured operation of
that case carries the context, and its begin record carries the context's identity.
-/

import Reproit.Core.Base64Url
import Reproit.Core.Model.Object

namespace Reproit

abbrev FuzzContextFormat := Format "reproit.fuzz-context.v1"

/-- The signed context of one fuzz case. -/
structure FuzzContext where
  campaignId : FuzzCampaignId
  caseId : FuzzCaseId
  expiresAt : Timestamp
  format : FuzzContextFormat
  projectId : ProjectId
  serviceId : ServiceId
  signature : String
  deriving DecidableEq

namespace FuzzContext

def codec : Codec FuzzContext :=
  .record
    (.required "campaign_id" TypedId.codec <| .required "case_id" TypedId.codec <|
      .required "expires_at" Timestamp.codec <| .required "format" (Format.codec _) <|
      .required "project_id" TypedId.codec <| .required "service_id" TypedId.codec <|
      .required "signature" .string .done)
    (fun r => (r.campaignId, r.caseId, r.expiresAt, r.format, r.projectId, r.serviceId,
      r.signature, ()))
    (fun (campaignId, caseId, expiresAt, format, projectId, serviceId, signature, ()) =>
      { campaignId, caseId, expiresAt, format, projectId, serviceId, signature })
    (fun _ => rfl) (by decide)

theorem decode_null : codec.decode .null = none := rfl

instance : Document FuzzContext := ⟨codec, by decide⟩

def validate (context : FuzzContext) : Result Unit := do
  rejectIf (context.signature.utf8ByteSize ≠ 86) .schemaInvalid
  let _ ← decodeBase64Url 64 context.signature

instance : Validate FuzzContext := ⟨validate⟩

end FuzzContext

/-- The identity of a valid context. -/
def fuzzContextDigest [Primitives] (context : FuzzContext) : Result Digest := do
  context.validate
  Canonical.digest context

/-- What a begin record says about the context of its operation. -/
structure FuzzContextIdentity where
  campaignId : FuzzCampaignId
  caseId : FuzzCaseId
  contextDigest : Digest
  deriving DecidableEq

namespace FuzzContextIdentity

def codec : Codec FuzzContextIdentity :=
  .record
    (.required "campaign_id" TypedId.codec <| .required "case_id" TypedId.codec <|
      .required "context_digest" Digest.codec .done)
    (fun r => (r.campaignId, r.caseId, r.contextDigest, ()))
    (fun (campaignId, caseId, contextDigest, ()) => { campaignId, caseId, contextDigest })
    (fun _ => rfl) (by decide)

theorem decode_null : codec.decode .null = none := rfl

/-- The campaign and the case are compared before the context is validated. -/
def matches' [Primitives] (identity : FuzzContextIdentity) (context : FuzzContext) :
    Result Unit := do
  rejectIf (identity.campaignId ≠ context.campaignId ∨ identity.caseId ≠ context.caseId)
    .objectDigestMismatch
  let contextDigest ← fuzzContextDigest context
  rejectIf (identity.contextDigest ≠ contextDigest) .objectDigestMismatch

end FuzzContextIdentity

inductive DiscoverySource
  | production | fuzzCampaign
  deriving DecidableEq

def DiscoverySource.name : DiscoverySource → String
  | .production => "production"
  | .fuzzCampaign => "fuzz-campaign"

def DiscoverySource.codec : Codec DiscoverySource :=
  .enumeration [.production, .fuzzCampaign] name fun value => by cases value <;> decide

theorem DiscoverySource.decode_null : DiscoverySource.codec.decode .null = none := rfl

end Reproit
