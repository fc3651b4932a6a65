import Reproit.Core.ResolveSpec
import Reproit.Core.Base64Url
import Reproit.Core.Encodings
import Reproit.Core.UuidText
import Reproit.Core.Instant
import Reproit.Automatic.SemanticSize
import Reproit.Backend.DocumentIdentity
import Reproit.Cloud.Fuzz
import Reproit.Backend.IdentifierOrder
import Reproit.Backend.DerivedId
import Reproit.Backend.PrivateFaithful
import Reproit.Cloud.Identifiers
import Reproit.Core.Model.Profile
import Reproit.Core.Model.Proof
import Reproit.Core.Model.Candidate
import Reproit.Core.Crypto
import Reproit.Core.Exactness
import Reproit.Backend.Closure
import Reproit.Backend.Sample
import Reproit.Core.Admission
import Reproit.Provider.CheckpointQuota
import Reproit.Backend.WorldClient
import Reproit.Backend.AdmissionSample
import Reproit.Backend.AdmittedSeal
import Reproit.Replay.Admission
import Reproit.Replay.Closure
import Reproit.Provider.PinnedWorld
import Reproit.Provider.WrongLease
import Reproit.Provider.ExecutedWorld
import Reproit.Dependency.Recording
import Reproit.Dependency.Accounting
import Reproit.Dependency.Coverage
import Reproit.Automatic.Taking
import Reproit.Automatic.Resolving
import Reproit.Coverage.Closing
import Reproit.Coverage.Fence
import Reproit.Data.Sorted
import Reproit.Data.Loop
import Reproit.Core.Model.Processor
import Reproit.Core.Model.ProcessorCapture
import Reproit.Processor.Prerequisites
import Reproit.Core.ProcessorDocuments
import Reproit.Processor.Visit
import Reproit.Processor.Reduction
import Reproit.Processor.FailedBinding
import Reproit.Processor.Hosts
import Reproit.Processor.Capture
import Reproit.Provider.Bracket
import Reproit.Private.Operation
import Reproit.Canonical.NormalForm
import Reproit.Staging.Binding
import Reproit.Signing.Binding
import Reproit.Canonical.AsWritten
import Reproit.Failure.Grouping
import Reproit.Subject.Dwarf
import Reproit.Subject.Packaging
import Reproit.Subject.Recording
import Reproit.Subject.SourceMaps
import Reproit.Subject.Acceptance
import Reproit.Subject.Image
import Reproit.Replay.Resolvable
import Reproit.Automatic.WorldSize
import Reproit.Automatic.Environment
import Reproit.Backend.StoredCandidate
import Reproit.Cloud.Delivery
import Reproit.Staging.Storm
import Reproit.Processor.Faithful
import Reproit.Processor.LastBinding
import Reproit.Processor.Budget
import Reproit.Dependency.ObjectLimit
import Reproit.Support.Catalog
import Reproit.Backend.SealedAdmission
import Reproit.Backend.Open
import Reproit.Opening.Exact
import Reproit.Opening.Nonces
import Reproit.Opening.Position
import Reproit.Opening.Candidate
import Reproit.Support.Release
import Reproit.Provider.Publishing
import Reproit.Opening.Kept
import Reproit.Subject.Running
import Reproit.Signing.Authorization
