/-
# Support bundles and debugger contracts

A support bundle lists the components of a release with their capabilities; a
debugger contract says which debugger serves a replayed program.
-/

import Reproit.Core.Model.Object

namespace Reproit

/-! ## Support bundles -/

inductive ComponentKind
  | architecture | boundaryAdapter | core | debugger | dependencyAdapter | executor
  | operatingSystem | profile | sdk | stateProvider | subjectRuntime
  deriving DecidableEq

namespace ComponentKind

def name : ComponentKind → String
  | .architecture => "architecture"
  | .boundaryAdapter => "boundary-adapter"
  | .core => "core"
  | .debugger => "debugger"
  | .dependencyAdapter => "dependency-adapter"
  | .executor => "executor"
  | .operatingSystem => "operating-system"
  | .profile => "profile"
  | .sdk => "sdk"
  | .stateProvider => "state-provider"
  | .subjectRuntime => "subject-runtime"

/-- The kinds in their order. -/
def all : List ComponentKind :=
  [.architecture, .boundaryAdapter, .core, .debugger, .dependencyAdapter, .executor,
    .operatingSystem, .profile, .sdk, .stateProvider, .subjectRuntime]

def codec : Codec ComponentKind := .enumeration all name fun value => by cases value <;> decide

end ComponentKind

/-- One component of a release. -/
structure ComponentIdentity where
  identityDigest : Digest
  capabilities : List String
  componentId : String
  componentKind : ComponentKind
  conformanceDigest : Digest
  protocolMax : UInt64
  protocolMin : UInt64
  version : String
  deriving DecidableEq

namespace ComponentIdentity

def codec : Codec ComponentIdentity :=
  .record
    (.required "identity_digest" Digest.codec <| .required "capabilities" (.list .string) <|
      .required "component_id" .string <| .required "component_kind" ComponentKind.codec <|
      .required "conformance_digest" Digest.codec <| .required "protocol_max" .uint64 <|
      .required "protocol_min" .uint64 <| .required "version" .string .done)
    (fun r => (r.identityDigest, r.capabilities, r.componentId, r.componentKind,
      r.conformanceDigest, r.protocolMax, r.protocolMin, r.version, ()))
    (fun (identityDigest, capabilities, componentId, componentKind, conformanceDigest,
      protocolMax, protocolMin, version, ()) =>
      { identityDigest, capabilities, componentId, componentKind, conformanceDigest,
        protocolMax, protocolMin, version })
    (fun _ => rfl) (by decide)

def validate (component : ComponentIdentity) : Result Unit := do
  validateCapabilities component.capabilities
  rejectIf (component.componentId.isEmpty ∨ ¬ validLowerIdentity component.componentId ∨
    component.version.isEmpty ∨ component.protocolMin = 0 ∨
    component.protocolMin > component.protocolMax) .schemaInvalid

instance : Validate ComponentIdentity := ⟨validate⟩

/-- Components are ordered by kind and then by name. -/
def precedes (first second : ComponentIdentity) : Prop :=
  ComponentKind.all.idxOf first.componentKind < ComponentKind.all.idxOf second.componentKind ∨
    (first.componentKind = second.componentKind ∧ first.componentId < second.componentId)

instance (first second : ComponentIdentity) : Decidable (first.precedes second) :=
  inferInstanceAs (Decidable (_ ∨ _))

end ComponentIdentity

abbrev SupportBundleFormat := Format "reproit.support-bundle.v1"

/-- The components of a release. -/
structure SupportBundle where
  closurePolicyDigest : Digest
  components : List ComponentIdentity
  format : SupportBundleFormat
  deriving DecidableEq

namespace SupportBundle

def codec : Codec SupportBundle :=
  .record
    (.required "closure_policy_digest" Digest.codec <|
      .required "components" (.list ComponentIdentity.codec) <|
      .required "format" (Format.codec _) .done)
    (fun r => (r.closurePolicyDigest, r.components, r.format, ()))
    (fun (closurePolicyDigest, components, format, ()) =>
      { closurePolicyDigest, components, format })
    (fun _ => rfl) (by decide)

instance : Document SupportBundle := ⟨codec, by decide⟩

def validate (bundle : SupportBundle) : Result Unit := do
  rejectIf (bundle.components.isEmpty ∨ bundle.components.length > 64) .schemaInvalid
  forEach bundle.components ComponentIdentity.validate
  rejectIf (¬ bundle.components.IsChain ComponentIdentity.precedes) .schemaInvalid

instance : Validate SupportBundle := ⟨validate⟩

end SupportBundle

/-! ## Debugger contracts -/

inductive ProcessorArchitecture
  | arm64 | x86_64
  deriving DecidableEq

namespace ProcessorArchitecture

def name : ProcessorArchitecture → String
  | .arm64 => "architecture.arm64"
  | .x86_64 => "architecture.x86-64"

/-- The name of the variant in the source, which orders architectures. -/
def debugName : ProcessorArchitecture → String
  | .arm64 => "Arm64"
  | .x86_64 => "X86_64"

def codec : Codec ProcessorArchitecture :=
  .enumeration [.arm64, .x86_64] name fun value => by cases value <;> decide

end ProcessorArchitecture

inductive DebuggerProtocol
  | chromeDevtools | debugAdapter | gdbRemoteSerial
  deriving DecidableEq

namespace DebuggerProtocol

def name : DebuggerProtocol → String
  | .chromeDevtools => "chrome-devtools"
  | .debugAdapter => "debug-adapter"
  | .gdbRemoteSerial => "gdb-remote-serial"

def codec : Codec DebuggerProtocol :=
  .enumeration [.chromeDevtools, .debugAdapter, .gdbRemoteSerial] name
    fun value => by cases value <;> decide

/-- The capability of a debugger component that speaks the protocol. -/
def capability : DebuggerProtocol → String
  | .chromeDevtools => "debugger.chrome-devtools"
  | .debugAdapter => "debugger.debug-adapter"
  | .gdbRemoteSerial => "debugger.gdb-remote"

end DebuggerProtocol

inductive DebuggerReadinessRule
  | cdpWebsocketReady | dapInitialized | gdbServerListening
  deriving DecidableEq

def DebuggerReadinessRule.name : DebuggerReadinessRule → String
  | .cdpWebsocketReady => "cdp-websocket-ready"
  | .dapInitialized => "dap-initialized"
  | .gdbServerListening => "gdb-server-listening"

def DebuggerReadinessRule.codec : Codec DebuggerReadinessRule :=
  .enumeration [.cdpWebsocketReady, .dapInitialized, .gdbServerListening] name
    fun value => by cases value <;> decide

structure DebuggerSourceMapping where
  developerRoot : String
  replayRoot : String
  deriving DecidableEq

def DebuggerSourceMapping.codec : Codec DebuggerSourceMapping :=
  .record (.required "developer_root" .string <| .required "replay_root" .string .done)
    (fun r => (r.developerRoot, r.replayRoot, ()))
    (fun (developerRoot, replayRoot, ()) => { developerRoot, replayRoot })
    (fun _ => rfl) (by decide)

abbrev DebuggerContractFormat := Format "reproit.debugger-contract.v1"

/-- How a debugger is started and reached. -/
structure DebuggerContract where
  artifactDigest : Digest
  artifactName : String
  debuggerId : String
  format : DebuggerContractFormat
  launchArguments : List String
  protocol : DebuggerProtocol
  readinessRule : DebuggerReadinessRule
  sourceMappings : List DebuggerSourceMapping
  supportedArchitectures : List ProcessorArchitecture
  version : String
  deriving DecidableEq

namespace DebuggerContract

def codec : Codec DebuggerContract :=
  .record
    (.required "artifact_digest" Digest.codec <| .required "artifact_name" .string <|
      .required "debugger_id" .string <| .required "format" (Format.codec _) <|
      .required "launch_arguments" (.list .string) <|
      .required "protocol" DebuggerProtocol.codec <|
      .required "readiness_rule" DebuggerReadinessRule.codec <|
      .required "source_mappings" (.list DebuggerSourceMapping.codec) <|
      .required "supported_architectures" (.list ProcessorArchitecture.codec) <|
      .required "version" .string .done)
    (fun r => (r.artifactDigest, r.artifactName, r.debuggerId, r.format, r.launchArguments,
      r.protocol, r.readinessRule, r.sourceMappings, r.supportedArchitectures, r.version, ()))
    (fun (artifactDigest, artifactName, debuggerId, format, launchArguments, protocol,
      readinessRule, sourceMappings, supportedArchitectures, version, ()) =>
      { artifactDigest, artifactName, debuggerId, format, launchArguments, protocol,
        readinessRule, sourceMappings, supportedArchitectures, version })
    (fun _ => rfl) (by decide)

instance : Document DebuggerContract := ⟨codec, by decide⟩

/-- A character that would break a launch line. -/
def isLineBreak (c : Char) : Bool := c = '\x00' || c = '\n' || c = '\r'

def requireDebuggerProtocol (debuggerId : String) (protocol : DebuggerProtocol)
    (readiness : DebuggerReadinessRule) : Result Unit :=
  let holds : Bool :=
    if debuggerId = "gdbserver" then
      protocol = .gdbRemoteSerial && readiness = .gdbServerListening
    else if debuggerId = "node-inspector" then
      protocol = .chromeDevtools && readiness = .cdpWebsocketReady
    else if debuggerId = "debugpy" ∨ debuggerId = "delve" ∨ debuggerId = "netcoredbg" then
      protocol = .debugAdapter && readiness = .dapInitialized
    else false
  rejectIf (¬ holds) .schemaInvalid

def validateRoot (value : String) : Result Unit :=
  let parts := value.toList.splitOn '/'
  rejectIf (value.utf8ByteSize < 2 ∨ value.utf8ByteSize > 512 ∨
    value.toList.head? ≠ some '/' ∨ value.toList.getLast? = some '/' ∨
    ['.'] ∈ parts ∨ ['.', '.'] ∈ parts ∨ value.toList.any isLineBreak) .schemaInvalid

def validate (contract : DebuggerContract) : Result Unit := do
  rejectIf (contract.debuggerId ∉
      ["debugpy", "delve", "gdbserver", "netcoredbg", "node-inspector"] ∨
    contract.artifactName.isEmpty ∨ contract.artifactName.utf8ByteSize > 256 ∨
    contract.version.isEmpty ∨ contract.version.utf8ByteSize > 64 ∨
    contract.launchArguments.isEmpty ∨ contract.launchArguments.length > 32 ∨
    (∃ value ∈ contract.launchArguments, value.isEmpty ∨ value.utf8ByteSize > 1024 ∨
      value.toList.any isLineBreak) ∨
    contract.sourceMappings.isEmpty ∨ contract.sourceMappings.length > 16 ∨
    contract.supportedArchitectures.isEmpty ∨ contract.supportedArchitectures.length > 2)
    .schemaInvalid
  requireDebuggerProtocol contract.debuggerId contract.protocol contract.readinessRule
  requireStrictOrder (contract.supportedArchitectures.map ProcessorArchitecture.debugName)
  forEach contract.sourceMappings fun mapping => do
    validateRoot mapping.developerRoot
    validateRoot mapping.replayRoot
  rejectIf (¬ contract.sourceMappings.IsChain (·.replayRoot < ·.replayRoot)) .schemaInvalid

instance : Validate DebuggerContract := ⟨validate⟩

end DebuggerContract

end Reproit
