/-
# Backend support packages

A support package is a support bundle with its closure policy and its debugger
contract.  It is valid when the bundle names the policy and has its one debugger
component for the contract, with the runtime and the debugger of its SDK.
-/

import Reproit.Core.Model.Profile
import Reproit.Core.Model.Proof

namespace Reproit.Backend

variable [Primitives]

/-- What a release supports. -/
structure BackendSupportPackage where
  bundle : SupportBundle
  closurePolicy : ClosurePolicy
  debugger : DebuggerContract

def BackendSupportPackage.digest (package : BackendSupportPackage) : Result Digest :=
  Canonical.digest package.bundle

def unsupportedBundle : Error :=
  .new .unsupportedCapabilitySet
    "The installed Backend support package is not authorized for this release."

/-- The components of one kind. -/
def componentsOf (bundle : SupportBundle) (kind : ComponentKind) : List ComponentIdentity :=
  bundle.components.filter fun component => component.componentKind = kind

/-- The kinds that a bundle has exactly once. -/
def singleKinds : List ComponentKind :=
  [.architecture, .boundaryAdapter, .core, .debugger, .executor, .operatingSystem, .profile,
    .sdk, .subjectRuntime]

def oneComponent (bundle : SupportBundle) (kind : ComponentKind) : Result ComponentIdentity :=
  match componentsOf bundle kind with
  | [component] => .ok component
  | _ => .error .schemaInvalid

/-- The runtime component and the debugger of an SDK. -/
def runtimeBinding (sdkId : String) : Option (String × String) :=
  [("dotnet", "dotnet-native", "netcoredbg"), ("go", "go-native", "delve"),
    ("node", "node-native", "node-inspector"), ("python", "python-native", "debugpy"),
    ("rust", "rust-native", "gdbserver")].lookup sdkId

def validateRuntimeDebuggerBinding (bundle : SupportBundle) (debugger : DebuggerContract) :
    Result Unit := do
  let sdk ← oneComponent bundle .sdk
  let runtime ← oneComponent bundle .subjectRuntime
  let expected ← okOr (runtimeBinding sdk.componentId) .schemaInvalid
  rejectIf (runtime.componentId ≠ expected.1 ∨ debugger.debuggerId ≠ expected.2) .schemaInvalid

/-- The architecture that a component names. -/
def componentArchitecture (componentId : String) : Option ProcessorArchitecture :=
  [("arm64", ProcessorArchitecture.arm64), ("x86-64", ProcessorArchitecture.x86_64)].lookup
    componentId

def validateBackendSupportBundleInner (bundle : SupportBundle) (debugger : DebuggerContract) :
    Result Unit := do
  bundle.validate
  debugger.validate
  rejectIf (∃ kind ∈ singleKinds, (componentsOf bundle kind).length ≠ 1) .schemaInvalid
  rejectIf (componentsOf bundle .dependencyAdapter = [] ∨
    componentsOf bundle .stateProvider = []) .schemaInvalid
  let component ← okOr (componentsOf bundle .debugger).head? .schemaInvalid
  rejectIf (component.componentId ≠ debugger.debuggerId ∨ component.version ≠ debugger.version)
    .schemaInvalid
  let contractDigest ← Canonical.digest debugger
  rejectIf (component.identityDigest ≠ contractDigest ∨
    component.capabilities ≠ [debugger.protocol.capability]) .schemaInvalid
  let architecture ← okOr (componentsOf bundle .architecture).head? .schemaInvalid
  let required ← okOr (componentArchitecture architecture.componentId) .schemaInvalid
  rejectIf (required ∉ debugger.supportedArchitectures) .schemaInvalid
  validateRuntimeDebuggerBinding bundle debugger

/-- Every failure of the inner check is reported as an unsupported capability set. -/
def validateBackendSupportBundle (bundle : SupportBundle) (debugger : DebuggerContract) :
    Result Unit :=
  (validateBackendSupportBundleInner bundle debugger).mapError fun _ =>
    .new .unsupportedCapabilitySet
      "The support bundle does not contain its required standard debugger contract."

def validateBackendSupportPackage (package : BackendSupportPackage) : Result Unit := do
  package.closurePolicy.validate
  let policyDigest ← Canonical.digest package.closurePolicy
  rejectIf (policyDigest ≠ package.bundle.closurePolicyDigest) unsupportedBundle
  validateBackendSupportBundle package.bundle package.debugger

end Reproit.Backend
