/-
# The support packages of a release

A package is built from a base bundle.  The components of the SDK, of its boundary and its
runtime and of the architecture are bound to the one SDK and architecture, the debugger is
replaced, and every other component is kept.  The build succeeds exactly when the bundle has
what the package needs, and then the package is known.
-/

import Mathlib.Data.List.Nodup
import Mathlib.Data.Prod.Lex
import Reproit.Data.Sorted
import Reproit.Support.Catalog

namespace Reproit.Backend

/-! ## SDKs and architectures -/

inductive BackendSdk
  | dotnet | go | nodejs | python | rust
  deriving DecidableEq

/-- The component of an SDK, its capability, its boundary and its runtime. -/
structure SdkIdentity where
  sdkId : String
  capability : String
  boundaryId : String
  runtimeId : String
  deriving DecidableEq

def sdkIdentity : BackendSdk → SdkIdentity
  | .dotnet => ⟨"dotnet", "sdk.dotnet", "dotnet-request-response", "dotnet-native"⟩
  | .go => ⟨"go", "sdk.go", "go-request-response", "go-native"⟩
  | .nodejs => ⟨"node", "sdk.node", "node-request-response", "node-native"⟩
  | .python => ⟨"python", "sdk.python", "python-request-response", "python-native"⟩
  | .rust => ⟨"rust", "sdk.rust", "rust-request-response", "rust-native"⟩

/-- The component of an architecture and its capability. -/
def architectureIdentity : ProcessorArchitecture → String × String
  | .arm64 => ("arm64", "architecture.arm64")
  | .x86_64 => ("x86-64", "architecture.x86-64")

/-! ## Building a package -/

/-- Change the first component of a kind. -/
def bindFirst (kind : ComponentKind) (change : ComponentIdentity → ComponentIdentity) :
    List ComponentIdentity → Result (List ComponentIdentity)
  | [] => .error unsupportedBundle
  | component :: rest =>
      if component.componentKind = kind then .ok (change component :: rest)
      else do
        let bound ← bindFirst kind change rest
        return component :: bound

/-- A component under another name. What identifies it may depend on its version. -/
def boundTo (componentId capability : String) (identityDigest : String → Digest)
    (conformanceDigest : Digest) (component : ComponentIdentity) : ComponentIdentity :=
  { component with
    componentId
    capabilities := [capability]
    identityDigest := identityDigest component.version
    conformanceDigest }

/-- Bind the first component of a kind to a name. -/
def bindTo (bundle : SupportBundle) (kind : ComponentKind) (componentId capability : String)
    (identityDigest : String → Digest) (conformanceDigest : Digest) : Result SupportBundle := do
  let components ← bindFirst kind
    (boundTo componentId capability identityDigest conformanceDigest) bundle.components
  return { bundle with components }

def bindComponent (bundle : SupportBundle) (kind : ComponentKind)
    (componentId capability : String) (identityDigest conformanceDigest : Digest) :
    Result SupportBundle :=
  bindTo bundle kind componentId capability (fun _ => identityDigest) conformanceDigest

variable [Primitives]

def textDigest (text : String) : Digest := Digest.of (Json.textBytes text.toList)

def mechanismDigest (componentId version : String) : Digest :=
  textDigest ("reproit-" ++ componentId ++ "-" ++ version)

def bindMechanismComponent (bundle : SupportBundle) (kind : ComponentKind)
    (componentId capability : String) (conformanceDigest : Digest) : Result SupportBundle :=
  bindTo bundle kind componentId capability (mechanismDigest componentId) conformanceDigest

def architectureDigest (architectureId : String) : Digest :=
  textDigest ("reproit-architecture-" ++ architectureId ++ "-1")

def sdkDigest (sdkId : String) : Digest := textDigest ("reproit-sdk-" ++ sdkId ++ "-1.0.0")

/-- Bind the architecture, the SDK, its boundary and its runtime, in this order. -/
def bindIdentities (bundle : SupportBundle) (sdk : BackendSdk)
    (architecture : ProcessorArchitecture) (conformanceDigest : Digest) :
    Result SupportBundle := do
  let (architectureId, architectureCapability) := architectureIdentity architecture
  let identity := sdkIdentity sdk
  let bundle ← bindComponent bundle .architecture architectureId architectureCapability
    (architectureDigest architectureId) conformanceDigest
  let bundle ← bindComponent bundle .sdk identity.sdkId identity.capability
    (sdkDigest identity.sdkId) conformanceDigest
  let bundle ← bindMechanismComponent bundle .boundaryAdapter identity.boundaryId
    "operation.request-response" conformanceDigest
  bindMechanismComponent bundle .subjectRuntime identity.runtimeId
    ("runtime." ++ identity.runtimeId) conformanceDigest

def debuggerComponent (debugger : DebuggerContract) (identityDigest conformanceDigest : Digest) :
    ComponentIdentity where
  identityDigest := identityDigest
  capabilities := [debugger.protocol.capability]
  componentId := debugger.debuggerId
  componentKind := .debugger
  conformanceDigest := conformanceDigest
  protocolMax := 1
  protocolMin := 1
  version := debugger.version

/-- What components are sorted by: the kind and then the name. -/
def componentKey (component : ComponentIdentity) : Nat ×ₗ String :=
  toLex (ComponentKind.all.idxOf component.componentKind, component.componentId)

/-- The components but the debugger. -/
def othersOf (bundle : SupportBundle) : List ComponentIdentity :=
  bundle.components.filter fun component => component.componentKind ≠ .debugger

/-- A bundle with one debugger in the place of the others, in order. -/
def replaceDebugger (bundle : SupportBundle) (component : ComponentIdentity) : SupportBundle :=
  { bundle with components :=
      (othersOf bundle ++ [component]).insertionSort (componentKey · ≤ componentKey ·) }

def buildBackendSupportPackage (bundle : SupportBundle) (closurePolicy : ClosurePolicy)
    (sdk : BackendSdk) (architecture : ProcessorArchitecture) (debugger : DebuggerContract)
    (conformanceDigest : Digest) : Result BackendSupportPackage := do
  let bundle ← bindIdentities bundle sdk architecture conformanceDigest
  let identityDigest ← Canonical.digest debugger
  let package : BackendSupportPackage := {
    bundle := replaceDebugger bundle
      (debuggerComponent debugger identityDigest conformanceDigest)
    closurePolicy
    debugger }
  validateBackendSupportPackage package
  return package

/-! ## The order of components -/

omit [Primitives] in
theorem idxOf_all_inj {first second : ComponentKind} :
    ComponentKind.all.idxOf first = ComponentKind.all.idxOf second ↔ first = second := by
  have listed : first ∈ ComponentKind.all := by cases first <;> decide
  exact List.idxOf_inj listed

omit [Primitives] in
/-- A component precedes another exactly when its key is smaller. -/
theorem precedes_iff_key_lt (first second : ComponentIdentity) :
    first.precedes second ↔ componentKey first < componentKey second := by
  rw [componentKey, componentKey, Prod.Lex.toLex_lt_toLex, ComponentIdentity.precedes,
    idxOf_all_inj]

omit [Primitives] in
/-- The keys are different exactly when the names within each kind are. -/
theorem nodup_keys_iff {components : List ComponentIdentity} :
    (components.map componentKey).Nodup ↔ ∀ kind,
      ((components.filter fun component => component.componentKind = kind).map
        ComponentIdentity.componentId).Nodup := by
  simp only [List.Nodup, List.pairwise_map, List.pairwise_filter, decide_eq_true_eq, componentKey,
    ne_eq, toLex_inj, Prod.mk.injEq, idxOf_all_inj, not_and]
  simp only [List.pairwise_iff_forall_sublist]
  constructor
  · intro apart kind first second sub here there
    exact apart sub (here.trans there.symm)
  · intro apart first second sub same
    exact apart _ sub rfl same.symm

omit [Primitives] in
/-- Sorted components are in the order of a bundle exactly when no two have one key. -/
theorem isChain_sorted_iff {components : List ComponentIdentity} :
    (components.insertionSort (componentKey · ≤ componentKey ·)).IsChain
      ComponentIdentity.precedes ↔ (components.map componentKey).Nodup := by
  have relation : ComponentIdentity.precedes = (componentKey · < componentKey ·) := by
    funext first second
    exact propext (precedes_iff_key_lt first second)
  have perm := List.perm_insertionSort (componentKey · ≤ componentKey ·) components
  rw [relation]
  constructor
  · intro chain
    have sorted := List.isChain_iff_pairwise.mp chain
    apply (perm.map componentKey).nodup_iff.mp
    exact List.pairwise_map.mpr (sorted.imp ne_of_lt)
  · intro distinct
    exact (pairwise_lt_insertionSort_key distinct).isChain

/-! ## What is bound -/

section Binding

variable {kind : ComponentKind} {change : ComponentIdentity → ComponentIdentity}
  {components changed : List ComponentIdentity}

omit [Primitives] in
/-- The one component of a kind is changed, and the others are not. -/
theorem bindFirst_of_single
    (single : (components.map ComponentIdentity.componentKind).count kind = 1) :
    bindFirst kind change components = .ok (components.map fun component =>
      if component.componentKind = kind then change component else component) := by
  induction components with
  | nil => cases single
  | cons component rest ih =>
      rw [List.map_cons, List.count_cons] at single
      rw [bindFirst]
      by_cases here : component.componentKind = kind
      · rw [if_pos here, List.map_cons, if_pos here]
        have later : (rest.map ComponentIdentity.componentKind).count kind = 0 := by
          simpa [here] using single
        have kept : rest.map (fun component =>
            if component.componentKind = kind then change component else component) = rest := by
          refine (List.map_congr_left fun other listed => ?_).trans (List.map_id rest)
          exact if_neg fun same =>
            List.count_eq_zero.mp later (List.mem_map.mpr ⟨other, listed, same⟩)
        rw [kept]
      · rw [if_neg here, ih (by simpa [here] using single), ok_bind, List.map_cons, if_neg here]
        rfl

omit [Primitives] in
/-- Binding keeps the kinds. -/
theorem kinds_of_bindFirst
    (keeps : ∀ component, (change component).componentKind = component.componentKind)
    (ran : bindFirst kind change components = .ok changed) :
    changed.map ComponentIdentity.componentKind =
      components.map ComponentIdentity.componentKind := by
  induction components generalizing changed with
  | nil => cases ran
  | cons component rest ih =>
      rw [bindFirst] at ran
      by_cases here : component.componentKind = kind
      · rw [if_pos here] at ran
        rw [← Except.ok.inj ran, List.map_cons, List.map_cons, keeps]
      · rw [if_neg here, bind_eq_ok] at ran
        obtain ⟨others, bindRest, same⟩ := ran
        rw [← Except.ok.inj same, List.map_cons, List.map_cons, ih bindRest]

end Binding

section Rebinding

variable (sdk : BackendSdk) (architecture : ProcessorArchitecture) (conformanceDigest : Digest)

/-- What becomes of a component of the base bundle. -/
def rebind (component : ComponentIdentity) : ComponentIdentity :=
  match component.componentKind with
  | .architecture =>
      boundTo (architectureIdentity architecture).1 (architectureIdentity architecture).2
        (fun _ => architectureDigest (architectureIdentity architecture).1) conformanceDigest
        component
  | .sdk =>
      boundTo (sdkIdentity sdk).sdkId (sdkIdentity sdk).capability
        (fun _ => sdkDigest (sdkIdentity sdk).sdkId) conformanceDigest component
  | .boundaryAdapter =>
      boundTo (sdkIdentity sdk).boundaryId "operation.request-response"
        (mechanismDigest (sdkIdentity sdk).boundaryId) conformanceDigest component
  | .subjectRuntime =>
      boundTo (sdkIdentity sdk).runtimeId ("runtime." ++ (sdkIdentity sdk).runtimeId)
        (mechanismDigest (sdkIdentity sdk).runtimeId) conformanceDigest component
  | _ => component

/-- The kinds of the components that are bound. -/
def boundKinds : List ComponentKind := [.architecture, .sdk, .boundaryAdapter, .subjectRuntime]

@[simp]
theorem componentKind_rebind (component : ComponentIdentity) :
    (rebind sdk architecture conformanceDigest component).componentKind =
      component.componentKind := by
  unfold rebind
  cases kind : component.componentKind <;> simp [boundTo, kind]

theorem rebind_of_other {component : ComponentIdentity}
    (other : component.componentKind ∉ boundKinds) :
    rebind sdk architecture conformanceDigest component = component := by
  unfold rebind
  cases kind : component.componentKind <;> first
    | rfl
    | exact absurd (kind ▸ by decide) other

theorem map_componentKind_rebind (components : List ComponentIdentity) :
    (components.map (rebind sdk architecture conformanceDigest)).map
      ComponentIdentity.componentKind = components.map ComponentIdentity.componentKind := by
  rw [List.map_map]
  exact List.map_congr_left fun component _ => componentKind_rebind _ _ _ component

/-- The components of a kind are those of the base bundle, rebound. -/
theorem filter_map_rebind (select : ComponentKind → Prop) [DecidablePred select]
    (components : List ComponentIdentity) :
    (components.map (rebind sdk architecture conformanceDigest)).filter
        (fun component => select component.componentKind) =
      (components.filter fun component => select component.componentKind).map
        (rebind sdk architecture conformanceDigest) := by
  rw [List.filter_map]
  congr 1
  apply List.filter_congr
  intro component _
  rw [Function.comp, componentKind_rebind]

/-- A bundle with one component of each bound kind is rebound. -/
theorem bindIdentities_of_single {bundle : SupportBundle}
    (single : ∀ kind ∈ boundKinds,
      (bundle.components.map ComponentIdentity.componentKind).count kind = 1) :
    bindIdentities bundle sdk architecture conformanceDigest =
      .ok { bundle with
        components := bundle.components.map (rebind sdk architecture conformanceDigest) } := by
  have kinds : ∀ (components : List ComponentIdentity) (kind : ComponentKind)
      (componentId capability : String) (identityDigest : String → Digest),
      (components.map fun component => if component.componentKind = kind
        then boundTo componentId capability identityDigest conformanceDigest component
        else component).map ComponentIdentity.componentKind =
        components.map ComponentIdentity.componentKind := by
    intro components kind componentId capability identityDigest
    rw [List.map_map]
    apply List.map_congr_left
    intro component _
    by_cases here : component.componentKind = kind
    · rw [Function.comp, if_pos here]
      rfl
    · rw [Function.comp, if_neg here]
  simp only [bindIdentities, bindComponent, bindMechanismComponent, bindTo]
  rw [bindFirst_of_single (single _ (by decide)), ok_bind, pure_bind, bindFirst_of_single, ok_bind,
    pure_bind, bindFirst_of_single, ok_bind, pure_bind, bindFirst_of_single, ok_bind]
  · simp only [List.map_map]
    congr 2
    apply List.map_congr_left
    intro component _
    unfold rebind
    cases kind : component.componentKind <;> simp [Function.comp, boundTo, kind]
  · rw [kinds, kinds, kinds]
    exact single _ (by decide)
  · rw [kinds, kinds]
    exact single _ (by decide)
  · rw [kinds]
    exact single _ (by decide)

/-- Binding changes neither the kinds nor the rest of the bundle. -/
theorem kinds_of_bindIdentities {bundle bound : SupportBundle}
    (ran : bindIdentities bundle sdk architecture conformanceDigest = .ok bound) :
    bound.components.map ComponentIdentity.componentKind =
      bundle.components.map ComponentIdentity.componentKind := by
  simp only [bindIdentities, bindComponent, bindMechanismComponent, bindTo, bind_eq_ok,
    pure_eq_ok] at ran
  obtain ⟨_, ⟨_, first, rfl⟩, _, ⟨_, second, rfl⟩, _, ⟨_, third, rfl⟩, _, fourth, rfl⟩ := ran
  have keeps : ∀ (componentId capability : String) (identityDigest : String → Digest)
      (component : ComponentIdentity), (boundTo componentId capability identityDigest
        conformanceDigest component).componentKind = component.componentKind :=
    fun _ _ _ _ => rfl
  rw [kinds_of_bindFirst (keeps _ _ _) fourth, kinds_of_bindFirst (keeps _ _ _) third,
    kinds_of_bindFirst (keeps _ _ _) second, kinds_of_bindFirst (keeps _ _ _) first]

end Rebinding

/-! ## What a build needs -/

/-- What a package is built from. -/
structure PackageParts where
  bundle : SupportBundle
  closurePolicy : ClosurePolicy
  sdk : BackendSdk
  architecture : ProcessorArchitecture
  debugger : DebuggerContract
  conformanceDigest : Digest

omit [Primitives] in
/-- A bound component gets its name, and keeps its version and its protocols. -/
structure Bindable (component : ComponentIdentity) : Prop where
  version : component.version.isEmpty = false
  positive : component.protocolMin ≠ 0
  ordered : component.protocolMin ≤ component.protocolMax

namespace PackageParts

/-- The package that a build makes. -/
def assembled (parts : PackageParts) : BackendSupportPackage where
  bundle := replaceDebugger
    { parts.bundle with components :=
        parts.bundle.components.map (rebind parts.sdk parts.architecture parts.conformanceDigest) }
    (debuggerComponent parts.debugger (Digest.of (Canonical.text parts.debugger))
      parts.conformanceDigest)
  closurePolicy := parts.closurePolicy
  debugger := parts.debugger

/-- The bundle has every component that a package needs once, with the adapters and the
providers under different names, and the policy and the debugger belong to it. -/
structure Assemblable (parts : PackageParts) : Prop where
  policy : parts.closurePolicy.validate = .ok ()
  named : parts.bundle.closurePolicyDigest = Digest.of (Canonical.text parts.closurePolicy)
  contract : parts.debugger.validate = .ok ()
  serves : parts.architecture ∈ parts.debugger.supportedArchitectures
  debugs : runtimeBinding (sdkIdentity parts.sdk).sdkId =
    some ((sdkIdentity parts.sdk).runtimeId, parts.debugger.debuggerId)
  single : ∀ kind ∈ singleKinds, kind ≠ .debugger → (componentsOf parts.bundle kind).length = 1
  adapters : componentsOf parts.bundle .dependencyAdapter ≠ []
  providers : componentsOf parts.bundle .stateProvider ≠ []
  few : (othersOf parts.bundle).length < 64
  kept : ∀ component ∈ othersOf parts.bundle, component.componentKind ∉ boundKinds →
    component.validate = .ok ()
  bindable : ∀ component ∈ othersOf parts.bundle, component.componentKind ∈ boundKinds →
    Bindable component
  distinct : ∀ kind ∈ [ComponentKind.dependencyAdapter, .stateProvider],
    ((componentsOf parts.bundle kind).map ComponentIdentity.componentId).Nodup

variable (parts : PackageParts)

/-! ## The components of a built package -/

theorem perm_assembled : parts.assembled.bundle.components.Perm
    ((othersOf parts.bundle).map (rebind parts.sdk parts.architecture parts.conformanceDigest) ++
      [debuggerComponent parts.debugger (Digest.of (Canonical.text parts.debugger))
        parts.conformanceDigest]) := by
  rw [othersOf, ← filter_map_rebind _ _ _ (· ≠ ComponentKind.debugger)]
  exact List.perm_insertionSort _ _

/-- The components of a kind are the rebound ones of the base bundle. -/
theorem componentsOf_assembled {kind : ComponentKind} (other : kind ≠ .debugger) :
    (componentsOf parts.assembled.bundle kind).Perm ((componentsOf parts.bundle kind).map
      (rebind parts.sdk parts.architecture parts.conformanceDigest)) := by
  have perm := parts.perm_assembled.filter fun component => component.componentKind = kind
  have last : [debuggerComponent parts.debugger (Digest.of (Canonical.text parts.debugger))
      parts.conformanceDigest].filter (fun component => component.componentKind = kind) = [] := by
    rw [List.filter_cons_of_neg (by simp [debuggerComponent, other.symm]), List.filter_nil]
  rw [List.filter_append, last, List.append_nil, filter_map_rebind _ _ _ (· = kind)] at perm
  have same : (othersOf parts.bundle).filter (fun component => component.componentKind = kind) =
      componentsOf parts.bundle kind := by
    rw [othersOf, List.filter_filter]
    apply List.filter_congr
    intro component _
    by_cases here : component.componentKind = kind
    · simp [here, other]
    · simp [here]
  rw [← same]
  exact perm

theorem componentsOf_assembled_debugger : componentsOf parts.assembled.bundle .debugger =
    [debuggerComponent parts.debugger (Digest.of (Canonical.text parts.debugger))
      parts.conformanceDigest] := by
  have perm := parts.perm_assembled.filter fun component => component.componentKind = .debugger
  have none : (othersOf parts.bundle).filter
      (fun component => component.componentKind = .debugger) = [] := by
    rw [othersOf, List.filter_filter, List.filter_eq_nil_iff]
    simp
  rw [List.filter_append, filter_map_rebind _ _ _ (· = ComponentKind.debugger), none, List.map_nil,
    List.nil_append, List.filter_cons_of_pos (by simp [debuggerComponent]),
    List.filter_nil] at perm
  exact List.perm_singleton.mp perm

/-- The one component of a kind. -/
theorem exists_componentsOf_assembled {kind : ComponentKind} (other : kind ≠ .debugger)
    (single : (componentsOf parts.bundle kind).length = 1) :
    ∃ component, component.componentKind = kind ∧ componentsOf parts.assembled.bundle kind =
      [rebind parts.sdk parts.architecture parts.conformanceDigest component] := by
  have perm := parts.componentsOf_assembled other
  obtain ⟨component, only⟩ := List.length_eq_one_iff.mp single
  have member : component ∈ componentsOf parts.bundle kind := only ▸ List.mem_singleton_self _
  rw [only] at perm
  refine ⟨component, ?_, List.perm_singleton.mp perm⟩
  simpa [componentsOf] using (List.mem_filter.mp member).2

theorem length_componentsOf_assembled {kind : ComponentKind} (other : kind ≠ .debugger) :
    (componentsOf parts.assembled.bundle kind).length =
      (componentsOf parts.bundle kind).length := by
  rw [(parts.componentsOf_assembled other).length_eq, List.length_map]

end PackageParts

/-! ## The checks of a built package -/

omit [Primitives] in
theorem validIdentities (sdk : BackendSdk) (architecture : ProcessorArchitecture) :
    validLowerIdentity (sdkIdentity sdk).sdkId = true ∧
    validateCapabilities [(sdkIdentity sdk).capability] = .ok () ∧
    validLowerIdentity (sdkIdentity sdk).boundaryId = true ∧
    validLowerIdentity (sdkIdentity sdk).runtimeId = true ∧
    validateCapabilities ["runtime." ++ (sdkIdentity sdk).runtimeId] = .ok () ∧
    validLowerIdentity (architectureIdentity architecture).1 = true ∧
    validateCapabilities [(architectureIdentity architecture).2] = .ok () := by
  cases sdk <;> cases architecture <;> decide

omit [Primitives] in
/-- A component under a valid name is valid when it can be bound. -/
theorem validate_boundTo {componentId capability : String} {identityDigest : String → Digest}
    {conformanceDigest : Digest} {component : ComponentIdentity}
    (named : validLowerIdentity componentId = true)
    (capable : validateCapabilities [capability] = .ok ()) :
    (boundTo componentId capability identityDigest conformanceDigest component).validate = .ok () ↔
      Bindable component := by
  have nonempty : componentId.isEmpty = false := by
    rw [Bool.eq_false_iff, Ne, String.isEmpty_iff]
    intro empty
    rw [empty] at named
    exact absurd named (by decide)
  simp only [ComponentIdentity.validate, boundTo, capable, ok_bind, rejectIf_eq_ok, named, nonempty,
    Bool.false_eq_true, not_true_eq_false, false_or, not_or, Bool.not_eq_true, gt_iff_lt,
    UInt64.not_lt]
  constructor
  · intro ⟨version, positive, ordered⟩
    exact ⟨version, positive, ordered⟩
  · intro bindable
    exact ⟨bindable.version, bindable.positive, bindable.ordered⟩

section

variable (sdk : BackendSdk) (architecture : ProcessorArchitecture) (conformanceDigest : Digest)

theorem validate_rebind (component : ComponentIdentity) :
    (rebind sdk architecture conformanceDigest component).validate = .ok () ↔
      (component.componentKind ∈ boundKinds → Bindable component) ∧
        (component.componentKind ∉ boundKinds → component.validate = .ok ()) := by
  obtain ⟨sdkId, capability, boundaryId, runtimeId, runtime, architectureId, architectural⟩ :=
    validIdentities sdk architecture
  have request : validateCapabilities ["operation.request-response"] = .ok () := by decide
  by_cases bound : component.componentKind ∈ boundKinds
  · rw [iff_true_intro bound, not_true_eq_false, false_imp_iff, and_true, true_imp_iff]
    unfold rebind
    cases kind : component.componentKind with
    | architecture => exact validate_boundTo architectureId architectural
    | sdk => exact validate_boundTo sdkId capability
    | boundaryAdapter => exact validate_boundTo boundaryId request
    | subjectRuntime => exact validate_boundTo runtimeId runtime
    | _ =>
        rw [kind] at bound
        exact absurd bound (by decide)
  · rw [iff_false_intro bound, not_false_eq_true, false_imp_iff, true_and, true_imp_iff]
    rw [rebind_of_other _ _ _ bound]

/-- The components of a package are found under the names of its SDK and architecture. -/
theorem componentId_rebind {component : ComponentIdentity} :
    (component.componentKind = .architecture →
      (rebind sdk architecture conformanceDigest component).componentId =
        (architectureIdentity architecture).1) ∧
    (component.componentKind = .sdk →
      (rebind sdk architecture conformanceDigest component).componentId =
        (sdkIdentity sdk).sdkId) ∧
    (component.componentKind = .subjectRuntime →
      (rebind sdk architecture conformanceDigest component).componentId =
        (sdkIdentity sdk).runtimeId) := by
  unfold rebind
  cases component.componentKind <;> simp [boundTo]

omit [Primitives] in
theorem componentArchitecture_identity :
    componentArchitecture (architectureIdentity architecture).1 = some architecture := by
  cases architecture <;> decide

end

omit [Primitives] in
theorem validate_debuggerComponent {debugger : DebuggerContract}
    {identityDigest conformanceDigest : Digest} (contract : debugger.validate = .ok ()) :
    (debuggerComponent debugger identityDigest conformanceDigest).validate = .ok () := by
  simp only [DebuggerContract.validate, bind_eq_ok, rejectIf_eq_ok, not_or, not_not] at contract
  obtain ⟨_, ⟨listed, -, -, version, -⟩, -⟩ := contract
  have named : validLowerIdentity debugger.debuggerId = true ∧
      debugger.debuggerId.isEmpty = false := by
    simp only [List.mem_cons, List.not_mem_nil, or_false] at listed
    rcases listed with same | same | same | same | same <;> rw [same] <;> decide
  have capable : validateCapabilities [debugger.protocol.capability] = .ok () := by
    cases debugger.protocol <;> decide
  have ordered : ¬ (1 : UInt64) < 1 ∧ (1 : UInt64) ≠ 0 := by decide
  simp only [ComponentIdentity.validate, debuggerComponent, capable, ok_bind, rejectIf_eq_ok, named,
    version, ordered.1, ordered.2, Bool.false_eq_true, not_true_eq_false, or_self,
    not_false_eq_true]

omit [Primitives] in
theorem length_componentsOf (bundle : SupportBundle) (kind : ComponentKind) :
    (componentsOf bundle kind).length =
      (bundle.components.map ComponentIdentity.componentKind).count kind := by
  rw [componentsOf, ← List.countP_eq_length_filter, List.count_eq_countP, List.countP_map]
  apply List.countP_congr
  intro component _
  simp

omit [Primitives] in
/-- Replacing the debugger does not change how many components of another kind there are. -/
theorem length_componentsOf_replaced (bundle : SupportBundle) {component : ComponentIdentity}
    (replaces : component.componentKind = .debugger) {kind : ComponentKind}
    (other : kind ≠ .debugger) :
    (componentsOf (replaceDebugger bundle component) kind).length =
      (componentsOf bundle kind).length := by
  have perm : (replaceDebugger bundle component).components.Perm (othersOf bundle ++ [component]) :=
    List.perm_insertionSort _ _
  have apart : ¬ ComponentKind.debugger = kind := other.symm
  rw [componentsOf, componentsOf, (perm.filter _).length_eq, List.filter_append,
    List.filter_cons_of_neg (by simp [replaces, apart]), List.filter_nil, List.append_nil, othersOf,
    List.filter_filter]
  congr 1
  apply List.filter_congr
  intro listed _
  by_cases here : listed.componentKind = kind
  · simp [here, other]
  · simp [here]

namespace PackageParts

variable (parts : PackageParts)

/-- The components are in order exactly when the adapters have different names and the
providers have. -/
theorem isChain_assembled_iff (single : ∀ kind ∈ singleKinds, kind ≠ .debugger →
      (componentsOf parts.bundle kind).length = 1) :
    parts.assembled.bundle.components.IsChain ComponentIdentity.precedes ↔
      ∀ kind ∈ [ComponentKind.dependencyAdapter, .stateProvider],
        ((componentsOf parts.bundle kind).map ComponentIdentity.componentId).Nodup := by
  have named : ∀ kind ∈ [ComponentKind.dependencyAdapter, .stateProvider],
      ((componentsOf parts.assembled.bundle kind).map ComponentIdentity.componentId).Perm
        ((componentsOf parts.bundle kind).map ComponentIdentity.componentId) := by
    intro kind listed
    have other : kind ≠ .debugger ∧ kind ∉ boundKinds := by
      simp only [List.mem_cons, List.not_mem_nil, or_false] at listed
      rcases listed with same | same <;> rw [same] <;> decide
    have perm := (parts.componentsOf_assembled other.1).map ComponentIdentity.componentId
    rw [List.map_map] at perm
    refine perm.trans (List.Perm.of_eq (List.map_congr_left fun component member => ?_))
    have ofKind : component.componentKind = kind := by
      simpa [componentsOf] using (List.mem_filter.mp member).2
    rw [Function.comp, rebind_of_other _ _ _ (ofKind ▸ other.2)]
  have sorted := parts.perm_assembled.map componentKey
  have chain : parts.assembled.bundle.components.IsChain ComponentIdentity.precedes ↔
      (parts.assembled.bundle.components.map componentKey).Nodup := by
    rw [sorted.nodup_iff, othersOf, ← filter_map_rebind _ _ _ (· ≠ ComponentKind.debugger)]
    exact isChain_sorted_iff
  rw [chain, nodup_keys_iff]
  constructor
  · intro distinct kind listed
    exact (named kind listed).nodup_iff.mp (distinct kind)
  · intro distinct kind
    by_cases two : kind ∈ [ComponentKind.dependencyAdapter, .stateProvider]
    · exact (named kind two).nodup_iff.mpr (distinct kind two)
    · have one : (componentsOf parts.assembled.bundle kind).length = 1 := by
        by_cases debugger : kind = .debugger
        · rw [debugger, componentsOf_assembled_debugger, List.length_singleton]
        · have needed : kind ∈ singleKinds := by
            cases kind <;> first | decide | exact absurd (by decide) two
          rw [length_componentsOf_assembled _ debugger]
          exact single kind needed debugger
      obtain ⟨component, only⟩ := List.length_eq_one_iff.mp one
      rw [componentsOf] at only
      rw [only]
      exact List.nodup_singleton _

/-- The bundle of a built package is valid when its rebound components are. -/
theorem validate_bundle_assembled_iff (contract : parts.debugger.validate = .ok ())
    (single : ∀ kind ∈ singleKinds, kind ≠ .debugger →
      (componentsOf parts.bundle kind).length = 1) :
    parts.assembled.bundle.validate = .ok () ↔ (othersOf parts.bundle).length < 64 ∧
      (∀ component ∈ othersOf parts.bundle,
        (component.componentKind ∈ boundKinds → Bindable component) ∧
          (component.componentKind ∉ boundKinds → component.validate = .ok ())) ∧
      ∀ kind ∈ [ComponentKind.dependencyAdapter, .stateProvider],
        ((componentsOf parts.bundle kind).map ComponentIdentity.componentId).Nodup := by
  have size := parts.perm_assembled.length_eq
  rw [List.length_append, List.length_map, List.length_singleton] at size
  have filled : parts.assembled.bundle.components.isEmpty = false := by
    rw [List.isEmpty_eq_false_iff_exists_mem]
    exact List.exists_mem_of_length_pos (by omega)
  have valid : (∀ component ∈ parts.assembled.bundle.components, component.validate = .ok ()) ↔
      ∀ component ∈ othersOf parts.bundle,
        (component.componentKind ∈ boundKinds → Bindable component) ∧
          (component.componentKind ∉ boundKinds → component.validate = .ok ()) := by
    simp only [parts.perm_assembled.mem_iff, List.mem_append, List.mem_map, List.mem_singleton]
    constructor
    · intro valid component member
      exact (validate_rebind _ _ _ component).mp (valid _ (.inl ⟨component, member, rfl⟩))
    · rintro valid _ (⟨component, member, rfl⟩ | rfl)
      · exact (validate_rebind _ _ _ component).mpr (valid component member)
      · exact validate_debuggerComponent contract
  simp only [SupportBundle.validate, bind_eq_ok, rejectIf_eq_ok, forEach_eq_ok, exists_const,
    not_not, valid, parts.isChain_assembled_iff single, filled, size, Bool.false_eq_true, false_or,
    not_lt, gt_iff_lt, Nat.succ_le_iff]

/-- A built package is valid exactly when it could be assembled. -/
theorem validate_assembled_iff :
    validateBackendSupportPackage parts.assembled = .ok () ↔ parts.Assemblable := by
  have digested : Canonical.digest parts.debugger =
      .ok (Digest.of (Canonical.text parts.debugger)) :=
    Canonical.digest_of_exact parts.debugger.exact
  have policyDigest : Canonical.digest parts.closurePolicy =
      .ok (Digest.of (Canonical.text parts.closurePolicy)) :=
    Canonical.digest_of_exact parts.closurePolicy.exact
  have lengths : (∀ kind ∈ singleKinds, (componentsOf parts.assembled.bundle kind).length = 1) ↔
      ∀ kind ∈ singleKinds, kind ≠ .debugger → (componentsOf parts.bundle kind).length = 1 := by
    constructor
    · intro single kind listed other
      rw [← parts.length_componentsOf_assembled other]
      exact single kind listed
    · intro single kind listed
      by_cases debugger : kind = .debugger
      · rw [debugger, componentsOf_assembled_debugger, List.length_singleton]
      · rw [parts.length_componentsOf_assembled debugger]
        exact single kind listed debugger
  have empty : ∀ kind, kind ≠ .debugger →
      (componentsOf parts.assembled.bundle kind = [] ↔ componentsOf parts.bundle kind = []) := by
    intro kind other
    rw [← List.length_eq_zero_iff, ← List.length_eq_zero_iff,
      parts.length_componentsOf_assembled other]
  simp only [validateBackendSupportPackage, validateBackendSupportBundle, mapError_eq_ok,
    validateBackendSupportBundleInner, validateRuntimeDebuggerBinding, bind_eq_ok, rejectIf_eq_ok,
    okOr_eq_ok, not_or, not_exists, not_and, not_not, lengths]
  have found : ∀ kind ∈ singleKinds, kind ≠ .debugger → (∀ kind ∈ singleKinds, kind ≠ .debugger →
      (componentsOf parts.bundle kind).length = 1) → ∃ component, component.componentKind = kind ∧
        componentsOf parts.assembled.bundle kind =
          [rebind parts.sdk parts.architecture parts.conformanceDigest component] :=
    fun kind listed other single =>
      parts.exists_componentsOf_assembled other (single kind listed other)
  constructor
  · rintro ⟨_, policy, _, named, _, sameDigest, _, bundled, _, contract, _, single, _, ⟨adapters,
      providers⟩, _, -, _, -, _, -, _, -, component, first, required, architecture, _, serves, sdk,
      oneSdk, runtime, oneRuntime, expected, bound, runtimeId, debuggerId⟩
    obtain ⟨few, components, distinct⟩ :=
      (parts.validate_bundle_assembled_iff contract single).mp bundled
    obtain ⟨base, ofKind, only⟩ := found .architecture (by decide) (by decide) single
    obtain ⟨sdkBase, sdkKind, onlySdk⟩ := found .sdk (by decide) (by decide) single
    obtain ⟨runtimeBase, runtimeKind, onlyRuntime⟩ :=
      found .subjectRuntime (by decide) (by decide) single
    rw [only, List.head?_cons] at first
    rw [← Option.some.inj first, (componentId_rebind _ _ _).1 ofKind,
      componentArchitecture_identity] at architecture
    rw [oneComponent_eq_ok, onlySdk] at oneSdk
    rw [oneComponent_eq_ok, onlyRuntime] at oneRuntime
    rw [← (List.cons.inj oneSdk).1, (componentId_rebind _ _ _).2.1 sdkKind] at bound
    rw [← (List.cons.inj oneRuntime).1, (componentId_rebind _ _ _).2.2 runtimeKind] at runtimeId
    apply Assemblable.mk policy _ contract (Option.some.inj architecture ▸ serves) _ single
      (mt (empty _ (by decide)).mpr adapters) (mt (empty _ (by decide)).mpr providers) few
      (fun component member => (components component member).2)
      (fun component member => (components component member).1) distinct
    · exact (sameDigest.symm.trans (Except.ok.inj (named.symm.trans policyDigest)))
    · rw [bound, runtimeId]
      exact congrArg (fun name => some (expected.1, name)) debuggerId.symm
  · intro able
    obtain ⟨base, ofKind, only⟩ := found .architecture (by decide) (by decide) able.single
    obtain ⟨sdkBase, sdkKind, onlySdk⟩ := found .sdk (by decide) (by decide) able.single
    obtain ⟨runtimeBase, runtimeKind, onlyRuntime⟩ :=
      found .subjectRuntime (by decide) (by decide) able.single
    have bundled := (parts.validate_bundle_assembled_iff able.contract able.single).mpr
      ⟨able.few, fun component member => ⟨able.bindable component member,
        able.kept component member⟩, able.distinct⟩
    refine ⟨(), able.policy, _, policyDigest, (), able.named.symm, (), bundled, (), able.contract,
      (), able.single, (), ⟨mt (empty _ (by decide)).mp able.adapters,
        mt (empty _ (by decide)).mp able.providers⟩, _,
      congrArg List.head? parts.componentsOf_assembled_debugger, (), ⟨rfl, rfl⟩, _, digested, (),
      ⟨rfl, rfl⟩, _, congrArg List.head? only, _, ?_, (), able.serves, _,
      oneComponent_eq_ok.mpr onlySdk, _, oneComponent_eq_ok.mpr onlyRuntime, _,
      (congrArg runtimeBinding ((componentId_rebind _ _ _).2.1 sdkKind)).trans able.debugs, ?_, ?_⟩
    · rw [(componentId_rebind _ _ _).1 ofKind, componentArchitecture_identity]
    · exact (componentId_rebind _ _ _).2.2 runtimeKind
    · rfl

end PackageParts

/-- A package is built exactly when it can be assembled, and then it is the one that the parts
make: every component of the base bundle is kept or bound, and the debugger is its own. -/
theorem buildBackendSupportPackage_eq_ok (parts : PackageParts) (package : BackendSupportPackage) :
    buildBackendSupportPackage parts.bundle parts.closurePolicy parts.sdk parts.architecture
        parts.debugger parts.conformanceDigest = .ok package ↔
      parts.Assemblable ∧ parts.assembled = package := by
  have digested : Canonical.digest parts.debugger =
      .ok (Digest.of (Canonical.text parts.debugger)) :=
    Canonical.digest_of_exact parts.debugger.exact
  have counts : ∀ {kind : ComponentKind}, kind ∈ boundKinds →
      kind ∈ singleKinds ∧ kind ≠ .debugger := by
    intro kind listed
    simp only [boundKinds, List.mem_cons, List.not_mem_nil, or_false] at listed
    rcases listed with same | same | same | same <;> rw [same] <;> decide
  constructor
  · intro built
    simp only [buildBackendSupportPackage, bind_eq_ok, pure_eq_ok, digested,
      Except.ok.injEq] at built
    obtain ⟨bound, ran, _, rfl, _, valid, rfl⟩ := built
    have single : ∀ kind ∈ boundKinds,
        (parts.bundle.components.map ComponentIdentity.componentKind).count kind = 1 := by
      intro kind listed
      obtain ⟨needed, other⟩ := counts listed
      have accepted := valid
      simp only [validateBackendSupportPackage, validateBackendSupportBundle, mapError_eq_ok,
        validateBackendSupportBundleInner, bind_eq_ok, rejectIf_eq_ok, not_exists, not_and,
        not_not] at accepted
      obtain ⟨_, -, _, -, _, -, _, -, _, -, _, one, -⟩ := accepted
      rw [← kinds_of_bindIdentities _ _ _ ran, ← length_componentsOf,
        ← length_componentsOf_replaced bound _ other]
      · exact one kind needed
      · rfl
    rw [bindIdentities_of_single _ _ _ single] at ran
    obtain rfl := Except.ok.inj ran
    exact ⟨parts.validate_assembled_iff.mp valid, rfl⟩
  · rintro ⟨able, rfl⟩
    have single : ∀ kind ∈ boundKinds,
        (parts.bundle.components.map ComponentIdentity.componentKind).count kind = 1 := by
      intro kind listed
      rw [← length_componentsOf]
      exact able.single kind (counts listed).1 (counts listed).2
    simp only [buildBackendSupportPackage, bind_eq_ok, pure_eq_ok]
    exact ⟨_, bindIdentities_of_single _ _ _ single, _, digested, (),
      parts.validate_assembled_iff.mpr able, rfl⟩

end Reproit.Backend
