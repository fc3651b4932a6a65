/-
# What a support catalog hands out

The catalog keeps every package under the capabilities of its SDK and architecture
components, and the bundle of a package is checked by the ids of these components.  A
package is right for whoever selects it exactly when the capabilities belong to the ids.
-/

import Reproit.Backend.SamplePrimitives
import Reproit.Backend.SupportCatalog
import Reproit.Support.Registry

namespace Reproit

namespace OrderedMap

variable {κ β : Type} [LinearOrder κ]

/-- A map after an insertion of a new key holds the new entry and the old ones. -/
theorem getElem?_of_insertNew {map inserted : OrderedMap κ β} {key : κ} {value : β}
    (added : insertNew map key value = some inserted) (wanted : κ) (found : β) :
    inserted[wanted]? = some found ↔
      map[wanted]? = some found ∨ wanted = key ∧ found = value := by
  obtain ⟨missing, rfl⟩ := insertNew_eq_some.mp added
  rw [getElem?_insert]
  by_cases same : key = wanted
  · subst same
    rw [if_pos rfl, Std.ExtTreeMap.getElem?_eq_none missing]
    simp [eq_comm]
  · rw [if_neg same]
    simp [Ne.symm same]

end OrderedMap

open Backend

variable [Primitives]

namespace Backend

/-! ## What a catalog holds -/

/-- The package has the digest and the identity under which a catalog keeps it. -/
structure KeptUnder (digest : Digest) (identity : PackageIdentity)
    (package : BackendSupportPackage) : Prop where
  digest : package.digest = .ok digest
  identity : packageIdentity package.bundle = .ok identity

/-- The catalog holds exactly some packages, under their digests and identities. -/
structure Catalogued (packages : List BackendSupportPackage)
    (catalog : VerifiedBackendSupportCatalog) : Prop where
  valid : ∀ package ∈ packages, validateBackendSupportPackage package = .ok ()
  kept : ∀ package ∈ packages, ∃ digest identity, KeptUnder digest identity package
  byDigest : ∀ digest identity, catalog.byDigest[digest]? = some identity ↔
    ∃ package ∈ packages, KeptUnder digest identity package
  packages : ∀ identity package, catalog.packages[identity]? = some package ↔
    package ∈ packages ∧ packageIdentity package.bundle = .ok identity

namespace Catalogued

variable {packages : List BackendSupportPackage} {package : BackendSupportPackage}
  {registry : VerifiedSupportRegistry} {catalog after : VerifiedBackendSupportCatalog}

theorem nothing : Catalogued [] VerifiedBackendSupportCatalog.empty where
  valid := nofun
  kept := nofun
  byDigest digest identity := by
    refine ⟨fun found => ?_, nofun⟩
    cases Std.ExtTreeMap.getElem?_empty.symm.trans found
  packages identity package := by
    refine ⟨fun found => ?_, nofun⟩
    cases Std.ExtTreeMap.getElem?_empty.symm.trans found

theorem add (held : Catalogued packages catalog)
    (added : catalog.add registry package = .ok after) :
    Catalogued (packages ++ [package]) after := by
  simp only [VerifiedBackendSupportCatalog.add, bind_eq_ok, okOr_eq_ok, pure_eq_ok] at added
  obtain ⟨_, valid, digest, digested, _, -, identity, identified, byDigest, newDigest, byIdentity,
    newIdentity, rfl⟩ := added
  apply Catalogued.mk
  · intro other member
    rcases List.mem_append.mp member with earlier | last
    · exact held.valid other earlier
    · rw [List.mem_singleton.mp last]
      exact valid
  · intro other member
    rcases List.mem_append.mp member with earlier | last
    · exact held.kept other earlier
    · rw [List.mem_singleton.mp last]
      exact ⟨digest, identity, digested, identified⟩
  · intro wanted found
    rw [OrderedMap.getElem?_of_insertNew newDigest, held.byDigest]
    constructor
    · rintro (⟨other, earlier, kept⟩ | ⟨rfl, rfl⟩)
      · exact ⟨other, List.mem_append_left _ earlier, kept⟩
      · exact ⟨package, by simp, digested, identified⟩
    · rintro ⟨other, member, kept⟩
      rcases List.mem_append.mp member with earlier | last
      · exact .inl ⟨other, earlier, kept⟩
      · rw [List.mem_singleton.mp last] at kept
        exact .inr ⟨Except.ok.inj (kept.digest.symm.trans digested),
          Except.ok.inj (kept.identity.symm.trans identified)⟩
  · intro wanted found
    rw [OrderedMap.getElem?_of_insertNew newIdentity, held.packages]
    constructor
    · rintro (⟨earlier, kept⟩ | ⟨rfl, rfl⟩)
      · exact ⟨List.mem_append_left _ earlier, kept⟩
      · exact ⟨by simp, identified⟩
    · rintro ⟨member, kept⟩
      rcases List.mem_append.mp member with earlier | last
      · exact .inl ⟨earlier, kept⟩
      · obtain rfl := List.mem_singleton.mp last
        exact .inr ⟨Except.ok.inj (kept.symm.trans identified), rfl⟩

theorem of_new (built : VerifiedBackendSupportCatalog.new packages registry = .ok catalog) :
    Catalogued packages catalog := by
  suffices general : ∀ (rest done : List BackendSupportPackage)
      (before : VerifiedBackendSupportCatalog), Catalogued done before →
        rest.foldlM (VerifiedBackendSupportCatalog.add registry) before = .ok catalog →
          Catalogued (done ++ rest) catalog by
    simp only [VerifiedBackendSupportCatalog.new, bind_eq_ok] at built
    obtain ⟨_, -, folded⟩ := built
    exact general packages [] _ nothing folded
  intro rest
  induction rest with
  | nil =>
      intro done before held folded
      obtain rfl := (pure_eq_ok _ _).mp folded
      rw [List.append_nil]
      exact held
  | cons package rest ih =>
      intro done before held folded
      rw [List.foldlM_cons, bind_eq_ok] at folded
      obtain ⟨between, added, folded⟩ := folded
      have behind := ih _ between (held.add added) folded
      rwa [List.append_assoc] at behind

/-- A package is selected exactly by its identity. -/
theorem select_eq_ok (held : Catalogued packages catalog) {sdk architecture : String} :
    catalog.select sdk architecture = .ok package ↔
      package ∈ packages ∧ packageIdentity package.bundle = .ok (toLex (sdk, architecture)) := by
  rw [VerifiedBackendSupportCatalog.select, okOr_eq_ok]
  exact held.packages _ _

/-- A package is found exactly by its digest. -/
theorem requireDigest_eq_ok (held : Catalogued packages catalog) {digest : Digest} :
    catalog.requireDigest digest = .ok package ↔
      package ∈ packages ∧ package.digest = .ok digest := by
  simp only [VerifiedBackendSupportCatalog.requireDigest, bind_eq_ok, okOr_eq_ok]
  constructor
  · rintro ⟨identity, named, found⟩
    obtain ⟨other, member, kept⟩ := (held.byDigest _ _).mp named
    have same := (held.packages identity other).mpr ⟨member, kept.identity⟩
    obtain rfl := Option.some.inj (found.symm.trans same)
    exact ⟨member, kept.digest⟩
  · rintro ⟨member, digested⟩
    obtain ⟨other, identity, kept⟩ := held.kept package member
    obtain rfl := Except.ok.inj (kept.digest.symm.trans digested)
    exact ⟨identity, (held.byDigest _ _).mpr ⟨package, member, kept⟩,
      (held.packages _ _).mpr ⟨member, kept.identity⟩⟩

end Catalogued

/-! ## Who a package is for -/

/-- The debugger contract serves the architecture, and the runtime component and the debugger
are the ones of the SDK. -/
structure MadeFor (sdk architecture : String) (package : BackendSupportPackage) : Prop where
  architecture : ∃ supported ∈ package.debugger.supportedArchitectures,
    supported.name = architecture
  sdk : ∃ sdkId runtime, sdk = "sdk." ++ sdkId ∧
    oneComponent package.bundle .subjectRuntime = .ok runtime ∧
      runtimeBinding sdkId = some (runtime.componentId, package.debugger.debuggerId)

omit [Primitives] in
/-- The capability that a component is found by belongs to its id. -/
def NamedAlike (bundle : SupportBundle) (kind : ComponentKind) (lead : String) : Prop :=
  ∀ component ∈ componentsOf bundle kind,
    (component.capabilities.find? fun capability => startsWith capability lead) =
      some (lead ++ component.componentId)

omit [Primitives] in
/-- The SDK is named alike, and so is the architecture unless the debugger serves both. -/
structure Matched (package : BackendSupportPackage) : Prop where
  sdk : NamedAlike package.bundle .sdk "sdk."
  architecture : package.debugger.supportedArchitectures.length = 2 ∨
    NamedAlike package.bundle .architecture "architecture."

omit [Primitives] in
theorem mem_of_lookup {α β : Type} [DecidableEq α] {entries : List (α × β)} {key : α} {value : β}
    (found : entries.lookup key = some value) : (key, value) ∈ entries := by
  obtain ⟨first, second, split, -⟩ := List.lookup_eq_some_iff.mp found
  rw [split]
  exact List.mem_append_right _ List.mem_cons_self

omit [Primitives] in
/-- No two SDKs have one runtime and debugger. -/
theorem runtimeBinding_injective {first second : String} {binding : String × String}
    (here : runtimeBinding first = some binding) (there : runtimeBinding second = some binding) :
    first = second := by
  have distinct : ([("dotnet", "dotnet-native", "netcoredbg"), ("go", "go-native", "delve"),
    ("node", "node-native", "node-inspector"), ("python", "python-native", "debugpy"),
    ("rust", "rust-native", "gdbserver")].map Prod.snd).Nodup := by decide
  have same := List.inj_on_of_nodup_map distinct (mem_of_lookup here) (mem_of_lookup there) rfl
  exact (Prod.mk.inj same).1

omit [Primitives] in
theorem name_of_componentArchitecture {componentId : String} {required : ProcessorArchitecture}
    (found : componentArchitecture componentId = some required) :
    required.name = "architecture." ++ componentId := by
  have listed := mem_of_lookup found
  rw [List.mem_cons, List.mem_singleton, Prod.mk.injEq, Prod.mk.injEq] at listed
  rcases listed with ⟨rfl, rfl⟩ | ⟨rfl, rfl⟩ <;> decide

omit [Primitives] in
theorem architectureName_injective : Function.Injective ProcessorArchitecture.name := by
  intro first second same
  cases first <;> cases second <;> first | rfl | exact absurd same (by decide)

omit [Primitives] in
/-- Two architectures in order are all architectures. -/
theorem mem_of_length_two {supported : List ProcessorArchitecture}
    (sorted : requireStrictOrder (supported.map ProcessorArchitecture.debugName) = .ok ())
    (both : supported.length = 2) (architecture : ProcessorArchitecture) :
    architecture ∈ supported := by
  obtain ⟨first, second, rfl⟩ := List.length_eq_two.mp both
  cases first <;> cases second <;> cases architecture <;>
    first | exact List.mem_cons_self | exact List.mem_cons_of_mem _ List.mem_cons_self |
      exact absurd sorted (by decide)

omit [Primitives] in
theorem two_le_length {supported : List ProcessorArchitecture}
    {first second : ProcessorArchitecture} (here : first ∈ supported) (there : second ∈ supported)
    (different : first ≠ second) : 2 ≤ supported.length := by
  have distinct : [first, second].Nodup :=
    List.nodup_cons.mpr ⟨fun member => different (List.mem_singleton.mp member),
      List.nodup_singleton _⟩
  apply (distinct.subperm ?_).length_le
  intro architecture member
  rcases List.mem_cons.mp member with same | last
  · exact same ▸ here
  · exact List.mem_singleton.mp last ▸ there

omit [Primitives] in
theorem oneComponent_eq_ok {bundle : SupportBundle} {kind : ComponentKind}
    {component : ComponentIdentity} :
    oneComponent bundle kind = .ok component ↔ componentsOf bundle kind = [component] := by
  unfold oneComponent
  constructor
  · intro found
    split at found
    next only listed =>
      rw [listed, Except.ok.inj found]
    next => cases found
  · intro listed
    rw [listed]

omit [Primitives] in
theorem oneComponentCapability_eq_ok {bundle : SupportBundle} {kind : ComponentKind}
    {lead capability : String} {component : ComponentIdentity}
    (only : componentsOf bundle kind = [component]) :
    oneComponentCapability bundle kind lead = .ok capability ↔
      (component.capabilities.find? fun capability => startsWith capability lead) =
        some capability := by
  rw [oneComponentCapability, only]
  exact okOr_eq_ok _ _ _

/-- What the checks of a package say about the components that it is selected by. -/
structure Bound (package : BackendSupportPackage) (sdk architecture runtime : ComponentIdentity)
    (required : ProcessorArchitecture) : Prop where
  onlySdk : componentsOf package.bundle .sdk = [sdk]
  onlyArchitecture : componentsOf package.bundle .architecture = [architecture]
  onlyRuntime : oneComponent package.bundle .subjectRuntime = .ok runtime
  binding : runtimeBinding sdk.componentId =
    some (runtime.componentId, package.debugger.debuggerId)
  named : componentArchitecture architecture.componentId = some required
  supported : required ∈ package.debugger.supportedArchitectures
  few : package.debugger.supportedArchitectures.length ≤ 2
  sorted : requireStrictOrder (package.debugger.supportedArchitectures.map
    ProcessorArchitecture.debugName) = .ok ()

theorem exists_bound {package : BackendSupportPackage}
    (valid : validateBackendSupportPackage package = .ok ()) :
    ∃ sdk architecture runtime required, Bound package sdk architecture runtime required := by
  simp only [validateBackendSupportPackage, validateBackendSupportBundle, mapError_eq_ok,
    validateBackendSupportBundleInner, validateRuntimeDebuggerBinding, bind_eq_ok, rejectIf_eq_ok,
    okOr_eq_ok, not_or, not_exists, not_and, not_not] at valid
  obtain ⟨_, -, _, -, _, -, _, -, _, contract, _, single, _, -, _, -, _, -, _, -, _, -, architecture,
    found, required, named, _, supported, sdk, onlySdk, runtime, onlyRuntime, expected, bound,
    runtimeId, debuggerId⟩ := valid
  have onlyArchitecture : componentsOf package.bundle .architecture = [architecture] := by
    have one := single .architecture (by decide)
    obtain ⟨component, only⟩ := List.length_eq_one_iff.mp one
    rw [only, List.head?_cons] at found
    rw [only, Option.some.inj found]
  simp only [DebuggerContract.validate, bind_eq_ok, rejectIf_eq_ok, not_or] at contract
  obtain ⟨_, ⟨-, -, -, -, -, -, -, -, -, -, -, few⟩, _, -, _, sorted, -⟩ := contract
  have binding : runtimeBinding sdk.componentId =
      some (runtime.componentId, package.debugger.debuggerId) := by
    rw [bound, runtimeId, debuggerId]
  exact ⟨sdk, architecture, runtime, required, oneComponent_eq_ok.mp onlySdk, onlyArchitecture,
    onlyRuntime, binding, named, supported, not_lt.mp few, sorted⟩

omit [Primitives] in
/-- What a package is kept under is what its two components are found by. -/
theorem Bound.identity {package : BackendSupportPackage}
    {sdk architecture runtime : ComponentIdentity} {required : ProcessorArchitecture}
    (bound : Bound package sdk architecture runtime required)
    {sdkCapability architectureCapability : String}
    (identified : packageIdentity package.bundle =
      .ok (toLex (sdkCapability, architectureCapability))) :
    (sdk.capabilities.find? fun capability => startsWith capability "sdk.") =
        some sdkCapability ∧
      (architecture.capabilities.find? fun capability =>
        startsWith capability "architecture.") = some architectureCapability ∧
      architectureCapability ∈ architectureCapabilities := by
  simp only [packageIdentity, bind_eq_ok, pure_eq_ok, rejectIf_eq_ok, not_or, not_not] at identified
  obtain ⟨sdkFound, forSdk, architectureFound, forArchitecture, _, ⟨-, listed⟩, same⟩ := identified
  obtain ⟨rfl, rfl⟩ := Prod.mk.inj (toLex.injective same)
  exact ⟨(oneComponentCapability_eq_ok bound.onlySdk).mp forSdk,
    (oneComponentCapability_eq_ok bound.onlyArchitecture).mp forArchitecture, listed⟩

/-- A package that was checked is made for whoever selects it exactly when it is matched. -/
theorem madeFor_iff {package : BackendSupportPackage}
    (valid : validateBackendSupportPackage package = .ok ())
    {sdkCapability architectureCapability : String}
    (identified : packageIdentity package.bundle =
      .ok (toLex (sdkCapability, architectureCapability))) :
    MadeFor sdkCapability architectureCapability package ↔ Matched package := by
  obtain ⟨sdk, architecture, runtime, required, bound⟩ := exists_bound valid
  obtain ⟨forSdk, forArchitecture, listed⟩ := bound.identity identified
  have name := name_of_componentArchitecture bound.named
  constructor
  · rintro ⟨⟨other, supported, named⟩, sdkId, alike, rfl, onlyRuntime, binding⟩
    constructor
    · intro component member
      rw [bound.onlySdk] at member
      obtain rfl := List.mem_singleton.mp member
      obtain rfl := Except.ok.inj (bound.onlyRuntime.symm.trans onlyRuntime)
      rw [forSdk, runtimeBinding_injective binding bound.binding]
    · by_cases same : other = required
      · right
        intro component member
        rw [bound.onlyArchitecture] at member
        obtain rfl := List.mem_singleton.mp member
        rw [forArchitecture, ← named, same, name]
      · left
        exact bound.few.antisymm (two_le_length supported bound.supported same)
  · rintro ⟨sdkAlike, architectureAlike⟩
    have sdkNamed := sdkAlike sdk (bound.onlySdk ▸ List.mem_singleton_self _)
    constructor
    · rcases architectureAlike with both | alike
      · rw [architectureCapabilities, List.mem_cons, List.mem_singleton] at listed
        rcases listed with rfl | rfl
        · exact ⟨.arm64, mem_of_length_two bound.sorted both _, rfl⟩
        · exact ⟨.x86_64, mem_of_length_two bound.sorted both _, rfl⟩
      · have architectureNamed := alike architecture
          (bound.onlyArchitecture ▸ List.mem_singleton_self _)
        refine ⟨required, bound.supported, ?_⟩
        rw [name, ← Option.some.inj (forArchitecture.symm.trans architectureNamed)]
    · exact ⟨sdk.componentId, runtime, Option.some.inj (forSdk.symm.trans sdkNamed),
        bound.onlyRuntime, bound.binding⟩

end Backend

/-- Every package of a catalog is selected by one SDK and architecture and found by its digest,
both ways lead to the same packages, and a selected package is made for who selects it. -/
structure HandsOutRight (packages : List BackendSupportPackage)
    (catalog : VerifiedBackendSupportCatalog) : Prop where
  selected : ∀ package ∈ packages, ∃! identity : String × String,
    catalog.select identity.1 identity.2 = .ok package
  found : ∀ package ∈ packages, ∃ digest, package.digest = .ok digest ∧
    catalog.requireDigest digest = .ok package
  digested : ∀ digest package, catalog.requireDigest digest = .ok package →
    package.digest = .ok digest
  agree : ∀ package, (∃ sdk architecture, catalog.select sdk architecture = .ok package) ↔
    ∃ digest, catalog.requireDigest digest = .ok package
  madeFor : ∀ sdk architecture package, catalog.select sdk architecture = .ok package →
    MadeFor sdk architecture package

/-- A catalog hands out the right packages exactly when all its packages are matched. -/
theorem hands_out_right_iff {packages : List BackendSupportPackage}
    {registry : VerifiedSupportRegistry} {catalog : VerifiedBackendSupportCatalog}
    (built : VerifiedBackendSupportCatalog.new packages registry = .ok catalog) :
    HandsOutRight packages catalog ↔ ∀ package ∈ packages, Matched package := by
  have held := Catalogued.of_new built
  have selects : ∀ package ∈ packages, ∃ identity : String × String,
      packageIdentity package.bundle = .ok (toLex identity) ∧
        catalog.select identity.1 identity.2 = .ok package := by
    intro package member
    obtain ⟨_, identity, kept⟩ := held.kept package member
    exact ⟨ofLex identity, kept.identity, held.select_eq_ok.mpr ⟨member, kept.identity⟩⟩
  constructor
  · intro right package member
    obtain ⟨identity, identified, selected⟩ := selects package member
    exact (madeFor_iff (held.valid package member) identified).mp (right.madeFor _ _ _ selected)
  · intro matched
    apply HandsOutRight.mk
    · intro package member
      obtain ⟨identity, identified, selected⟩ := selects package member
      refine ⟨identity, selected, ?_⟩
      intro other selectedBy
      have same := identified.symm.trans (held.select_eq_ok.mp selectedBy).2
      exact (toLex.injective (Except.ok.inj same)).symm
    · intro package member
      obtain ⟨digest, _, kept⟩ := held.kept package member
      exact ⟨digest, kept.digest, held.requireDigest_eq_ok.mpr ⟨member, kept.digest⟩⟩
    · intro digest package found
      exact (held.requireDigest_eq_ok.mp found).2
    · intro package
      constructor
      · rintro ⟨sdk, architecture, selected⟩
        obtain ⟨member, -⟩ := held.select_eq_ok.mp selected
        obtain ⟨digest, _, kept⟩ := held.kept package member
        exact ⟨digest, held.requireDigest_eq_ok.mpr ⟨member, kept.digest⟩⟩
      · rintro ⟨digest, found⟩
        obtain ⟨member, -⟩ := held.requireDigest_eq_ok.mp found
        obtain ⟨identity, -, selected⟩ := selects package member
        exact ⟨identity.1, identity.2, selected⟩
    · intro sdk architecture package selected
      obtain ⟨member, identified⟩ := held.select_eq_ok.mp selected
      exact (madeFor_iff (held.valid package member) identified).mpr (matched package member)

/-! ## A catalog of one package -/

namespace Backend.Sample

/-- The sample bundle with capabilities of its SDK and its architecture. -/
def bundleFor (sdk architecture : String) : SupportBundle where
  closurePolicyDigest := Digest.of (Canonical.text policy)
  components :=
    [{ component .architecture "arm64" with identityDigest := ⟨0⟩, capabilities := [architecture] },
      component .boundaryAdapter "rust-request-response", component .core "core",
      { component .debugger "gdbserver" with
        identityDigest := Digest.of (Canonical.text debugger)
        capabilities := ["debugger.gdb-remote"] },
      component .dependencyAdapter "http", component .executor "executor",
      component .operatingSystem "linux", component .profile "backend",
      { component .sdk "rust" with identityDigest := ⟨0⟩, capabilities := [sdk] },
      component .stateProvider "file", component .subjectRuntime "rust-native"]
  format := .v1

def supportFor (sdk architecture : String) : BackendSupportPackage where
  bundle := bundleFor sdk architecture
  closurePolicy := policy
  debugger := debugger

variable {sdk architecture : String}

theorem sdk_bundleFor : componentsOf (bundleFor sdk architecture) .sdk =
    [{ component .sdk "rust" with identityDigest := ⟨0⟩, capabilities := [sdk] }] := rfl

theorem architecture_bundleFor : componentsOf (bundleFor sdk architecture) .architecture =
    [{ component .architecture "arm64" with
        identityDigest := ⟨0⟩, capabilities := [architecture] }] := rfl

theorem exact_bundleFor : Document.Exact (bundleFor sdk architecture) := by
  have protocols : ∀ component ∈ (bundleFor sdk architecture).components,
      component.protocolMax = 1 ∧ component.protocolMin = 1 := by
    simp [bundleFor, component]
  refine SupportBundle.exact fun component member => ?_
  rw [(protocols component member).1, (protocols component member).2]
  exact ⟨by decide, by decide⟩

theorem validate_supportFor (sdkCapable : validateCapabilities [sdk] = .ok ())
    (architectureCapable : validateCapabilities [architecture] = .ok ()) :
    validateBackendSupportPackage (supportFor sdk architecture) = .ok () := by
  have bundled : (bundleFor sdk architecture).validate = .ok () := by
    simp only [SupportBundle.validate, bind_eq_ok, rejectIf_eq_ok, forEach_eq_ok, not_not]
    refine ⟨(), by simp [bundleFor], (), ?_, ?_⟩
    · simp only [bundleFor, List.forall_mem_cons, List.not_mem_nil, false_implies, implies_true,
        and_true]
      exact ⟨validate_component (by decide) architectureCapable, rfl, rfl,
        validate_component (by decide) rfl, rfl, rfl, rfl, rfl,
        validate_component (by decide) sdkCapable, rfl, rfl⟩
    · simp [bundleFor, component, ComponentIdentity.precedes, ComponentKind.all]
  have contract : debugger.validate = .ok () := rfl
  have single : ∀ kind ∈ singleKinds,
      (componentsOf (bundleFor sdk architecture) kind).length = 1 := by
    simp [singleKinds, componentsOf, bundleFor, component]
  simp only [validateBackendSupportPackage, validateBackendSupportBundle, mapError_eq_ok,
    validateBackendSupportBundleInner, bind_eq_ok, rejectIf_eq_ok, okOr_eq_ok, not_or, not_not,
    not_exists, not_and]
  exact ⟨(), validate_policy, _, Canonical.digest_of_exact policy.exact, (), rfl, (),
    bundled, (), contract, (), single, (),
    by simp [supportFor, componentsOf, bundleFor, component], _, rfl, (), ⟨rfl, rfl⟩, _,
    Canonical.digest_of_exact debugger.exact, (), ⟨rfl, rfl⟩, _, rfl, _, rfl, (),
    List.mem_singleton_self _, rfl⟩

/-- The catalog of the one package. -/
theorem new_supportFor (sdkCapable : validateCapabilities [sdk] = .ok ())
    (architectureCapable : validateCapabilities [architecture] = .ok ())
    (identified : packageIdentity (bundleFor sdk architecture) =
      .ok (toLex (sdk, architecture))) :
    ∃ catalog, VerifiedBackendSupportCatalog.new [supportFor sdk architecture]
      ⟨registryOf (Digest.of (Canonical.text (bundleFor sdk architecture)))⟩ = .ok catalog := by
  have digested : (supportFor sdk architecture).digest =
      .ok (Digest.of (Canonical.text (bundleFor sdk architecture))) :=
    Canonical.digest_of_exact exact_bundleFor
  generalize Digest.of (Canonical.text (bundleFor sdk architecture)) = digest at digested ⊢
  have authorized : VerifiedSupportRegistry.requireBundle ⟨registryOf digest⟩ "backend" 1 digest =
      .ok () := if_pos (authorizes_registryOf digest)
  let identity : PackageIdentity := toLex (sdk, architecture)
  refine ⟨⟨(∅ : OrderedMap Digest PackageIdentity).insert digest identity,
    (∅ : OrderedMap PackageIdentity BackendSupportPackage).insert identity
      (supportFor sdk architecture)⟩, ?_⟩
  simp only [VerifiedBackendSupportCatalog.new, bind_eq_ok, rejectIf_eq_ok, List.foldlM_cons,
    List.foldlM_nil, pure_eq_ok, VerifiedBackendSupportCatalog.add, okOr_eq_ok,
    OrderedMap.insertNew_eq_some]
  exact ⟨(), by simp, _, ⟨(), validate_supportFor sdkCapable architectureCapable, digest, digested,
    (), authorized, _, identified, _, ⟨Std.ExtTreeMap.not_mem_empty, rfl⟩, _,
    ⟨Std.ExtTreeMap.not_mem_empty, rfl⟩, rfl⟩, rfl⟩

end Backend.Sample

open Sample

omit [Primitives] in
theorem hands_out_right_rust :
    letI := marked
    ∃ catalog, VerifiedBackendSupportCatalog.new [supportFor "sdk.rust" "architecture.arm64"]
        ⟨registryOf (Digest.of (Canonical.text (bundleFor "sdk.rust" "architecture.arm64")))⟩ =
          .ok catalog ∧
      HandsOutRight [supportFor "sdk.rust" "architecture.arm64"] catalog := by
  let _ := marked
  obtain ⟨catalog, built⟩ :=
    @new_supportFor marked "sdk.rust" "architecture.arm64" (by decide) (by decide) rfl
  refine ⟨catalog, built, (hands_out_right_iff built).mpr ?_⟩
  intro package member
  obtain rfl := List.mem_singleton.mp member
  constructor
  · intro component listed
    rw [supportFor, sdk_bundleFor] at listed
    obtain rfl := List.mem_singleton.mp listed
    rfl
  · right
    intro component listed
    rw [supportFor, architecture_bundleFor] at listed
    obtain rfl := List.mem_singleton.mp listed
    rfl

omit [Primitives] in
/-- A package of the Rust runtime with the capability of another SDK is handed out for it. -/
theorem not_handsOutRight_go :
    letI := marked
    ¬ ∀ (packages : List BackendSupportPackage) (registry : VerifiedSupportRegistry)
      (catalog : VerifiedBackendSupportCatalog),
      VerifiedBackendSupportCatalog.new packages registry = .ok catalog →
        HandsOutRight packages catalog := by
  let _ := marked
  intro always
  obtain ⟨catalog, built⟩ :=
    @new_supportFor marked "sdk.go" "architecture.arm64" (by decide) (by decide) rfl
  have held := Catalogued.of_new built
  have identified : packageIdentity (bundleFor "sdk.go" "architecture.arm64") =
      .ok (toLex ("sdk.go", "architecture.arm64")) := rfl
  have member := List.mem_singleton_self (supportFor "sdk.go" "architecture.arm64")
  have selected := held.select_eq_ok.mpr ⟨member, identified⟩
  have made := (always _ _ _ built).madeFor _ _ _ selected
  have matched := (madeFor_iff (held.valid _ member) identified).mp made
  have named := matched.sdk _ (sdk_bundleFor ▸ List.mem_singleton_self _)
  exact absurd named (by decide)

end Reproit
