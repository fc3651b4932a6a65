/-
# Source maps and their modules

A source map finds its module by the stem of its name.  The stem of a map drops every
`.js` at the end of the module's name, while the stem of a module drops one extension, so
the two meet for some names only.
-/

import Reproit.Subject.Recording

namespace Reproit.Backend

theorem extension_eq {path : Path} {suffix : String} (some : suffix ≠ "")
    (held : extension path = suffix) :
    ∃ name stem, path.fileName = Option.some name ∧
      splitExtension name = (stem, Option.some suffix) := by
  rw [extension] at held
  cases named : path.fileName with
  | none =>
      rw [named] at held
      exact absurd held.symm some
  | some name =>
      rw [named, Option.bind_some] at held
      cases split : splitExtension name with
      | mk stem found =>
          rw [split] at held
          cases found with
          | none => exact absurd held.symm some
          | some found => exact ⟨name, stem, rfl, by rw [split, ← held]; rfl⟩

theorem fileName_withFileName {path : Path} {name : String} (plain : name ≠ "." ∧ name ≠ "..") :
    (path.withFileName name).fileName = some name := by
  rw [Path.fileName, Path.withFileName, List.getLast?_concat]
  simp [plain]

theorem stripSuffixAsciiCase_append (value suffix : String) :
    stripSuffixAsciiCase (value ++ suffix) suffix = some value := by
  rw [stripSuffixAsciiCase]
  simp [String.toList_append]

theorem stripSuffixAsciiCase_append_of_ne {value tail suffix : String}
    (same : suffix.toList.length = tail.toList.length)
    (different : tail.toList.map Char.toLower ≠ suffix.toList.map Char.toLower) :
    stripSuffixAsciiCase (value ++ tail) suffix = none := by
  rw [stripSuffixAsciiCase, if_neg]
  intro ⟨_, ends⟩
  apply different
  rw [← ends, String.toList_append, List.length_append, same, Nat.add_sub_cancel,
    List.drop_left]

/-- The stem of the map of a module is the name of the module without `.js` at its end. -/
theorem debugModuleStem_map (path : Path) (name : String) :
    debugModuleStem (path.withFileName (name ++ ".map")) =
      .ok (String.ofList (trimEndMatches ".js".toList name.toList)) := by
  have plain : name ++ ".map" ≠ "." ∧ name ++ ".map" ≠ ".." := by
    constructor
    · intro same
      have lengths := congrArg (fun text => text.toList.length) same
      simp [String.toList_append] at lengths
    · intro same
      have lengths := congrArg (fun text => text.toList.length) same
      simp [String.toList_append] at lengths
  have noPdb : stripSuffixAsciiCase (name ++ ".map") ".pdb" = none :=
    stripSuffixAsciiCase_append_of_ne rfl (by decide)
  have map := stripSuffixAsciiCase_append name ".map"
  rw [debugModuleStem, fileName_withFileName plain, okOr, ok_bind]
  simp only [List.findSome?_cons, noPdb, map, okOr, ok_bind]
  rfl

/-- The two stems of a module and its map meet exactly for the extension `js` behind a stem
that does not end with `.js` itself. -/
theorem debugModuleStem_map_eq_fileStem {path : Path}
    (source : extension path ∈ ["js", "cjs", "mjs"]) :
    ∃ name stem, path.fileName = some name ∧ fileStem path = .ok stem ∧
      (debugModuleStem (path.withFileName (name ++ ".map")) = fileStem path ↔
        extension path = "js" ∧ ¬ ".js".toList <:+ stem.toList) := by
  have nonempty : extension path ≠ "" := by
    intro empty
    rw [empty] at source
    exact absurd source (by decide)
  obtain ⟨name, stem, named, split⟩ := extension_eq nonempty rfl
  have found : fileStem path = .ok stem := by
    rw [fileStem, named, Option.map_some, split]
    rfl
  obtain ⟨spelled, -, -⟩ := splitExtension_eq_some.mp split
  refine ⟨name, stem, named, found, ?_⟩
  rw [debugModuleStem_map, found, Except.ok.injEq]
  have texts : String.ofList (trimEndMatches ".js".toList name.toList) = stem ↔
      trimEndMatches ".js".toList name.toList = stem.toList := by
    rw [← String.toList_inj, String.toList_ofList]
  rw [texts]
  by_cases js : extension path = "js"
  · have ends : name.toList = stem.toList ++ ".js".toList := by
      rw [spelled, js]
      rfl
    rw [trimEndMatches_of_suffix (by decide) (ends ▸ List.suffix_append _ _), ends,
      List.length_append, Nat.add_sub_cancel, List.take_left,
      trimEndMatches_eq_self (by decide), and_iff_right js]
  · -- the last three characters of the name are not `.js`, so nothing is trimmed
    have other : ¬ ".js".toList <:+ name.toList := by
      intro ends
      obtain ⟨front, same⟩ := ends
      simp only [List.mem_cons, js, List.not_mem_nil, or_false, false_or] at source
      rw [spelled] at same
      rcases source with cjs | mjs
      · rw [cjs] at same
        have last := congrArg (fun text : List Char => text.reverse[2]?) same
        simp at last
      · rw [mjs] at same
        have last := congrArg (fun text : List Char => text.reverse[2]?) same
        simp at last
    rw [trimEndMatches_of_not_suffix other]
    apply iff_of_false
    · intro same
      have lengths := congrArg List.length (spelled.symm.trans same)
      simp at lengths
    · exact fun both => js both.1

/-! ## Bindings -/

/-- A debug artifact of a stem is bound to the module with the stem. -/
theorem bindDebugArtifact_of_stem {moduleByStem : OrderedMap String Digest}
    {source : DiscoveredFile} {file : SubjectFile} {kind : DebugArtifactKind} {stem : String}
    {digest : Digest} (named : debugModuleStem source.source = .ok stem)
    (held : moduleByStem[stem]? = some digest) :
    bindDebugArtifact moduleByStem source file kind =
      .ok { artifactDigest := file.objectDigest, kind, moduleDigest := digest
            path := file.path } := by
  rw [bindDebugArtifact, named, ok_bind, moduleOfStem, held]
  rfl

/-- Every debug artifact of the files is bound, or the bindings fail as a whole. -/
theorem mem_bindDebugArtifacts {moduleByStem : OrderedMap String Digest}
    {pairs : List (DiscoveredFile × SubjectFile)} {bindings result : List DebugArtifactBinding}
    (bound : bindDebugArtifacts moduleByStem pairs bindings = .ok result) :
    (∀ binding ∈ bindings, binding ∈ result) ∧
      ∀ pair ∈ pairs, ∀ kind, pair.1.debugArtifactKind = some kind →
        ∃ binding ∈ result, bindDebugArtifact moduleByStem pair.1 pair.2 kind = .ok binding := by
  induction pairs generalizing bindings with
  | nil =>
      obtain rfl := Except.ok.inj bound
      exact ⟨fun _ => id, fun _ listed => absurd listed List.not_mem_nil⟩
  | cons pair pairs ih =>
      rw [bindDebugArtifacts] at bound
      cases artifact : pair.1.debugArtifactKind with
      | none =>
          rw [artifact] at bound
          obtain ⟨kept, rest⟩ := ih bound
          refine ⟨kept, fun other listed kind held => ?_⟩
          rcases List.mem_cons.mp listed with rfl | later
          · rw [artifact] at held
            cases held
          · exact rest other later kind held
      | some kind =>
          rw [artifact] at bound
          obtain ⟨binding, here, bound⟩ := (bind_eq_ok _ _ _).mp bound
          obtain ⟨kept, rest⟩ := ih bound
          refine ⟨fun old listed => kept old (List.mem_append_left _ listed),
            fun other listed otherKind held => ?_⟩
          rcases List.mem_cons.mp listed with rfl | later
          · rw [artifact] at held
            obtain rfl := Option.some.inj held
            exact ⟨binding, kept binding (List.mem_append_right _ List.mem_cons_self), here⟩
          · exact rest other later otherKind held

/-- The map of a module, which lies beside it. -/
def IsMapOf (map : DiscoveredFile) (source : Path) : Prop :=
  ∃ name, source.fileName = some name ∧ map.source = source.withFileName (name ++ ".map") ∧
    map.debugArtifactKind = some .sourceMap

/-- The map of a recorded module has the stem of the module and is bound to the digest of the
module exactly when the extension of the module is `js` and its stem does not end with
`.js`. -/
theorem sourceMap_binds_iff {request : SubjectPackagingRequest} {recorded : List RecordedFile}
    {set : FrozenFileSet} (ran : FrozenFileSet.recordAll request recorded .new = .ok set)
    {file : RecordedFile} (listed : file ∈ recorded) (module : file.discovered.module = true)
    (script : extension file.discovered.source ∈ ["js", "cjs", "mjs"])
    {map : DiscoveredFile} (beside : IsMapOf map file.discovered.source) (mapFile : SubjectFile) :
    (debugModuleStem map.source = fileStem file.discovered.source ∧
      bindDebugArtifact set.moduleByStem map mapFile .sourceMap =
        .ok { artifactDigest := mapFile.objectDigest, kind := .sourceMap
              moduleDigest := file.object.digest, path := mapFile.path }) ↔
      extension file.discovered.source = "js" ∧
        ∀ stem, fileStem file.discovered.source = .ok stem →
          ¬ ".js".toList <:+ stem.toList := by
  obtain ⟨name, stem, named, found, stems⟩ := debugModuleStem_map_eq_fileStem script
  obtain ⟨spelled, here, place, -⟩ := beside
  obtain rfl := Option.some.inj (named.symm.trans here)
  rw [place, stems, found]
  constructor
  · intro ⟨⟨js, plain⟩, _⟩
    refine ⟨js, fun other same => ?_⟩
    obtain rfl := Except.ok.inj same
    exact plain
  · intro ⟨js, plain⟩
    have meets := stems.mpr ⟨js, plain stem rfl⟩
    have holds := (FrozenFileSet.holds_new request).recordAll ran
    have held := (holds.stems stem file.object.digest).mpr ⟨file, listed, module, found, rfl⟩
    refine ⟨⟨js, plain stem rfl⟩, ?_⟩
    apply bindDebugArtifact_of_stem _ held
    rw [place, meets, found]

/-! ## Two modules and a map -/

namespace Sample

def nodeRequest : SubjectPackagingRequest where
  applicationRoot := { absolute := true, components := ["app"] }
  architecture := "arm64"
  arguments := []
  entrypoint := { absolute := true, components := ["bin", "node"] }
  environmentNames := []
  limits := .v1
  operatingSystem := "linux"
  runtimeFamily := .node

/-- A module of the application. -/
def script (name : String) : DiscoveredFile where
  debugArtifactKind := none
  kind := .application
  mediaType := "text/plain"
  module := true
  source := { absolute := true, components := ["app", name] }
  target := "/reproit/subject/app/" ++ name

/-- The map beside a module. -/
def scriptMap (name : String) : DiscoveredFile where
  debugArtifactKind := some .sourceMap
  kind := .debugArtifact
  mediaType := "application/vnd.reproit.source-map.v1"
  module := false
  source := { absolute := true, components := ["app", name ++ ".map"] }
  target := "/reproit/subject/app/" ++ name ++ ".map"

/-- A module with one byte of content. -/
def recordedScript (name : String) (digest : Digest) : RecordedFile where
  discovered := script name
  object :=
    { digest, embeddedDwarf := false
      path := { absolute := true, components := ["staging", stagedName digest] }, size := 1 }
  executable := false

def mapFile : SubjectFile where
  executable := false
  objectDigest := ⟨3⟩
  path := "/reproit/subject/app/a.map"

/-- Two modules with different stems and contents. -/
def recordedScripts (first second : String) : List RecordedFile :=
  [recordedScript first ⟨1⟩, recordedScript second ⟨2⟩]

theorem isMapOf_scriptMap {name : String} (plain : name ≠ "." ∧ name ≠ "..") :
    IsMapOf (scriptMap name) (script name).source := by
  refine ⟨name, ?_, rfl, rfl⟩
  rw [Path.fileName]
  simp [script, plain]

theorem compatible_recordedScripts {first second firstStem secondStem : String}
    (one : fileStem (script first).source = .ok firstStem)
    (other : fileStem (script second).source = .ok secondStem) (apart : firstStem ≠ secondStem) :
    FrozenFileSet.Compatible nodeRequest (recordedScripts first second) := by
  have digests : (⟨1⟩ : Digest) ≠ ⟨2⟩ := by decide
  have stems : fileStem (script first).source ≠ fileStem (script second).source := by
    rw [one, other]
    exact fun same => apart (Except.ok.inj same)
  have either : ∀ file ∈ recordedScripts first second,
      file = recordedScript first ⟨1⟩ ∨ file = recordedScript second ⟨2⟩ := by
    intro file listed
    simpa [recordedScripts] using listed
  constructor
  case objects =>
    intro left leftListed right rightListed same
    rcases either left leftListed with rfl | rfl
    · rcases either right rightListed with rfl | rfl
      · rfl
      · exact absurd same digests
    · rcases either right rightListed with rfl | rfl
      · exact absurd same.symm digests
      · rfl
  case named =>
    intro file listed _
    rcases either file listed with rfl | rfl
    · exact ⟨firstStem, one⟩
    · exact ⟨secondStem, other⟩
  case stems =>
    intro left leftListed right rightListed _ _ same
    rcases either left leftListed with rfl | rfl
    · rcases either right rightListed with rfl | rfl
      · rfl
      · exact absurd same stems
    · rcases either right rightListed with rfl | rfl
      · exact absurd same.symm stems
      · rfl
  case bytes =>
    have each : ∀ object ∈ ((recordedScripts first second).map
        RecordedFile.closureObject).toFinset, object.size.toNat ≤ 1 := by
      intro object listed
      obtain ⟨file, member, rfl⟩ := List.mem_map.mp (List.mem_toFinset.mp listed)
      rcases either file member with rfl | rfl
      · exact le_rfl
      · exact le_rfl
    have few := (Finset.sum_le_card_nsmul _ _ 1 each).trans
      (Nat.mul_le_mul_right 1 (List.toFinset_card_le _))
    exact few.trans (show 2 * 1 ≤ 256 * 1024 * 1024 * 1024 by decide)

/-- Two modules with different stems are recorded. -/
theorem exists_recordedScripts {first second firstStem secondStem : String}
    (one : fileStem (script first).source = .ok firstStem)
    (other : fileStem (script second).source = .ok secondStem) (apart : firstStem ≠ secondStem) :
    ∃ set, FrozenFileSet.recordAll nodeRequest (recordedScripts first second) .new = .ok set :=
  (FrozenFileSet.exists_recordAll_iff _ _).mpr (compatible_recordedScripts one other apart)

end Sample

/-- The map of `a.js` is bound to it. -/
theorem sourceMap_binds_script :
    ∃ set, FrozenFileSet.recordAll Sample.nodeRequest (Sample.recordedScripts "a.js" "b.mjs") .new =
        .ok set ∧
      bindDebugArtifact set.moduleByStem (Sample.scriptMap "a.js") Sample.mapFile .sourceMap =
        .ok { artifactDigest := ⟨3⟩, kind := .sourceMap, moduleDigest := ⟨1⟩
              path := "/reproit/subject/app/a.map" } := by
  have stem : fileStem (Sample.script "a.js").source = .ok "a" := by decide
  have other : fileStem (Sample.script "b.mjs").source = .ok "b" := by decide
  obtain ⟨set, ran⟩ := Sample.exists_recordedScripts stem other (by decide)
  have binds := sourceMap_binds_iff ran List.mem_cons_self rfl (by decide)
    (Sample.isMapOf_scriptMap (by decide)) Sample.mapFile
  refine ⟨set, ran, (binds.mpr ⟨by decide, fun found same => ?_⟩).2⟩
  obtain rfl := Except.ok.inj (stem.symm.trans same)
  decide

/-- The map of `a.mjs` is bound to no module. -/
theorem sourceMap_misses_module :
    ∃ set, FrozenFileSet.recordAll Sample.nodeRequest (Sample.recordedScripts "a.mjs" "b.js") .new =
        .ok set ∧
      debugModuleStem (Sample.scriptMap "a.mjs").source ≠
        fileStem (Sample.script "a.mjs").source ∧
      bindDebugArtifact set.moduleByStem (Sample.scriptMap "a.mjs") Sample.mapFile .sourceMap =
        .error subjectIncomplete := by
  have stem : fileStem (Sample.script "a.mjs").source = .ok "a" := by decide
  have other : fileStem (Sample.script "b.js").source = .ok "b" := by decide
  obtain ⟨set, ran⟩ := Sample.exists_recordedScripts stem other (by decide)
  have holds := (FrozenFileSet.holds_new _).recordAll ran
  have mapStem : debugModuleStem (Sample.scriptMap "a.mjs").source = .ok "a.mjs" := by
    have trimmed : trimEndMatches ".js".toList "a.mjs".toList = "a.mjs".toList :=
      trimEndMatches_of_not_suffix (by decide)
    have found := debugModuleStem_map (Sample.script "a.mjs").source "a.mjs"
    rw [trimmed] at found
    exact found
  have missing : set.moduleByStem["a.mjs"]? = none := by
    cases held : set.moduleByStem["a.mjs"]? with
    | none => rfl
    | some digest =>
        obtain ⟨file, listed, -, found, -⟩ := (holds.stems _ _).mp held
        simp only [Sample.recordedScripts, List.nil_append, List.mem_cons, List.not_mem_nil,
          or_false] at listed
        rcases listed with rfl | rfl
        · exact absurd (Except.ok.inj (stem.symm.trans found)) (by decide)
        · exact absurd (Except.ok.inj (other.symm.trans found)) (by decide)
  have several : set.moduleByStem.size ≠ 1 := by
    have keys : ∀ key, key ∈ set.moduleByStem.keys ↔ key ∈ set.moduleByStem :=
      fun key => Std.ExtTreeMap.mem_keys
    rw [← OrderedMap.length_eq_size (OrderedMap.nodup_keys _) keys]
    have first : "a" ∈ set.moduleByStem.keys := by
      rw [keys, Std.ExtTreeMap.mem_iff_isSome_getElem?, (holds.stems "a" ⟨1⟩).mpr
        ⟨_, List.mem_cons_self, rfl, stem, rfl⟩]
      rfl
    have second : "b" ∈ set.moduleByStem.keys := by
      rw [keys, Std.ExtTreeMap.mem_iff_isSome_getElem?, (holds.stems "b" ⟨2⟩).mpr
        ⟨_, List.mem_cons_of_mem _ List.mem_cons_self, rfl, other, rfl⟩]
      rfl
    intro one
    obtain ⟨only, same⟩ := List.length_eq_one_iff.mp one
    rw [same, List.mem_singleton] at first second
    exact absurd (first.trans second.symm) (by decide)
  refine ⟨set, ran, ?_, ?_⟩
  · rw [mapStem, stem]
    exact fun same => absurd (Except.ok.inj same) (by decide)
  · rw [bindDebugArtifact, mapStem, ok_bind, moduleOfStem, missing]
    simp only [if_neg several]
    rfl

end Reproit.Backend
