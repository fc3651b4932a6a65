/-
# The encoded environment

The environment at the boundary is stored as a canonical map of base 64 texts.  Every
environment within the limits fits into its object and is decoded again, although the texts
have another order than the names; and what is decoded is the one encoding of its result.
-/

import Reproit.Backend.AutomaticReplay
import Reproit.Canonical.AsWritten
import Reproit.Core.CaptureSize
import Reproit.Data.OrderedMap
import Reproit.Data.Sorted

namespace Reproit.Backend

/-! ## Environments and their encoding -/

/-- The name of a variable, ordered like its bytes. -/
structure EnvironmentName where
  bytes : Bytes
  deriving DecidableEq

namespace EnvironmentName

/-- The bytes as numbers. -/
def numbers (name : EnvironmentName) : List Nat := name.bytes.map UInt8.toNat

theorem numbers_injective : Function.Injective numbers := by
  rintro ⟨first⟩ ⟨second⟩ same
  exact congrArg mk (List.map_injective_iff.mpr (fun _ _ => UInt8.toNat_inj.mp) same)

instance : LinearOrder EnvironmentName := LinearOrder.lift' numbers numbers_injective

end EnvironmentName

/-- A map from names to values. -/
abbrev Environment := OrderedMap EnvironmentName Bytes

namespace Environment

/-- The names and values, in the order of the names. -/
def entries (environment : Environment) : List (Bytes × Bytes) :=
  environment.toList.map fun entry => (entry.1.bytes, entry.2)

/-- The bytes of the names and values. -/
def entryBytes (entries : List (Bytes × Bytes)) : Nat :=
  (entries.map fun entry => entry.1.length + entry.2.length).sum

/-- What a name and a value may hold. -/
def AllowedEntry (entry : Bytes × Bytes) : Prop :=
  entry.1 ≠ [] ∧ 0 ∉ entry.1 ∧ 61 ∉ entry.1 ∧ 0 ∉ entry.2

/-- The environments of the format. -/
structure Allowed (environment : Environment) : Prop where
  count : environment.entries.length ≤ maxEnvironmentEntries
  entry : ∀ entry ∈ environment.entries, AllowedEntry entry
  bytes : entryBytes environment.entries ≤ maxEnvironmentBytes

def encodeEntry (entry : Bytes × Bytes) : String × String :=
  (encodeBase64Url entry.1, encodeBase64Url entry.2)

/-- A map of texts as a document. -/
def textsValue (texts : List (String × String)) : Json.Value :=
  .object (texts.map fun text => (text.1, .string text.2))

/-- The texts of the names and values, in the order of the texts of the names. -/
def texts (environment : Environment) : List (String × String) :=
  (environment.entries.map encodeEntry).insertionSort fun first second => first.1 ≤ second.1

/-- The canonical map of the texts. -/
def encode (environment : Environment) : Result Bytes :=
  Canonical.valueBytes (textsValue environment.texts)

/-- The environment that the entries make up. -/
def ofEntries (entries : List (Bytes × Bytes)) : Option Environment :=
  OrderedMap.insertAllNew ∅ (entries.map fun entry => (⟨entry.1⟩, entry.2))

/-- Decode an environment as a map. -/
def decode (bytes : Bytes) : Result Environment := do
  let entries ← decodeEnvironment bytes
  okOr (ofEntries entries) .schemaInvalid

/-- The totals of bytes that the decoder counts, as long as it can decode. -/
def totals : (total : Nat) → List (String × String) → List Nat
  | _, [] => []
  | total, (name, value) :: rest =>
      match decodeBase64UrlBytes name, decodeBase64UrlBytes value with
      | .ok name, .ok value =>
          (total + (name.length + value.length)) ::
            totals (total + (name.length + value.length)) rest
      | _, _ => []

/-! ## Maps of texts -/

theorem mapM_textMember {members : List (String × Json.Value)}
    {texts : List (String × String)} :
    members.mapM textMember = some texts ↔
      members = texts.map fun text => (text.1, .string text.2) := by
  induction members generalizing texts with
  | nil =>
      rw [List.mapM_nil]
      cases texts with
      | nil => exact iff_of_true rfl rfl
      | cons text texts => exact iff_of_false nofun nofun
  | cons member members ih =>
      simp only [List.mapM_cons, Option.bind_eq_bind, Option.bind_eq_some_iff, Option.pure_def,
        Option.some.injEq]
      constructor
      · rintro ⟨text, found, others, rest, rfl⟩
        obtain ⟨name, value⟩ := member
        cases value <;> cases found
        rw [ih.mp rest, List.map_cons]
      · intro same
        cases texts with
        | nil => cases same
        | cons text texts =>
            obtain ⟨rfl, rest⟩ := List.cons.inj same
            exact ⟨text, rfl, texts, ih.mpr rest, rfl⟩

theorem textMembers_eq_some {value : Json.Value} {texts : List (String × String)} :
    textMembers value = some texts ↔ value = textsValue texts := by
  cases value with
  | object members =>
      rw [textMembers, mapM_textMember, textsValue, Json.Value.object.injEq]
  | _ => exact ⟨nofun, nofun⟩

theorem plain_textsValue {texts : List (String × String)}
    (ascending : (texts.map Prod.fst).Pairwise (· < ·))
    (ascii : ∀ name ∈ texts.map Prod.fst, Json.AsciiKey name) : Json.Plain (textsValue texts) := by
  have names : (texts.map fun text => (text.1, Json.Value.string text.2)).map Prod.fst =
      texts.map Prod.fst := by
    rw [List.map_map]
    rfl
  refine ⟨names.symm ▸ ascending, names.symm ▸ ascii, ?_⟩
  rw [plainFields_iff]
  intro member listed
  obtain ⟨text, _, rfl⟩ := List.mem_map.mp listed
  trivial

theorem depth_textsValue (texts : List (String × String)) :
    Json.depth (textsValue texts) ≤ Json.maxDepth := by
  have flat : Json.depthFields (texts.map fun text => (text.1, Json.Value.string text.2)) ≤ 0 := by
    rw [depthFields_le_iff]
    intro member listed
    obtain ⟨text, _, rfl⟩ := List.mem_map.mp listed
    exact le_rfl
  rw [textsValue, Json.depth]
  exact (Nat.add_le_add_right flat 1).trans (by decide)

theorem exact_textsValue (texts : List (String × String)) :
    Json.exact (textsValue texts) = true := by
  rw [textsValue, Json.exact, Json.exactFields_eq, List.all_eq_true]
  intro member listed
  obtain ⟨text, _, rfl⟩ := List.mem_map.mp listed
  rfl

/-- The bytes of a map of texts. -/
def textsBytes (texts : List (String × String)) : Bytes :=
  Json.textBytes (Json.render (textsValue texts))

/-- Ascending ASCII names are read from their canonical bytes. -/
theorem valueBytes_textsValue {texts : List (String × String)}
    (ascending : (texts.map Prod.fst).Pairwise (· < ·))
    (ascii : ∀ name ∈ texts.map Prod.fst, Json.AsciiKey name) :
    Canonical.valueBytes (textsValue texts) = .ok (textsBytes texts) := by
  rw [Canonical.valueBytes_of_plain (depth_textsValue texts) (plain_textsValue ascending ascii),
    if_pos (exact_textsValue texts)]
  rfl

theorem parseTexts_textsBytes {texts : List (String × String)}
    (ascending : (texts.map Prod.fst).Pairwise (· < ·))
    (ascii : ∀ name ∈ texts.map Prod.fst, Json.AsciiKey name) :
    parseTexts (textsBytes texts) = .ok texts := by
  have parsed : Canonical.parseStrictValue (textsBytes texts) = .ok (textsValue texts) := by
    rw [textsBytes, Canonical.parseStrictValue_render (depth_textsValue texts)
      (plain_textsValue ascending ascii), if_pos (exact_textsValue texts)]
  simp only [parseTexts, bind_eq_ok, okOr_eq_ok, rejectIf_eq_ok, pure_eq_ok, not_not]
  exact ⟨_, parsed, texts, textMembers_eq_some.mpr rfl, _, valueBytes_textsValue ascending ascii,
    (), rfl, rfl⟩

/-- What is read is a map in the order of its names, written canonically. -/
theorem of_parseTexts {bytes : Bytes} {texts : List (String × String)}
    (read : parseTexts bytes = .ok texts) :
    (texts.map Prod.fst).Pairwise (· < ·) ∧
      Canonical.valueBytes (textsValue texts) = .ok bytes := by
  simp only [parseTexts, bind_eq_ok, okOr_eq_ok, rejectIf_eq_ok, pure_eq_ok, not_not] at read
  obtain ⟨value, parsed, members, found, written, canonical, _, rfl, rfl⟩ := read
  obtain rfl := textMembers_eq_some.mp found
  refine ⟨?_, canonical⟩
  have ordered := (Canonical.ordered_of_parseStrictValue parsed).1
  rw [List.map_map] at ordered
  exact ordered

/-! ## Decoding the entries -/

theorem entryBytes_cons (name value : Bytes) (entries : List (Bytes × Bytes)) :
    entryBytes ((name, value) :: entries) = name.length + value.length + entryBytes entries := rfl

/-- Texts are decoded when they are those of allowed entries with different names. -/
theorem decodeEntries_eq_ok {total : Nat} {earlier entries : List (Bytes × Bytes)}
    {texts : List (String × String)} (bounded : total ≤ maxEnvironmentBytes)
    (distinct : (earlier.map Prod.fst).Nodup) :
    decodeEntries total earlier texts = .ok entries ↔
      ∃ decoded, entries = earlier ++ decoded ∧ texts = decoded.map encodeEntry ∧
        (∀ entry ∈ decoded, AllowedEntry entry) ∧
          total + entryBytes decoded ≤ maxEnvironmentBytes ∧ (entries.map Prod.fst).Nodup := by
  induction texts generalizing total earlier with
  | nil =>
      rw [decodeEntries]
      constructor
      · intro done
        obtain rfl := Except.ok.inj done
        exact ⟨[], (List.append_nil _).symm, rfl, nofun, bounded, distinct⟩
      · rintro ⟨decoded, rfl, same, -⟩
        rw [List.map_eq_nil_iff.mp same.symm, List.append_nil]
        rfl
  | cons text texts ih =>
      obtain ⟨nameText, valueText⟩ := text
      simp only [decodeEntries, bind_eq_ok, decodeBase64UrlBytes_eq_ok, rejectIf_eq_ok, not_or,
        gt_iff_lt, not_lt]
      constructor
      · rintro ⟨name, rfl, value, rfl, _, ⟨nonempty, noNul, noEquals, valueNul, fits, fresh⟩,
          later⟩
        have apart : ((earlier ++ [(name, value)]).map Prod.fst).Nodup := by
          rw [List.map_append, List.map_singleton, List.nodup_append]
          refine ⟨distinct, List.nodup_singleton _, ?_⟩
          intro first member second listed same
          rw [List.mem_singleton.mp listed] at same
          rw [same] at member
          exact fresh member
        obtain ⟨decoded, rfl, rfl, allowed, small, nodup⟩ := (ih fits apart).mp later
        refine ⟨(name, value) :: decoded, by rw [List.append_assoc]; rfl, rfl, ?_, ?_, nodup⟩
        · rw [List.forall_mem_cons]
          exact ⟨⟨fun none => nonempty (List.isEmpty_iff.mpr none), noNul, noEquals, valueNul⟩,
            allowed⟩
        · rw [entryBytes_cons]
          omega
      · rintro ⟨decoded, rfl, same, allowed, small, nodup⟩
        cases decoded with
        | nil => cases same
        | cons entry decoded =>
            obtain ⟨name, value⟩ := entry
            obtain ⟨first, rfl⟩ := List.cons.inj same
            obtain ⟨rfl, rfl⟩ := Prod.mk.inj first
            obtain ⟨⟨nonempty, noNul, noEquals, valueNul⟩, others⟩ := List.forall_mem_cons.mp allowed
            rw [entryBytes_cons] at small
            have split : earlier ++ (name, value) :: decoded =
                earlier ++ [(name, value)] ++ decoded := by
              rw [List.append_assoc]
              rfl
            have apart : ((earlier ++ [(name, value)]).map Prod.fst).Nodup := by
              rw [split, List.map_append] at nodup
              exact nodup.of_append_left
            have fresh : name ∉ earlier.map Prod.fst := by
              rw [List.map_append, List.map_singleton] at apart
              intro member
              exact (List.nodup_append.mp apart).2.2 _ member _ (List.mem_singleton_self _) rfl
            refine ⟨name, rfl, value, rfl, (), ⟨?_, noNul, noEquals, valueNul, by omega, fresh⟩, ?_⟩
            · exact fun none => nonempty (List.isEmpty_iff.mp none)
            · exact (ih (by omega) apart).mpr ⟨decoded, split, rfl, others, by omega, nodup⟩

theorem decodeEnvironment_eq_ok {bytes : Bytes} {entries : List (Bytes × Bytes)} :
    decodeEnvironment bytes = .ok entries ↔
      parseTexts bytes = .ok (entries.map encodeEntry) ∧ entries.length ≤ maxEnvironmentEntries ∧
        (∀ entry ∈ entries, AllowedEntry entry) ∧ entryBytes entries ≤ maxEnvironmentBytes ∧
          (entries.map Prod.fst).Nodup := by
  have nothing : (([] : List (Bytes × Bytes)).map Prod.fst).Nodup := List.nodup_nil
  simp only [decodeEnvironment, bind_eq_ok, rejectIf_eq_ok, gt_iff_lt, not_lt,
    decodeEntries_eq_ok (Nat.zero_le _) nothing, List.nil_append, Nat.zero_add]
  constructor
  · rintro ⟨texts, read, _, count, _, rfl, rfl, allowed, small, distinct⟩
    exact ⟨read, List.length_map encodeEntry ▸ count, allowed, small, distinct⟩
  · rintro ⟨read, count, allowed, small, distinct⟩
    exact ⟨_, read, (), (List.length_map encodeEntry).symm ▸ count, entries, rfl, rfl, allowed,
      small, distinct⟩

/-! ## Environments as maps -/

theorem ofEntries_entries (environment : Environment) :
    ofEntries environment.entries = some environment := by
  have same : (environment.entries.map fun entry =>
      ((⟨entry.1⟩, entry.2) : EnvironmentName × Bytes)) = environment.toList := by
    rw [entries, List.map_map]
    exact List.map_id _
  rw [ofEntries, same]
  apply OrderedMap.insertAllNew_eq_some.mpr
  refine ⟨?_, fun _ _ => Std.ExtTreeMap.not_mem_empty, fun key value => ?_⟩
  · rw [Std.ExtTreeMap.map_fst_toList_eq_keys]
    exact OrderedMap.nodup_keys environment
  · rw [Std.ExtTreeMap.getElem?_empty, OrderedMap.mem_toList]
    exact (or_iff_left nofun).symm

/-- Entries with different names make up an environment. -/
theorem exists_ofEntries {entries : List (Bytes × Bytes)}
    (distinct : (entries.map Prod.fst).Nodup) : ∃ environment, ofEntries entries = some environment := by
  apply OrderedMap.exists_insertAllNew
  · have names : (entries.map fun entry => ((⟨entry.1⟩, entry.2) : EnvironmentName × Bytes)).map
        Prod.fst = (entries.map Prod.fst).map EnvironmentName.mk := by
      rw [List.map_map, List.map_map]
      rfl
    rw [names]
    exact distinct.map fun _ _ => EnvironmentName.mk.inj
  · exact fun _ _ => Std.ExtTreeMap.not_mem_empty

theorem entries_perm {entries : List (Bytes × Bytes)} {environment : Environment}
    (made : ofEntries entries = some environment) : environment.entries.Perm entries := by
  have perm := (OrderedMap.toList_perm_of_inserted made).map fun entry => (entry.1.bytes, entry.2)
  rw [List.map_map] at perm
  exact perm.trans (List.map_id _ ▸ List.Perm.refl _)

theorem ofEntries_of_perm {first second : List (Bytes × Bytes)} {environment : Environment}
    (made : ofEntries first = some environment) (perm : second.Perm first) :
    ofEntries second = some environment :=
  OrderedMap.insertAllNew_perm made (perm.map _)

theorem nodup_names (environment : Environment) :
    (environment.entries.map Prod.fst).Nodup := by
  have names : environment.entries.map Prod.fst = environment.keys.map EnvironmentName.bytes := by
    rw [entries, List.map_map, ← Std.ExtTreeMap.map_fst_toList_eq_keys, List.map_map]
    rfl
  rw [names]
  exact (OrderedMap.nodup_keys environment).map fun _ _ same =>
    congrArg EnvironmentName.mk same

/-! ## The order of the texts -/

theorem nodup_map_encodeEntry {entries : List (Bytes × Bytes)}
    (distinct : (entries.map Prod.fst).Nodup) :
    ((entries.map encodeEntry).map Prod.fst).Nodup := by
  have names : (entries.map encodeEntry).map Prod.fst =
      (entries.map Prod.fst).map encodeBase64Url := by
    rw [List.map_map, List.map_map]
    rfl
  rw [names]
  exact distinct.map encodeBase64Url_injective

theorem ascii_encodeEntry {entries : List (Bytes × Bytes)} :
    ∀ name ∈ (entries.map encodeEntry).map Prod.fst, Json.AsciiKey name := by
  intro name listed
  rw [List.map_map] at listed
  obtain ⟨entry, _, rfl⟩ := List.mem_map.mp listed
  intro c member
  rw [Function.comp_apply, encodeEntry, encodeBase64Url, String.toList_ofList] at member
  exact toNat_lt_of_isBase64UrlChar
    (isBase64UrlChar_of_mem_alphabet c (Base64.mem_alphabet_of_mem_encode member)).1

/-- The texts are in their own order. -/
theorem ascending_texts (environment : Environment) :
    (environment.texts.map Prod.fst).Pairwise (· < ·) := by
  rw [List.pairwise_map]
  exact pairwise_lt_insertionSort_key (nodup_map_encodeEntry environment.nodup_names)

theorem texts_perm (environment : Environment) :
    environment.texts.Perm (environment.entries.map encodeEntry) :=
  List.perm_insertionSort _ _

/-- Ascending texts of the entries are the texts of the environment. -/
theorem texts_eq {environment : Environment} {texts : List (String × String)}
    (perm : texts.Perm (environment.entries.map encodeEntry))
    (ascending : (texts.map Prod.fst).Pairwise (· < ·)) : environment.texts = texts := by
  have sorted := environment.ascending_texts
  rw [List.pairwise_map] at ascending sorted
  apply (environment.texts_perm.trans perm.symm).eq_of_pairwise _ sorted ascending
  intro first second _ _ below above
  exact absurd (below.trans above) (lt_irrefl _)

/-- The entries in the order of their texts. -/
theorem exists_entries (environment : Environment) :
    ∃ ordered : List (Bytes × Bytes), ordered.Perm environment.entries ∧
      environment.texts = ordered.map encodeEntry := by
  refine ⟨environment.entries.insertionSort fun first second =>
    (encodeEntry first).1 ≤ (encodeEntry second).1, List.perm_insertionSort _ _, ?_⟩
  exact (List.map_insertionSort _ (fun first second => first.1 ≤ second.1) encodeEntry _
    fun _ _ _ _ => Iff.rfl).symm

/-! ## The sizes of the texts -/

/-- Every text has four bytes for three, and each entry at most seven bytes more. -/
theorem length_textsBytes_le {entries : List (Bytes × Bytes)} :
    3 * (textsBytes (entries.map encodeEntry)).length ≤
      6 + 4 * entryBytes entries + 22 * entries.length := by
  have fields : ∀ entries : List (Bytes × Bytes),
      3 * Json.sizeFields ((entries.map encodeEntry).map fun text =>
        (text.1, Json.Value.string text.2)) ≤ 4 * entryBytes entries + 22 * entries.length := by
    intro entries
    induction entries with
    | nil => exact Nat.zero_le _
    | cons entry entries ih =>
        obtain ⟨name, value⟩ := entry
        simp only [List.map_cons, Json.sizeFields, Json.size, encodeEntry,
          stringSize_encodeBase64Url, entryBytes_cons, List.length_cons]
        omega
  have bound := fields entries
  rw [textsBytes, Json.length_textBytes_render, textsValue, Json.size]
  omega

/-- The decoder counts no more bytes than the texts have. -/
theorem le_of_mem_totals {start total : Nat} {texts : List (String × String)}
    (counted : total ∈ totals start texts) :
    total ≤ start + (texts.map fun text => text.1.utf8ByteSize + text.2.utf8ByteSize).sum := by
  have shorter : ∀ bytes : Bytes, bytes.length ≤ (encodeBase64Url bytes).utf8ByteSize := by
    intro bytes
    rw [utf8ByteSize_encodeBase64Url]
    omega
  induction texts generalizing start with
  | nil => cases counted
  | cons text texts ih =>
      obtain ⟨nameText, valueText⟩ := text
      rw [totals] at counted
      split at counted
      case h_1 name value readName readValue =>
        obtain rfl := decodeBase64UrlBytes_eq_ok.mp readName
        obtain rfl := decodeBase64UrlBytes_eq_ok.mp readValue
        have first := shorter name
        have second := shorter value
        rw [List.map_cons, List.sum_cons]
        rcases List.mem_cons.mp counted with rfl | later
        · dsimp only
          omega
        · have bound := ih later
          dsimp only
          omega
      case h_2 => cases counted

/-- Canonical bytes of a map of texts have its size. -/
theorem length_canonicalBytes_textsValue (texts : List (String × String)) :
    (Json.canonicalBytes (textsValue texts)).length = Json.size (textsValue texts) := by
  have fields : ∀ texts : List (String × String),
      Json.canonicalFields (texts.map fun text => (text.1, Json.Value.string text.2)) =
        texts.map fun text => (text.1, Json.Value.string text.2) := by
    intro texts
    induction texts with
    | nil => rfl
    | cons text texts ih => rw [List.map_cons, Json.canonicalFields, ih, Json.canonicalOrder]
  rw [Json.canonicalBytes, Json.length_textBytes_render, textsValue, Json.canonicalOrder, fields,
    Json.size, Json.size, Json.sizeFields_eq, Json.sizeFields_eq,
    ((List.perm_insertionSort _ _).map _).sum_eq]

/-- The bytes of a map of texts hold the texts. -/
theorem sum_le_of_parseTexts {bytes : Bytes} {texts : List (String × String)}
    (read : parseTexts bytes = .ok texts) :
    (texts.map fun text => text.1.utf8ByteSize + text.2.utf8ByteSize).sum ≤ bytes.length := by
  have fields : ∀ texts : List (String × String),
      (texts.map fun text => text.1.utf8ByteSize + text.2.utf8ByteSize).sum ≤
        Json.sizeFields (texts.map fun text => (text.1, Json.Value.string text.2)) := by
    intro texts
    induction texts with
    | nil => exact Nat.zero_le _
    | cons text texts ih =>
        have name := Json.utf8ByteSize_add_two_le_stringSize text.1
        have value := Json.utf8ByteSize_add_two_le_stringSize text.2
        simp only [List.map_cons, List.sum_cons, Json.sizeFields, Json.size]
        omega
  have bound := fields texts
  simp only [parseTexts, bind_eq_ok, okOr_eq_ok, rejectIf_eq_ok, pure_eq_ok, not_not] at read
  obtain ⟨value, parsed, members, found, written, canonical, _, rfl, rfl⟩ := read
  obtain rfl := textMembers_eq_some.mp found
  obtain ⟨tree, _, _, _, strict, same⟩ := Canonical.parseStrictValue_eq_ok.mp parsed
  have spelled : Canonical.valueBytes (textsValue members) = .ok written := canonical
  rw [same, Canonical.valueBytes_value strict, ← same] at spelled
  rw [← Except.ok.inj spelled, length_canonicalBytes_textsValue, textsValue, Json.size]
  omega

/-! ## The format -/

/-- An allowed environment is written within its limit and decoded again. -/
theorem exists_encode {environment : Environment} (allowed : environment.Allowed) :
    ∃ bytes, environment.encode = .ok bytes ∧ bytes.length ≤ maxEnvironmentObjectBytes ∧
      decode bytes = .ok environment := by
  obtain ⟨ordered, perm, spelled⟩ := environment.exists_entries
  have ascending := environment.ascending_texts
  rw [spelled] at ascending
  refine ⟨textsBytes (ordered.map encodeEntry), ?_, ?_, ?_⟩
  · rw [encode, spelled]
    exact valueBytes_textsValue ascending ascii_encodeEntry
  · have length := @length_textsBytes_le ordered
    have count := perm.length_eq ▸ allowed.count
    have bytes : entryBytes ordered ≤ maxEnvironmentBytes :=
      (perm.map _).sum_eq.trans_le allowed.bytes
    simp only [maxEnvironmentBytes, maxEnvironmentEntries, maxEnvironmentObjectBytes] at *
    omega
  · have decoded : decodeEnvironment (textsBytes (ordered.map encodeEntry)) = .ok ordered :=
      decodeEnvironment_eq_ok.mpr ⟨parseTexts_textsBytes ascending ascii_encodeEntry,
        perm.length_eq ▸ allowed.count, fun entry member => allowed.entry entry (perm.subset member),
        (perm.map _).sum_eq.trans_le allowed.bytes,
        (perm.map Prod.fst).nodup_iff.mpr environment.nodup_names⟩
    rw [decode, decoded, ok_bind, ofEntries_of_perm environment.ofEntries_entries perm]
    rfl

/-- What is decoded is allowed, and the bytes are its encoding. -/
theorem of_decode {bytes : Bytes} {environment : Environment}
    (decoded : decode bytes = .ok environment) :
    environment.encode = .ok bytes ∧ environment.Allowed := by
  simp only [decode, bind_eq_ok, okOr_eq_ok] at decoded
  obtain ⟨entries, read, made⟩ := decoded
  obtain ⟨texts, count, allowed, small, _⟩ := decodeEnvironment_eq_ok.mp read
  obtain ⟨ascending, written⟩ := of_parseTexts texts
  have perm := entries_perm made
  constructor
  · rw [encode, texts_eq (perm.symm.map encodeEntry) ascending]
    exact written
  · constructor
    case count => exact perm.length_eq ▸ count
    case entry => exact fun entry member => allowed entry (perm.subset member)
    case bytes => exact (perm.map _).sum_eq.trans_le small

/-- Every environment of the format is encoded within its limit and decoded again, what is
decoded is the encoding of its result, and the count of its bytes stays small. -/
theorem codec_exact :
    (∀ environment : Environment, environment.Allowed →
      ∃ bytes, environment.encode = .ok bytes ∧ bytes.length ≤ 1048576 ∧
        decode bytes = .ok environment) ∧
    (∀ (bytes : Bytes) (environment : Environment), decode bytes = .ok environment →
      environment.encode = .ok bytes ∧ environment.Allowed) ∧
    (∀ (first second : Bytes) (environment : Environment), decode first = .ok environment →
      decode second = .ok environment → first = second) ∧
    ∀ (bytes : Bytes) (texts : List (String × String)),
      bytes.length ≤ maxEnvironmentObjectBytes → parseTexts bytes = .ok texts →
        ∀ total ∈ totals 0 texts, total < 2 ^ 32 := by
  refine ⟨fun environment => exists_encode, fun bytes environment => of_decode, ?_, ?_⟩
  · intro first second environment readFirst readSecond
    exact Except.ok.inj ((of_decode readFirst).1.symm.trans (of_decode readSecond).1)
  · intro bytes texts small read total counted
    have bound := le_of_mem_totals counted
    have held := sum_le_of_parseTexts read
    rw [maxEnvironmentObjectBytes] at small
    omega

/-- One variable with a value of two bytes. -/
theorem codec_exact_variable :
    ∃ (environment : Environment) (bytes : Bytes), environment.entries = [([65], [120, 121])] ∧
      environment.encode = .ok bytes ∧ bytes.length ≤ 1048576 ∧
        decode bytes = .ok environment := by
  obtain ⟨environment, made⟩ := @exists_ofEntries [([65], [120, 121])] (List.nodup_singleton _)
  have perm : environment.entries.Perm [([65], [120, 121])] := entries_perm made
  have entries := List.perm_singleton.mp perm
  have allowed : environment.Allowed := by
    constructor
    case count => exact entries ▸ (by decide)
    case entry =>
      rw [entries]
      intro entry member
      rw [List.mem_singleton.mp member]
      exact ⟨List.cons_ne_nil _ _, by decide, by decide, by decide⟩
    case bytes => exact entries ▸ (by decide)
  obtain ⟨bytes, written, length, read⟩ := codec_exact.1 environment allowed
  exact ⟨environment, bytes, entries, written, length, read⟩

end Environment

end Reproit.Backend
