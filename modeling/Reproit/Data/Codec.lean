/-
# Lawful document codecs

A codec writes a typed value as a JSON document and reads it back.  The laws are
fields of the structure: reading inverts writing, the document nests within a
known height, and its objects have ordered ASCII keys.  Every codec is assembled
from the combinators here, so that no record proves the laws again.

Reading accepts more documents than writing makes.  `AsWritten` says which of the documents
that are read are the ones that are written.

Reading follows the conventions of derived readers: a record is read from an
object without unknown members or from an array of its fields in declaration
order, a unit variant from its name or from an object that maps its name to null.
-/

import Reproit.Data.JsonRoundTrip

namespace Reproit

open Json

variable {α β γ : Type}

/-- A typed view of JSON documents that loses nothing. -/
structure Codec (α : Type) where
  encode : α → Value
  decode : Value → Option α
  height : Nat
  decode_encode : ∀ value, decode (encode value) = some value
  depth_le : ∀ value, depth (encode value) ≤ height
  plain : ∀ value, Plain (encode value)
  /-- The document is spelled in the way in which values are written. -/
  AsWritten : Value → Prop
  encode_eq_iff : ∀ {document : Value} {value : α}, Ordered document →
    decode document = some value → (encode value = document ↔ AsWritten document)

namespace Codec

/-- Two values with one document are equal. -/
theorem encode_injective (codec : Codec α) {first second : α}
    (same : codec.encode first = codec.encode second) : first = second := by
  have read := codec.decode_encode first
  rw [same, codec.decode_encode] at read
  exact (Option.some.inj read).symm

/-! ## Scalars -/

/-- A value written as a text of its own. -/
def text (toText : α → String) (ofText : String → Option α)
    (ofText_toText : ∀ value, ofText (toText value) = some value)
    (toText_of_ofText : ∀ {body value}, ofText body = some value → toText value = body) :
    Codec α where
  encode value := .string (toText value)
  decode
    | .string body => ofText body
    | _ => none
  height := 0
  decode_encode := ofText_toText
  depth_le _ := by simp [depth]
  plain _ := by simp [Plain]
  AsWritten _ := True
  encode_eq_iff {document _} _ read := by
    cases document with
    | string body => simp [toText_of_ofText read]
    | _ => cases read

def string : Codec String := text id some (fun _ => rfl) fun read => (Option.some.inj read).symm

theorem decode_null_string : string.decode .null = none := rfl

def bool : Codec Bool where
  encode := .bool
  decode
    | .bool flag => some flag
    | _ => none
  height := 0
  decode_encode _ := rfl
  depth_le _ := by simp [depth]
  plain _ := by simp [Plain]
  AsWritten _ := True
  encode_eq_iff {document _} _ read := by
    cases document with
    | bool flag => simp [Option.some.inj read]
    | _ => cases read

/-- An unsigned machine integer, written as a number and read when it is in range. -/
def unsigned (toNat : α → Nat) (ofNat : Nat → Option α)
    (ofNat_toNat : ∀ value, ofNat (toNat value) = some value)
    (toNat_of_ofNat : ∀ {magnitude value}, ofNat magnitude = some value →
      toNat value = magnitude) : Codec α where
  encode value := .number (toNat value)
  decode
    | .number (.ofNat magnitude) => ofNat magnitude
    | _ => none
  height := 0
  decode_encode := ofNat_toNat
  depth_le _ := by simp [depth]
  plain _ := by simp [Plain]
  AsWritten _ := True
  encode_eq_iff {document _} _ read := by
    cases document with
    | number integer =>
        cases integer with
        | ofNat magnitude => simp [toNat_of_ofNat read]
        | negSucc _ => cases read
    | _ => cases read

def uint8 : Codec UInt8 :=
  unsigned UInt8.toNat (fun n => if n < 256 then some (UInt8.ofNat n) else none)
    (fun value => by rw [if_pos value.toNat_lt, UInt8.ofNat_toNat])
    fun {n _} read => by
      by_cases small : n < 256
      · rw [if_pos small] at read
        obtain rfl := Option.some.inj read
        exact UInt8.toNat_ofNat_of_lt' small
      · rw [if_neg small] at read
        cases read

def uint16 : Codec UInt16 :=
  unsigned UInt16.toNat (fun n => if n < 65536 then some (UInt16.ofNat n) else none)
    (fun value => by rw [if_pos value.toNat_lt, UInt16.ofNat_toNat])
    fun {n _} read => by
      by_cases small : n < 65536
      · rw [if_pos small] at read
        obtain rfl := Option.some.inj read
        exact UInt16.toNat_ofNat_of_lt' small
      · rw [if_neg small] at read
        cases read

def uint32 : Codec UInt32 :=
  unsigned UInt32.toNat (fun n => if n < 4294967296 then some (UInt32.ofNat n) else none)
    (fun value => by rw [if_pos value.toNat_lt, UInt32.ofNat_toNat])
    fun {n _} read => by
      by_cases small : n < 4294967296
      · rw [if_pos small] at read
        obtain rfl := Option.some.inj read
        exact UInt32.toNat_ofNat_of_lt' small
      · rw [if_neg small] at read
        cases read

def uint64 : Codec UInt64 :=
  unsigned UInt64.toNat (fun n => if n < 18446744073709551616 then some (UInt64.ofNat n) else none)
    (fun value => by rw [if_pos value.toNat_lt, UInt64.ofNat_toNat])
    fun {n _} read => by
      by_cases small : n < 18446744073709551616
      · rw [if_pos small] at read
        obtain rfl := Option.some.inj read
        exact UInt64.toNat_ofNat_of_lt' small
      · rw [if_neg small] at read
        cases read

theorem decode_null_uint16 : uint16.decode .null = none := rfl

theorem decode_null_uint32 : uint32.decode .null = none := rfl

theorem decode_null_uint64 : uint64.decode .null = none := rfl

/-- An enumeration of unit variants, each with its own name. -/
def enumeration (variants : List α) (name : α → String)
    (find_name : ∀ value,
      variants.find? (fun variant => name variant = name value) = some value) : Codec α where
  encode value := .string (name value)
  decode
    | .string body => variants.find? fun variant => name variant = body
    | .object [(body, .null)] => variants.find? fun variant => name variant = body
    | _ => none
  height := 0
  decode_encode := find_name
  depth_le _ := by simp [depth]
  plain _ := by simp [Plain]
  AsWritten document := ∃ body, document = .string body
  encode_eq_iff {document value} _ read := by
    cases document with
    | string body =>
        have named : name value = body := by simpa using List.find?_some read
        simp [named]
    | _ => simp

/-! ## Options and lists -/

/-- An optional value, written as null when absent. The codec of the value must not
read null. -/
def option (codec : Codec α) (decode_null : codec.decode .null = none) : Codec (Option α) where
  encode
    | none => .null
    | some value => codec.encode value
  decode
    | .null => some none
    | document => (codec.decode document).map some
  height := codec.height
  decode_encode value := by
    cases value with
    | none => rfl
    | some value =>
        have read := codec.decode_encode value
        simp only
        cases written : codec.encode value with
        | null =>
            rw [written, decode_null] at read
            cases read
        | _ =>
            rw [written] at read
            simp [read]
  depth_le value := by
    cases value with
    | none => simp [depth]
    | some value => exact codec.depth_le value
  plain value := by
    cases value with
    | none => simp [Plain]
    | some value => exact codec.plain value
  AsWritten document := document = .null ∨ codec.AsWritten document
  encode_eq_iff {document value} ordered read := by
    by_cases absent : document = .null
    · subst absent
      obtain rfl := Option.some.inj read
      simp
    · have read' : (codec.decode document).map some = some value := by
        cases document with
        | null => exact absurd rfl absent
        | _ => exact read
      obtain ⟨held, inner, rfl⟩ := Option.map_eq_some_iff.mp read'
      simp only [absent, false_or]
      exact codec.encode_eq_iff ordered inner

theorem depthItems_map_le (codec : Codec α) (values : List α) :
    depthItems (values.map codec.encode) ≤ codec.height := by
  induction values with
  | nil => simp [depthItems]
  | cons value values ih =>
      simp only [List.map_cons, depthItems]
      exact max_le (codec.depth_le value) ih

theorem plainItems_map (codec : Codec α) (values : List α) :
    PlainItems (values.map codec.encode) := by
  induction values with
  | nil => simp [PlainItems]
  | cons value values ih => exact ⟨codec.plain value, ih⟩

theorem mapM_decode_map_encode (codec : Codec α) (values : List α) :
    (values.map codec.encode).mapM codec.decode = some values := by
  induction values with
  | nil => rfl
  | cons value values ih => simp [List.mapM_cons, codec.decode_encode, ih]

/-- Reading and writing item by item. -/
theorem map_encode_eq_iff (codec : Codec α) {items : List Value} {values : List α}
    (ordered : ∀ item ∈ items, Ordered item) (read : items.mapM codec.decode = some values) :
    values.map codec.encode = items ↔ ∀ item ∈ items, codec.AsWritten item := by
  induction items generalizing values with
  | nil =>
      obtain rfl : [] = values := by simpa using read
      simp
  | cons item items ih =>
      simp only [List.mapM_cons, Option.bind_eq_bind, Option.bind_eq_some_iff, Option.pure_def,
        Option.some.injEq] at read
      obtain ⟨value, hitem, others, hitems, rfl⟩ := read
      have head := codec.encode_eq_iff (ordered item List.mem_cons_self) hitem
      have tail := ih (fun other member => ordered other (List.mem_cons_of_mem _ member)) hitems
      rw [List.map_cons, List.cons.injEq, head, tail, List.forall_mem_cons]

def list (codec : Codec α) : Codec (List α) where
  encode values := .array (values.map codec.encode)
  decode
    | .array items => items.mapM codec.decode
    | _ => none
  height := codec.height + 1
  decode_encode := codec.mapM_decode_map_encode
  depth_le values := by simpa [depth] using codec.depthItems_map_le values
  plain := codec.plainItems_map
  AsWritten document := ∃ items, document = .array items ∧ ∀ item ∈ items, codec.AsWritten item
  encode_eq_iff {document value} ordered read := by
    cases document with
    | array items =>
        rw [Value.array.injEq, codec.map_encode_eq_iff ((orderedItems_iff items).mp ordered) read]
        simp
    | _ => cases read

/-! ## Renaming and alternatives -/

/-- The same documents for a type that embeds into another. -/
def imap (codec : Codec β) (view : α → β) (build : β → α)
    (build_view : ∀ value, build (view value) = value)
    (view_build : ∀ value, view (build value) = value) : Codec α where
  encode value := codec.encode (view value)
  decode document := (codec.decode document).map build
  height := codec.height
  decode_encode value := by simp [codec.decode_encode, build_view]
  depth_le value := codec.depth_le (view value)
  plain value := codec.plain (view value)
  AsWritten := codec.AsWritten
  encode_eq_iff ordered read := by
    obtain ⟨held, inner, rfl⟩ := Option.map_eq_some_iff.mp read
    rw [view_build]
    exact codec.encode_eq_iff ordered inner

/-- An untagged alternative: the first reader that accepts decides. -/
def untagged (first : Codec α) (second : Codec β)
    (disjoint : ∀ value, first.decode (second.encode value) = none) : Codec (α ⊕ β) where
  encode
    | .inl value => first.encode value
    | .inr value => second.encode value
  decode document :=
    match first.decode document with
    | some value => some (.inl value)
    | none => (second.decode document).map .inr
  height := max first.height second.height
  decode_encode value := by
    cases value with
    | inl value => simp [first.decode_encode]
    | inr value => simp [disjoint, second.decode_encode]
  depth_le value := by
    cases value with
    | inl value => exact (first.depth_le value).trans (le_max_left _ _)
    | inr value => exact (second.depth_le value).trans (le_max_right _ _)
  plain value := by
    cases value with
    | inl value => exact first.plain value
    | inr value => exact second.plain value
  AsWritten document :=
    if (first.decode document).isSome then first.AsWritten document else second.AsWritten document
  encode_eq_iff {document value} ordered read := by
    cases inner : first.decode document with
    | some held =>
        rw [inner] at read
        obtain rfl := Option.some.inj read
        rw [Option.isSome_some, if_pos rfl]
        exact first.encode_eq_iff ordered inner
    | none =>
        rw [inner] at read
        obtain ⟨held, inner', rfl⟩ := Option.map_eq_some_iff.mp read
        simp only [Option.isSome_none, Bool.false_eq_true, if_false]
        exact second.encode_eq_iff ordered inner'

end Codec

/-! ## Records -/

/-- The fields of a record in declaration order. A field knows the value assumed
when its member is absent from an object, the value assumed when an array ends
before it, and the values whose member is not written. -/
inductive Fields : Type → Type 1
  | done : Fields Unit
  | field {α β : Type} (name : String) (codec : Codec α) (absent ended : Option α)
      (skip : α → Bool) (absent_of_skip : ∀ value, skip value = true → absent = some value)
      (rest : Fields β) : Fields (α × β)

namespace Fields

/-- A field that must be present. -/
def required (name : String) (codec : Codec α) (rest : Fields β) : Fields (α × β) :=
  field name codec none none (fun _ => false) (by simp) rest

/-- An optional field that is written as null and may be absent. -/
def optional (name : String) (codec : Codec α) (decode_null : codec.decode .null = none)
    (rest : Fields β) : Fields (Option α × β) :=
  field name (codec.option decode_null) (some none) none (fun _ => false) (by simp) rest

/-- An optional field whose absence is not written; `defaulted` says whether an array
may end before it. -/
def skipped (name : String) (codec : Codec α) (decode_null : codec.decode .null = none)
    (defaulted : Bool) (rest : Fields β) : Fields (Option α × β) :=
  field name (codec.option decode_null) (some none) (if defaulted then some none else none)
    Option.isNone (by simp) rest

/-- A list field whose emptiness is not written and that defaults to empty. -/
def skippedList (name : String) (codec : Codec α) (rest : Fields β) : Fields (List α × β) :=
  field name codec.list (some []) (some []) List.isEmpty (by simp) rest

def names : {β : Type} → Fields β → List String
  | _, .done => []
  | _, .field name _ _ _ _ _ rest => name :: rest.names

def height : {β : Type} → Fields β → Nat
  | _, .done => 0
  | _, .field _ codec _ _ _ _ rest => max codec.height rest.height

/-- The written members in declaration order. -/
def encode : {β : Type} → Fields β → β → List (String × Value)
  | _, .done, _ => []
  | _, .field name codec _ _ skip _ rest, (value, others) =>
      if skip value then rest.encode others
      else (name, codec.encode value) :: rest.encode others

/-- Read every field from the members of an object. -/
def decodeMap (members : List (String × Value)) : {β : Type} → Fields β → Option β
  | _, .done => some ()
  | _, .field name codec absent _ _ _ rest =>
      (match members.lookup name with
        | some document => codec.decode document
        | none => absent).bind fun value =>
          (rest.decodeMap members).map fun others => (value, others)

/-- Read every field from the items of an array. -/
def decodeSeq : {β : Type} → Fields β → List Value → Option β
  | _, .done, [] => some ()
  | _, .done, _ :: _ => none
  | _, .field _ codec _ _ _ _ rest, document :: items =>
      (codec.decode document).bind fun value =>
        (rest.decodeSeq items).map fun others => (value, others)
  | _, .field _ _ _ ended _ _ rest, [] =>
      ended.bind fun value => (rest.decodeSeq []).map fun others => (value, others)

/-- The members are spelled in the way in which the fields are written: a member that is
always written is there, and none of those that can be left out holds what is left out. -/
def AsWritten (members : List (String × Value)) : {β : Type} → Fields β → Prop
  | _, .done => True
  | _, .field name codec absent _ skip _ rest =>
      (match members.lookup name with
        | some document => codec.AsWritten document ∧
            ∀ value, absent = some value → skip value = true → codec.encode value ≠ document
        | none => ∃ value, absent = some value ∧ skip value = true) ∧ rest.AsWritten members

theorem keys_encode_subset (fields : Fields β) (value : β) :
    ∀ key ∈ (fields.encode value).map Prod.fst, key ∈ fields.names := by
  induction fields with
  | done => simp [encode]
  | field name codec absent ended skip _ rest ih =>
      obtain ⟨head, others⟩ := value
      intro key member
      by_cases skipped : skip head
      · rw [encode, if_pos skipped] at member
        exact List.mem_cons_of_mem _ (ih others key member)
      · rw [encode, if_neg skipped, List.map_cons, List.mem_cons] at member
        rcases member with rfl | later
        · exact List.mem_cons_self
        · exact List.mem_cons_of_mem _ (ih others key later)

theorem keys_encode_nodup {fields : Fields β} (distinct : fields.names.Nodup) (value : β) :
    ((fields.encode value).map Prod.fst).Nodup := by
  induction fields with
  | done => simp [encode]
  | field name codec absent ended skip _ rest ih =>
      obtain ⟨head, others⟩ := value
      rw [names, List.nodup_cons] at distinct
      by_cases skipped : skip head
      · rw [encode, if_pos skipped]
        exact ih distinct.2 others
      · rw [encode, if_neg skipped, List.map_cons, List.nodup_cons]
        exact ⟨fun member => distinct.1 (rest.keys_encode_subset others _ member),
          ih distinct.2 others⟩

theorem depthFields_encode_le (fields : Fields β) (value : β) :
    ∀ member ∈ fields.encode value, depth member.2 ≤ fields.height := by
  induction fields with
  | done => simp [encode]
  | field name codec absent ended skip _ rest ih =>
      obtain ⟨head, others⟩ := value
      intro member hmember
      by_cases skipped : skip head
      · rw [encode, if_pos skipped] at hmember
        exact (ih others member hmember).trans (le_max_right _ _)
      · rw [encode, if_neg skipped, List.mem_cons] at hmember
        rcases hmember with rfl | later
        · exact (codec.depth_le head).trans (le_max_left _ _)
        · exact (ih others member later).trans (le_max_right _ _)

theorem plain_encode (fields : Fields β) (value : β) :
    ∀ member ∈ fields.encode value, Plain member.2 := by
  induction fields with
  | done => simp [encode]
  | field name codec absent ended skip _ rest ih =>
      obtain ⟨head, others⟩ := value
      intro member hmember
      by_cases skipped : skip head
      · rw [encode, if_pos skipped] at hmember
        exact ih others member hmember
      · rw [encode, if_neg skipped, List.mem_cons] at hmember
        rcases hmember with rfl | later
        · exact codec.plain head
        · exact ih others member later

/-- Reading recovers the fields from any object that holds exactly their members. -/
theorem decodeMap_encode {fields : Fields β} (distinct : fields.names.Nodup) (value : β)
    (members : List (String × Value))
    (present : ∀ member ∈ fields.encode value, members.lookup member.1 = some member.2)
    (missing : ∀ name ∈ fields.names, name ∉ (fields.encode value).map Prod.fst →
      members.lookup name = none) :
    fields.decodeMap members = some value := by
  induction fields with
  | done => rfl
  | field name codec absent ended skip absent_of_skip rest ih =>
      obtain ⟨head, others⟩ := value
      rw [names, List.nodup_cons] at distinct
      by_cases skipped : skip head
      · rw [encode, if_pos skipped] at present missing
        have gone : members.lookup name = none := missing name List.mem_cons_self
          fun member => distinct.1 (rest.keys_encode_subset others _ member)
        have later := ih distinct.2 others present
          fun other hother => missing other (List.mem_cons_of_mem _ hother)
        simp [decodeMap, gone, absent_of_skip head skipped, later]
      · rw [encode, if_neg skipped] at present missing
        have found : members.lookup name = some (codec.encode head) :=
          present _ List.mem_cons_self
        have later := ih distinct.2 others
          (fun member hmember => present member (List.mem_cons_of_mem _ hmember))
          (fun other hother absentOther => missing other (List.mem_cons_of_mem _ hother) (by
            rw [List.map_cons, List.mem_cons]
            rintro (rfl | held)
            · exact distinct.1 hother
            · exact absentOther held))
        simp [decodeMap, found, codec.decode_encode, later]

end Fields

/-- Looking up in an association list with distinct keys is membership. -/
theorem lookup_eq_some_iff {members : List (String × Value)}
    (distinct : (members.map Prod.fst).Nodup) (key : String) (document : Value) :
    members.lookup key = some document ↔ (key, document) ∈ members := by
  induction members with
  | nil => simp
  | cons member members ih =>
      obtain ⟨name, held⟩ := member
      rw [List.map_cons, List.nodup_cons] at distinct
      by_cases same : key = name
      · subst same
        simp only [List.lookup_cons_self, Option.some.injEq, List.mem_cons, Prod.mk.injEq,
          true_and]
        constructor
        · rintro rfl
          exact .inl rfl
        · rintro (rfl | member)
          · rfl
          · exact absurd (List.mem_map_of_mem (f := Prod.fst) member) distinct.1
      · rw [List.lookup_cons, beq_false_of_ne same, ih distinct.2, List.mem_cons]
        simp [same]

theorem lookup_eq_none_of_not_mem {members : List (String × Value)} {key : String}
    (missing : key ∉ members.map Prod.fst) : members.lookup key = none := by
  induction members with
  | nil => rfl
  | cons member members ih =>
      obtain ⟨name, held⟩ := member
      rw [List.map_cons, List.mem_cons, not_or] at missing
      rw [List.lookup_cons, beq_false_of_ne missing.1]
      exact ih missing.2

/-- The members of an object in key order. -/
def sortMembers (members : List (String × Value)) : List (String × Value) :=
  members.insertionSort fun first second => first.1 ≤ second.1

theorem sortMembers_perm (members : List (String × Value)) :
    (sortMembers members).Perm members :=
  List.perm_insertionSort _ members

theorem plainFields_iff (members : List (String × Value)) :
    PlainFields members ↔ ∀ member ∈ members, Plain member.2 := by
  induction members with
  | nil => simp [PlainFields]
  | cons member members ih => simp [PlainFields, ih]

theorem depthFields_le_iff (members : List (String × Value)) (bound : Nat) :
    depthFields members ≤ bound ↔ ∀ member ∈ members, depth member.2 ≤ bound := by
  induction members with
  | nil => simp [depthFields]
  | cons member members ih => simp [depthFields, ih]

theorem sortMembers_ascending {members : List (String × Value)}
    (distinct : (members.map Prod.fst).Nodup) :
    ((sortMembers members).map Prod.fst).Pairwise (· < ·) := by
  have sorted : (sortMembers members).Pairwise fun first second => first.1 ≤ second.1 :=
    List.pairwise_insertionSort _ members
  have distinct' : ((sortMembers members).map Prod.fst).Nodup :=
    ((sortMembers_perm members).map Prod.fst).nodup_iff.mpr distinct
  rw [List.pairwise_map]
  rw [List.Nodup, List.pairwise_map] at distinct'
  exact (sorted.and distinct').imp fun both => lt_of_le_of_ne both.1 both.2

/-- The names of a record are distinct ASCII keys. -/
def Fields.WellNamed (fields : Fields β) : Prop :=
  fields.names.Nodup ∧ ∀ name ∈ fields.names, ∀ c ∈ name.toList, c.toNat < 128

/-- The members of the lists are checked one by one. -/
instance (fields : Fields β) : Decidable fields.WellNamed :=
  @instDecidableAnd _ _ (inferInstanceAs (Decidable fields.names.Nodup))
    (@List.decidableBAll _ _ (fun name =>
      @List.decidableBAll _ _ (fun _ => Nat.decLt _ _) name.toList) fields.names)

/-! ## Which records are read as they are written -/

theorem eq_of_lookup_eq {first second : List (String × Value)}
    (hfirst : (first.map Prod.fst).Pairwise (· < ·))
    (hsecond : (second.map Prod.fst).Pairwise (· < ·))
    (same : ∀ key, first.lookup key = second.lookup key) : first = second := by
  have distinct : ∀ {members : List (String × Value)},
      (members.map Prod.fst).Pairwise (· < ·) → (members.map Prod.fst).Nodup :=
    fun ascending => ascending.imp fun lt => ne_of_lt lt
  have perm : first.Perm second := by
    rw [List.perm_ext_iff_of_nodup (distinct hfirst).of_map (distinct hsecond).of_map]
    intro (key, document)
    rw [← lookup_eq_some_iff (distinct hfirst), ← lookup_eq_some_iff (distinct hsecond), same]
  rw [List.pairwise_map] at hfirst hsecond
  exact perm.eq_of_pairwise (fun _ _ _ _ lt gt => absurd lt (lt_asymm gt)) hfirst hsecond

namespace Fields

theorem lookup_encode_eq_none {fields : Fields β} {key : String} (missing : key ∉ fields.names)
    (value : β) : (fields.encode value).lookup key = none :=
  lookup_eq_none_of_not_mem fun member => missing (fields.keys_encode_subset value key member)

/-- The fields of an object are read as they are written exactly when writing them gives the
members of their names. -/
theorem asWritten_iff {fields : Fields β} (distinct : fields.names.Nodup)
    {members : List (String × Value)} (ordered : Ordered (.object members)) {value : β}
    (read : fields.decodeMap members = some value) :
    fields.AsWritten members ↔
      ∀ key ∈ fields.names, (fields.encode value).lookup key = members.lookup key := by
  induction fields with
  | done => simp [AsWritten, names]
  | field name codec absent ended skip absent_of_skip rest ih =>
      rw [names, List.nodup_cons] at distinct
      obtain ⟨fresh, distinct⟩ := distinct
      rw [decodeMap, Option.bind_eq_some_iff] at read
      obtain ⟨head, readHead, readRest⟩ := read
      obtain ⟨others, readOthers, rfl⟩ := Option.map_eq_some_iff.mp readRest
      have here : ((field name codec absent ended skip absent_of_skip rest).encode
          (head, others)).lookup name = if skip head then none else some (codec.encode head) := by
        rw [encode]
        split_ifs with skipped
        · exact lookup_encode_eq_none fresh others
        · exact List.lookup_cons_self
      have later : ∀ key ∈ rest.names, ((field name codec absent ended skip absent_of_skip
          rest).encode (head, others)).lookup key = (rest.encode others).lookup key := by
        intro key member
        rw [encode]
        split_ifs with skipped
        · rfl
        · have other : key ≠ name := fun same => fresh (same ▸ member)
          rw [List.lookup_cons, beq_false_of_ne other]
      rw [AsWritten, ih distinct readOthers, names, List.forall_mem_cons, here]
      apply and_congr
      · cases found : members.lookup name with
        | none =>
            rw [found] at readHead
            by_cases skipped : skip head
            · simp [skipped, readHead]
            · simp [skipped, readHead]
        | some document =>
            rw [found] at readHead
            have member := (lookup_eq_some_iff (ordered.1.imp fun lt => ne_of_lt lt) _ _).mp found
            have inner : Ordered document := (orderedFields_iff members).mp ordered.2 _ member
            simp only [← codec.encode_eq_iff inner readHead]
            by_cases skipped : skip head
            · rw [if_pos skipped]
              refine ⟨fun ⟨same, kept⟩ => ?_, fun impossible => by cases impossible⟩
              exact absurd same (kept head (absent_of_skip head skipped) skipped)
            · rw [if_neg skipped, Option.some.injEq]
              refine ⟨fun ⟨same, _⟩ => same, fun same => ⟨same, ?_⟩⟩
              intro value _ gone again
              rw [codec.encode_injective (again.trans same.symm)] at gone
              exact skipped gone
      · exact forall₂_congr fun key member => by rw [later key member]

/-- Writing what was read gives the members again exactly when they are as written. -/
theorem sortMembers_encode_eq_iff {fields : Fields β} (distinct : fields.names.Nodup)
    {members : List (String × Value)} (ordered : Ordered (.object members))
    (known : ∀ key ∈ members.map Prod.fst, key ∈ fields.names) {value : β}
    (read : fields.decodeMap members = some value) :
    sortMembers (fields.encode value) = members ↔ fields.AsWritten members := by
  have keys := keys_encode_nodup distinct value
  have perm := sortMembers_perm (fields.encode value)
  have found : ∀ key, (sortMembers (fields.encode value)).lookup key =
      (fields.encode value).lookup key := by
    intro key
    apply Option.ext
    intro document
    rw [lookup_eq_some_iff ((perm.map Prod.fst).nodup_iff.mpr keys), lookup_eq_some_iff keys,
      perm.mem_iff]
  rw [asWritten_iff distinct ordered read]
  constructor
  · intro same key _
    rw [← found, same]
  · intro same
    apply eq_of_lookup_eq (sortMembers_ascending keys) ordered.1
    intro key
    rw [found]
    by_cases named : key ∈ fields.names
    · exact same key named
    · rw [lookup_encode_eq_none named, lookup_eq_none_of_not_mem fun member =>
        named (known key member)]

end Fields

/-- The sorted members of a record are plain. -/
theorem plain_sortMembers {fields : Fields β} (wellNamed : fields.WellNamed) (value : β) :
    Plain (.object (sortMembers (fields.encode value))) := by
  refine ⟨sortMembers_ascending (Fields.keys_encode_nodup wellNamed.1 _), ?_, ?_⟩
  · intro key member
    exact wellNamed.2 key (fields.keys_encode_subset value key
      (((sortMembers_perm _).map Prod.fst).mem_iff.mp member))
  · rw [plainFields_iff]
    intro member hmember
    exact fields.plain_encode value member ((sortMembers_perm _).mem_iff.mp hmember)

namespace Codec

/-- A record: an object of its fields without unknown members, or an array of them. -/
def record (fields : Fields β) (view : α → β) (build : β → α)
    (build_view : ∀ value, build (view value) = value) (wellNamed : fields.WellNamed)
    (view_build : ∀ parts, view (build parts) = parts := by exact fun _ => rfl) : Codec α where
  encode value := .object (sortMembers (fields.encode (view value)))
  decode
    | .object members =>
        if members.all fun member => fields.names.contains member.1 then
          (fields.decodeMap members).map build
        else none
    | .array items => (fields.decodeSeq items).map build
    | _ => none
  height := fields.height + 1
  decode_encode value := by
    have perm := sortMembers_perm (fields.encode (view value))
    have distinct : ((sortMembers (fields.encode (view value))).map Prod.fst).Nodup :=
      (perm.map Prod.fst).nodup_iff.mpr (Fields.keys_encode_nodup wellNamed.1 _)
    have known : (sortMembers (fields.encode (view value))).all
        (fun member => fields.names.contains member.1) = true := by
      rw [List.all_eq_true]
      intro member hmember
      rw [List.contains_iff_mem]
      exact fields.keys_encode_subset (view value) _
        (List.mem_map_of_mem (perm.mem_iff.mp hmember))
    have read := Fields.decodeMap_encode wellNamed.1 (view value)
      (sortMembers (fields.encode (view value)))
      (fun member hmember => (lookup_eq_some_iff distinct _ _).mpr (perm.mem_iff.mpr hmember))
      (fun name _ missing => lookup_eq_none_of_not_mem
        fun member => missing ((perm.map Prod.fst).mem_iff.mp member))
    simp only [if_pos known, read, Option.map_some, build_view]
  depth_le value := by
    rw [depth, Nat.add_le_add_iff_right, depthFields_le_iff]
    intro member hmember
    exact fields.depthFields_encode_le (view value) member
      ((sortMembers_perm _).mem_iff.mp hmember)
  plain value := plain_sortMembers wellNamed (view value)
  AsWritten document := ∃ members, document = .object members ∧ fields.AsWritten members
  encode_eq_iff {document value} ordered read := by
    cases document with
    | object members =>
        by_cases known : members.all (fun member => fields.names.contains member.1) = true
        · simp only [if_pos known] at read
          obtain ⟨parts, readParts, rfl⟩ := Option.map_eq_some_iff.mp read
          have known' : ∀ key ∈ members.map Prod.fst, key ∈ fields.names := by
            intro key held
            obtain ⟨member, hmember, rfl⟩ := List.mem_map.mp held
            exact List.contains_iff_mem.mp (List.all_eq_true.mp known member hmember)
          rw [view_build, Value.object.injEq,
            Fields.sortMembers_encode_eq_iff wellNamed.1 ordered known' readParts]
          simp
        · simp only [if_neg known] at read
          cases read
    | array items => simp
    | _ => cases read

/-- A record refuses the document of a record with a member it does not know. -/
theorem decode_record_encode_record_eq_none {fields : Fields β} {view : α → β} {build : β → α}
    {build_view : ∀ value, build (view value) = value} {wellNamed : fields.WellNamed}
    {view_build : ∀ parts, view (build parts) = parts} {members : List (String × Value)}
    {key : String}
    (present : key ∈ members.map Prod.fst) (unknown : key ∉ fields.names) :
    (record fields view build build_view wellNamed view_build).decode
      (.object (sortMembers members)) = none := by
  have notAll : (sortMembers members).all
      (fun member => fields.names.contains member.1) = false := by
    rw [← Bool.not_eq_true, List.all_eq_true]
    intro all
    obtain ⟨member, hmember, rfl⟩ := List.mem_map.mp
      (((sortMembers_perm members).map Prod.fst).mem_iff.mpr present)
    exact unknown (List.contains_iff_mem.mp (all member hmember))
  simp only [record, notAll, Bool.false_eq_true, if_false]

/-! ## Tagged alternatives -/

/-- The text that tags an alternative. -/
def tag (name : String) : Codec Unit := enumeration [()] (fun _ => name) fun _ => by simp

end Codec

/-- The fields of an alternative with the member that holds its tag. -/
def Fields.tagged (key name : String) (fields : Fields β) : Fields (Unit × β) :=
  .required key (Codec.tag name) fields

namespace Fields

/-- Reading an object by its fields reads what was written. -/
theorem decodeMap_sortMembers {fields : Fields β} (distinct : fields.names.Nodup) (value : β) :
    fields.decodeMap (sortMembers (fields.encode value)) = some value := by
  have perm := sortMembers_perm (fields.encode value)
  have keys := (perm.map Prod.fst).nodup_iff.mpr (keys_encode_nodup distinct value)
  exact decodeMap_encode distinct value (sortMembers (fields.encode value))
    (fun member listed => (lookup_eq_some_iff keys _ _).mpr (perm.mem_iff.mpr listed))
    (fun name _ missing => lookup_eq_none_of_not_mem fun member =>
      missing ((perm.map Prod.fst).mem_iff.mp member))

/-- An alternative is read from the members behind its tag. -/
theorem decodeMap_tagged {key name : String} {fields : Fields β}
    {members : List (String × Value)} (found : members.lookup key = some (.string name)) :
    (fields.tagged key name).decodeMap members =
      (fields.decodeMap members).map fun value => ((), value) := by
  have read : (Codec.tag name).decode (.string name) = some () := by
    simp [Codec.tag, Codec.enumeration]
  simp [tagged, required, decodeMap, found, read]

theorem lookup_tagged {key name : String} {fields : Fields β}
    (distinct : (fields.tagged key name).names.Nodup) (value : β) :
    (sortMembers ((fields.tagged key name).encode ((), value))).lookup key =
      some (.string name) := by
  have perm := sortMembers_perm ((fields.tagged key name).encode ((), value))
  rw [lookup_eq_some_iff ((perm.map Prod.fst).nodup_iff.mpr (keys_encode_nodup distinct _)),
    perm.mem_iff]
  exact List.mem_cons_self

/-- An alternative is read as it is written when no member is unknown and its own members
are as written. -/
theorem tagged_eq_iff {key name : String} {fields : Fields β}
    (distinct : (fields.tagged key name).names.Nodup) {members : List (String × Value)}
    (ordered : Ordered (.object members)) (found : members.lookup key = some (.string name))
    {value : β} (read : fields.decodeMap members = some value) :
    sortMembers ((fields.tagged key name).encode ((), value)) = members ↔
      (∀ held ∈ members.map Prod.fst, held = key ∨ held ∈ fields.names) ∧
        fields.AsWritten members := by
  have read' : (fields.tagged key name).decodeMap members = some ((), value) := by
    rw [decodeMap_tagged found, read]
    rfl
  have own : (fields.tagged key name).AsWritten members ↔ fields.AsWritten members := by
    simp [tagged, required, AsWritten, found, Codec.tag, Codec.enumeration]
  rw [← own]
  constructor
  · intro same
    have known : ∀ held ∈ members.map Prod.fst, held ∈ (fields.tagged key name).names := by
      intro held member
      rw [← same] at member
      exact keys_encode_subset _ _ held (((sortMembers_perm _).map Prod.fst).mem_iff.mp member)
    refine ⟨fun held member => List.mem_cons.mp (known held member), ?_⟩
    exact (sortMembers_encode_eq_iff distinct ordered known read').mp same
  · intro ⟨known, asWritten⟩
    exact (sortMembers_encode_eq_iff distinct ordered
      (fun held member => List.mem_cons.mpr (known held member)) read').mpr asWritten

end Fields

namespace Codec

/-- The document of one of two alternatives, told apart by a tag among its members.  What
else an object holds is not looked at. -/
def tagged (key name other : String) (first : Fields β) (second : Fields γ)
    (apart : other ≠ name) (firstNamed : (first.tagged key name).WellNamed)
    (secondNamed : (second.tagged key other).WellNamed) : Codec (β ⊕ γ) where
  encode
    | .inl value => .object (sortMembers ((first.tagged key name).encode ((), value)))
    | .inr value => .object (sortMembers ((second.tagged key other).encode ((), value)))
  decode
    | .object members =>
        match members.lookup key with
        | some (.string body) =>
            if body = name then (first.decodeMap members).map .inl
            else if body = other then (second.decodeMap members).map .inr
            else none
        | _ => none
    | .array (.string body :: items) =>
        if body = name then (first.decodeSeq items).map .inl
        else if body = other then (second.decodeSeq items).map .inr
        else none
    | _ => none
  height := max (first.tagged key name).height (second.tagged key other).height + 1
  decode_encode value := by
    cases value with
    | inl value =>
        have read := Fields.decodeMap_sortMembers firstNamed.1 ((), value)
        have found := Fields.lookup_tagged firstNamed.1 value
        rw [Fields.decodeMap_tagged found] at read
        simp_all
    | inr value =>
        have read := Fields.decodeMap_sortMembers secondNamed.1 ((), value)
        have found := Fields.lookup_tagged secondNamed.1 value
        rw [Fields.decodeMap_tagged found] at read
        simp_all
  depth_le value := by
    have bound : ∀ {δ : Type} (fields : Fields δ) (parts : δ),
        depth (.object (sortMembers (fields.encode parts))) ≤ fields.height + 1 := by
      intro δ fields parts
      rw [depth, Nat.add_le_add_iff_right, depthFields_le_iff]
      intro member listed
      exact fields.depthFields_encode_le parts member ((sortMembers_perm _).mem_iff.mp listed)
    cases value with
    | inl value => exact (bound _ _).trans (Nat.succ_le_succ (le_max_left _ _))
    | inr value => exact (bound _ _).trans (Nat.succ_le_succ (le_max_right _ _))
  plain value := by
    cases value with
    | inl value => exact plain_sortMembers firstNamed _
    | inr value => exact plain_sortMembers secondNamed _
  AsWritten document := ∃ members, document = .object members ∧
    ((members.lookup key = some (.string name) ∧
        (∀ held ∈ members.map Prod.fst, held = key ∨ held ∈ first.names) ∧
          first.AsWritten members) ∨
      (members.lookup key = some (.string other) ∧
        (∀ held ∈ members.map Prod.fst, held = key ∨ held ∈ second.names) ∧
          second.AsWritten members))
  encode_eq_iff {document value} ordered read := by
    cases document with
    | object members =>
        simp only [Value.object.injEq, exists_eq_left']
        cases found : members.lookup key with
        | none => simp [found] at read
        | some held =>
            cases held with
            | string body =>
                simp only [found] at read
                split_ifs at read with isFirst isSecond
                · subst isFirst
                  obtain ⟨parts, readParts, rfl⟩ := Option.map_eq_some_iff.mp read
                  simp [Fields.tagged_eq_iff firstNamed.1 ordered found readParts, Ne.symm apart]
                · subst isSecond
                  obtain ⟨parts, readParts, rfl⟩ := Option.map_eq_some_iff.mp read
                  simp [Fields.tagged_eq_iff secondNamed.1 ordered found readParts, apart]
            | _ => simp [found] at read
    | array items => cases value <;> simp
    | _ => simp at read

end Codec

end Reproit
