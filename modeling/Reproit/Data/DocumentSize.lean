/-
# The size and the integers of documents

The number of bytes of a document's compact text, and whether all of its integers
are exact, computed along the codec that writes the document.  A record is measured
field by field, whatever the order in which its members are written.
-/

import Reproit.Data.Codec

namespace Reproit

namespace Json

/-! ## Texts -/

/-- The bytes of one character in a string body. -/
def charSize (c : Char) : Nat := (textBytes (escapeChar c)).length

/-- The bytes of a string with its quotation marks. -/
def stringSize (text : String) : Nat := 2 + (text.toList.map charSize).sum

theorem length_textBytes_append (first second : List Char) :
    (textBytes (first ++ second)).length = (textBytes first).length + (textBytes second).length := by
  rw [textBytes, List.flatMap_append, List.length_append]
  rfl

theorem length_textBytes_cons (c : Char) (rest : List Char) :
    (textBytes (c :: rest)).length = c.utf8Size + (textBytes rest).length := by
  rw [textBytes, List.flatMap_cons, List.length_append, String.length_utf8EncodeChar]
  rfl

theorem utf8Size_of_ascii {c : Char} (ascii : c.toNat < 128) : c.utf8Size = 1 := by
  rw [Char.utf8Size_eq_one_iff, UInt32.le_iff_toNat_le]
  exact Nat.le_of_lt_succ ascii

theorem utf8ByteSize_ofList (text : List Char) :
    (String.ofList text).utf8ByteSize = (textBytes text).length := by
  rw [← String.size_toByteArray, String.toByteArray_ofList, List.utf8Encode,
    List.size_toByteArray]
  rfl

/-- A text of ASCII characters has one byte for each. -/
theorem length_textBytes_of_ascii {text : List Char} (ascii : ∀ c ∈ text, c.toNat < 128) :
    (textBytes text).length = text.length := by
  induction text with
  | nil => rfl
  | cons c rest ih =>
      rw [length_textBytes_cons, utf8Size_of_ascii (ascii c List.mem_cons_self),
        ih fun other member => ascii other (List.mem_cons_of_mem _ member), List.length_cons]
      omega

theorem length_textBytes_renderString (text : String) :
    (textBytes (renderString text)).length = stringSize text := by
  have body : ∀ chars : List Char,
      (textBytes (chars.flatMap escapeChar)).length = (chars.map charSize).sum := by
    intro chars
    induction chars with
    | nil => rfl
    | cons c chars ih =>
        rw [List.flatMap_cons, length_textBytes_append, ih, List.map_cons, List.sum_cons]
        rfl
  have quotes : quote.utf8Size = 1 := rfl
  have nothing : (textBytes []).length = 0 := rfl
  rw [renderString, List.cons_append, length_textBytes_cons, length_textBytes_append, body,
    length_textBytes_cons, quotes, nothing, stringSize]
  omega

/-- A character that is written as itself. -/
def PlainChar (c : Char) : Prop := c ≠ quote ∧ c ≠ backslash ∧ 32 ≤ c.toNat

theorem charSize_of_plain {c : Char} (plain : PlainChar c) : charSize c = c.utf8Size := by
  obtain ⟨noQuote, noEscape, printed⟩ := plain
  have control : ∀ other : Char, other.toNat < 32 → c ≠ other := by
    rintro other small rfl
    omega
  have written : escapeChar c = [c] := by
    unfold escapeChar
    rw [if_neg noQuote, if_neg noEscape, if_neg (control _ (by decide)),
      if_neg (control _ (by decide)), if_neg (control _ (by decide)),
      if_neg (control _ (by decide)), if_neg (control _ (by decide)), if_neg (by omega)]
  rw [charSize, written, length_textBytes_cons]
  rfl

/-- A text of plain ASCII characters has one byte for each, and two quotation marks. -/
theorem stringSize_of_plain {text : String}
    (plain : ∀ c ∈ text.toList, PlainChar c ∧ c.toNat < 128) :
    stringSize text = 2 + text.toList.length := by
  have each : ∀ chars : List Char, (∀ c ∈ chars, PlainChar c ∧ c.toNat < 128) →
      (chars.map charSize).sum = chars.length := by
    intro chars all
    induction chars with
    | nil => rfl
    | cons c chars ih =>
        obtain ⟨first, ascii⟩ := all c List.mem_cons_self
        rw [List.map_cons, List.sum_cons, charSize_of_plain first, utf8Size_of_ascii ascii,
          ih fun other member => all other (List.mem_cons_of_mem _ member), List.length_cons]
        omega
  rw [stringSize, each _ plain]

/-- A character is written with at most six times its bytes. -/
theorem charSize_le (c : Char) : charSize c ≤ 6 * c.utf8Size := by
  have positive := c.utf8Size_pos
  have control : ∀ code < 32, (textBytes (backslash :: 'u' :: Radix.hexText 4 code)).length = 6 := by
    decide
  have simple : ∀ other : Char, other.toNat < 128 → (textBytes [backslash, other]).length = 2 := by
    intro other ascii
    rw [length_textBytes_cons, length_textBytes_cons, utf8Size_of_ascii ascii]
    rfl
  rw [charSize, escapeChar]
  split_ifs with _ _ _ _ _ _ _ small
  iterate 7
    rw [simple _ (by decide)]
    omega
  · rw [control _ small]
    omega
  · rw [length_textBytes_cons]
    show c.utf8Size + 0 ≤ 6 * c.utf8Size
    omega

/-- A string is not much longer than its text. -/
theorem stringSize_le (text : String) : stringSize text ≤ 2 + 6 * text.utf8ByteSize := by
  have each : ∀ chars : List Char, (chars.map charSize).sum ≤ 6 * (textBytes chars).length := by
    intro chars
    induction chars with
    | nil => exact Nat.le_refl _
    | cons c chars ih =>
        have first := charSize_le c
        rw [List.map_cons, List.sum_cons, length_textBytes_cons]
        omega
  have whole := each text.toList
  rw [← utf8ByteSize_ofList, String.ofList_toList] at whole
  rw [stringSize]
  omega

/-- No character is written with less than its bytes. -/
theorem utf8Size_le_charSize (c : Char) : c.utf8Size ≤ charSize c := by
  by_cases plain : PlainChar c
  · exact (charSize_of_plain plain).ge
  · have ascii : c.toNat < 128 := by
      by_contra wide
      apply plain
      refine ⟨?_, ?_, by omega⟩
      · rintro rfl
        exact wide (by decide)
      · rintro rfl
        exact wide (by decide)
    rw [utf8Size_of_ascii ascii, charSize]
    cases written : escapeChar c with
    | nil =>
        unfold escapeChar at written
        split_ifs at written
    | cons first rest =>
        rw [length_textBytes_cons]
        exact Nat.le_add_right_of_le first.utf8Size_pos

/-- A string has at least the bytes of its text and two quotation marks. -/
theorem utf8ByteSize_add_two_le_stringSize (text : String) :
    text.utf8ByteSize + 2 ≤ stringSize text := by
  have each : ∀ chars : List Char, (textBytes chars).length ≤ (chars.map charSize).sum := by
    intro chars
    induction chars with
    | nil => exact Nat.le_refl _
    | cons c chars ih =>
        rw [List.map_cons, List.sum_cons, length_textBytes_cons]
        exact Nat.add_le_add (utf8Size_le_charSize c) ih
  have whole := each text.toList
  rw [← utf8ByteSize_ofList, String.ofList_toList] at whole
  rw [stringSize]
  omega

/-! ## Values -/

mutual

/-- The bytes of the compact text of a value. -/
def size : Value → Nat
  | .null => 4
  | .bool true => 4
  | .bool false => 5
  | .number integer => (renderInt integer).length
  | .string text => stringSize text
  | .array items => 1 + max 1 (sizeItems items)
  | .object fields => 1 + max 1 (sizeFields fields)

/-- The bytes of items, each with the comma or bracket before it. -/
def sizeItems : List Value → Nat
  | [] => 0
  | item :: rest => 1 + size item + sizeItems rest

def sizeFields : List (String × Value) → Nat
  | [] => 0
  | (key, value) :: rest => 2 + stringSize key + size value + sizeFields rest

end

theorem length_textBytes_renderInt (integer : Int) :
    (textBytes (renderInt integer)).length = (renderInt integer).length := by
  have digit : ∀ magnitude : Nat, ∀ c ∈ Nat.toDigits 10 magnitude, c.toNat < 128 := by
    intro magnitude c member
    have held := toDigits_isDigit c member
    simp only [Char.isDigit, Bool.and_eq_true, decide_eq_true_eq, ge_iff_le] at held
    have bound := UInt32.le_iff_toNat_le.mp held.2
    exact lt_of_le_of_lt bound (by decide)
  refine length_textBytes_of_ascii fun c member => ?_
  cases integer with
  | ofNat magnitude => exact digit _ c member
  | negSucc magnitude =>
      rcases List.mem_cons.mp member with rfl | later
      · decide
      · exact digit _ c later

mutual

/-- The size of a value is the length of its text. -/
theorem length_textBytes_render : ∀ value : Value, (textBytes (render value)).length = size value
  | .null | .bool true | .bool false => by rw [render, size]; rfl
  | .number integer => by rw [render, size, length_textBytes_renderInt]
  | .string text => by rw [render, size, length_textBytes_renderString]
  | .array [] => by rw [render, size, renderItems, sizeItems]; rfl
  | .array (item :: rest) => by
      have comma : ('[' : Char).utf8Size = 1 ∧ (']' : Char).utf8Size = 1 := ⟨rfl, rfl⟩
      have nothing : (textBytes []).length = 0 := rfl
      rw [render, renderItems, List.cons_append, List.cons_append, List.tail_cons,
        length_textBytes_cons, length_textBytes_append, length_textBytes_append,
        length_textBytes_cons, length_textBytes_render item, length_textBytes_renderItems rest,
        comma.1, comma.2, nothing, size, sizeItems]
      omega
  | .object [] => by rw [render, size, renderFields, sizeFields]; rfl
  | .object ((key, value) :: rest) => by
      have brace : ('\x7b' : Char).utf8Size = 1 ∧ ('\x7d' : Char).utf8Size = 1 ∧
        (':' : Char).utf8Size = 1 := ⟨rfl, rfl, rfl⟩
      have nothing : (textBytes []).length = 0 := rfl
      rw [render, renderFields]
      simp only [List.cons_append, List.tail_cons, List.append_assoc, length_textBytes_cons,
        length_textBytes_append, length_textBytes_renderString, length_textBytes_render value,
        length_textBytes_renderFields rest, brace, nothing]
      rw [size, sizeFields]
      omega

theorem length_textBytes_renderItems : ∀ items : List Value,
    (textBytes (renderItems items)).length = sizeItems items
  | [] => by rw [renderItems, sizeItems]; rfl
  | item :: rest => by
      have comma : (',' : Char).utf8Size = 1 := rfl
      rw [renderItems, List.cons_append, length_textBytes_cons, length_textBytes_append,
        length_textBytes_render item, length_textBytes_renderItems rest, comma, sizeItems]
      omega

theorem length_textBytes_renderFields : ∀ fields : List (String × Value),
    (textBytes (renderFields fields)).length = sizeFields fields
  | [] => by rw [renderFields, sizeFields]; rfl
  | (key, value) :: rest => by
      have comma : (',' : Char).utf8Size = 1 ∧ (':' : Char).utf8Size = 1 := ⟨rfl, rfl⟩
      rw [renderFields]
      simp only [List.cons_append, List.append_assoc, length_textBytes_cons,
        length_textBytes_append, length_textBytes_renderString, length_textBytes_render value,
        length_textBytes_renderFields rest, comma]
      rw [sizeFields]
      omega

end

theorem sizeItems_eq (items : List Value) :
    sizeItems items = (items.map fun item => 1 + size item).sum := by
  induction items with
  | nil => rfl
  | cons item items ih => rw [sizeItems, ih, List.map_cons, List.sum_cons]

theorem sizeFields_eq (fields : List (String × Value)) :
    sizeFields fields =
      (fields.map fun field => 2 + stringSize field.1 + size field.2).sum := by
  induction fields with
  | nil => rfl
  | cons field fields ih => rw [sizeFields, ih, List.map_cons, List.sum_cons]

theorem exactItems_eq (items : List Value) : exactItems items = items.all exact := by
  induction items with
  | nil => rfl
  | cons item items ih => rw [exactItems, ih, List.all_cons]

theorem exactFields_eq (fields : List (String × Value)) :
    exactFields fields = fields.all fun field => exact field.2 := by
  induction fields with
  | nil => rfl
  | cons field fields ih => rw [exactFields, ih, List.all_cons]

end Json

open Json

variable {α β : Type}

/-! ## Codecs -/

namespace Codec

/-- The bytes of the document of a value. -/
def size (codec : Codec α) (value : α) : Nat := Json.size (codec.encode value)

/-- Whether the integers of the document of a value are exact. -/
def exact (codec : Codec α) (value : α) : Bool := Json.exact (codec.encode value)

@[simp]
theorem size_text {toText : α → String} {ofText : String → Option α}
    {ofText_toText : ∀ value, ofText (toText value) = some value} {toText_of_ofText} (value : α) :
    (text toText ofText ofText_toText toText_of_ofText).size value = stringSize (toText value) := by
  simp [size, text, Json.size]

@[simp]
theorem exact_text {toText : α → String} {ofText : String → Option α}
    {ofText_toText : ∀ value, ofText (toText value) = some value} {toText_of_ofText} :
    (text toText ofText ofText_toText toText_of_ofText).exact = fun _ => true := by
  funext value
  simp [exact, text, Json.exact]

@[simp]
theorem size_string (value : String) : string.size value = stringSize value := size_text value

@[simp]
theorem exact_string : string.exact = fun _ => true := exact_text

theorem size_bool_le (value : Bool) : bool.size value ≤ 5 := by
  cases value <;> simp [size, bool, Json.size]

@[simp]
theorem exact_bool : bool.exact = fun _ => true := by
  funext value
  cases value <;> rfl

@[simp]
theorem size_enumeration {variants : List α} {name : α → String} {find_name} (value : α) :
    (enumeration variants name find_name).size value = stringSize (name value) := by
  simp [size, enumeration, Json.size]

@[simp]
theorem exact_enumeration {variants : List α} {name : α → String} {find_name} :
    (enumeration variants name find_name).exact = fun _ => true := by
  funext value
  simp [exact, enumeration, Json.exact]

theorem exact_unsigned {toNat : α → Nat} {ofNat : Nat → Option α} {ofNat_toNat}
    {toNat_of_ofNat} (value : α) :
    (unsigned toNat ofNat ofNat_toNat toNat_of_ofNat).exact value =
      decide (toNat value ≤ Json.maxExactInteger) := by
  simp [exact, unsigned, Json.exact, exactInt]

@[simp]
theorem exact_uint8 : uint8.exact = fun _ => true := by
  funext value
  have small := value.toNat_lt
  rw [uint8, exact_unsigned, decide_eq_true_eq, Json.maxExactInteger]
  omega

@[simp]
theorem exact_uint16 : uint16.exact = fun _ => true := by
  funext value
  have small := value.toNat_lt
  rw [uint16, exact_unsigned, decide_eq_true_eq, Json.maxExactInteger]
  omega

@[simp]
theorem exact_uint32 : uint32.exact = fun _ => true := by
  funext value
  have small := value.toNat_lt
  rw [uint32, exact_unsigned, decide_eq_true_eq, Json.maxExactInteger]
  omega

@[simp]
theorem exact_uint64 (value : UInt64) :
    uint64.exact value = decide (value.toNat ≤ Json.maxExactInteger) := exact_unsigned value

/-- An unsigned integer has at most as many digits as its bound. -/
theorem size_unsigned_le {toNat : α → Nat} {ofNat : Nat → Option α} {ofNat_toNat}
    {toNat_of_ofNat} (value : α) {digits : Nat} (positive : 0 < digits)
    (small : toNat value < 10 ^ digits) :
    (unsigned toNat ofNat ofNat_toNat toNat_of_ofNat).size value ≤ digits := by
  simp only [size, unsigned, Json.size]
  exact (Nat.length_toDigits_le_iff (by decide) positive).mpr small

@[simp]
theorem size_list (codec : Codec α) (values : List α) :
    codec.list.size values = 1 + max 1 (values.map fun value => 1 + codec.size value).sum := by
  simp [size, list, Json.size, sizeItems_eq, Function.comp_def]

@[simp]
theorem exact_list (codec : Codec α) (values : List α) :
    codec.list.exact values = values.all codec.exact := by
  simp only [exact, list, Json.exact, exactItems_eq, List.all_map]
  rfl

@[simp]
theorem size_option_none (codec : Codec α) {decode_null} :
    (codec.option decode_null).size none = 4 := by
  simp [size, option, Json.size]

@[simp]
theorem size_option_some (codec : Codec α) {decode_null} (value : α) :
    (codec.option decode_null).size (some value) = codec.size value := rfl

@[simp]
theorem exact_option_none (codec : Codec α) {decode_null} :
    (codec.option decode_null).exact none = true := rfl

@[simp]
theorem exact_option_some (codec : Codec α) {decode_null} (value : α) :
    (codec.option decode_null).exact (some value) = codec.exact value := rfl

theorem exact_option (codec : Codec α) {decode_null} (value : Option α) :
    (codec.option decode_null).exact value = value.all codec.exact := by
  cases value <;> rfl

end Codec

/-! ## Records -/

namespace Fields

/-- The bytes of the written members, each with its comma and colon. -/
def size : {β : Type} → Fields β → β → Nat
  | _, .done, _ => 0
  | _, .field name codec _ _ skip _ rest, (value, others) =>
      (if skip value then 0 else 2 + stringSize name + codec.size value) + rest.size others

/-- Whether the integers of the written members are exact. -/
def exact : {β : Type} → Fields β → β → Bool
  | _, .done, _ => true
  | _, .field _ codec _ _ skip _ rest, (value, others) =>
      (skip value || codec.exact value) && rest.exact others

theorem sizeFields_encode (fields : Fields β) (value : β) :
    sizeFields (fields.encode value) = fields.size value := by
  induction fields with
  | done => rfl
  | field name codec absent ended skip absentOfSkip rest ih =>
      obtain ⟨head, others⟩ := value
      by_cases skipped : skip head
      · simp [encode, size, skipped, ih]
      · simp [encode, size, skipped, ih, sizeFields, Codec.size]

theorem exactFields_encode (fields : Fields β) (value : β) :
    exactFields (fields.encode value) = fields.exact value := by
  induction fields with
  | done => rfl
  | field name codec absent ended skip absentOfSkip rest ih =>
      obtain ⟨head, others⟩ := value
      by_cases skipped : skip head
      · simp [encode, exact, skipped, ih]
      · simp [encode, exact, skipped, ih, exactFields, Codec.exact]

@[simp]
theorem size_done (value : Unit) : Fields.done.size value = 0 := rfl

@[simp]
theorem exact_done (value : Unit) : Fields.done.exact value = true := rfl

@[simp]
theorem size_required (name : String) (codec : Codec α) (rest : Fields β) (value : α)
    (others : β) : (required name codec rest).size (value, others) =
      2 + stringSize name + codec.size value + rest.size others := rfl

@[simp]
theorem exact_required (name : String) (codec : Codec α) (rest : Fields β) (value : α)
    (others : β) : (required name codec rest).exact (value, others) =
      (codec.exact value && rest.exact others) := rfl

@[simp]
theorem size_optional (name : String) (codec : Codec α) {decode_null} (rest : Fields β)
    (value : Option α) (others : β) : (optional name codec decode_null rest).size (value, others) =
      2 + stringSize name + (codec.option decode_null).size value + rest.size others := rfl

@[simp]
theorem exact_optional (name : String) (codec : Codec α) {decode_null} (rest : Fields β)
    (value : Option α) (others : β) :
    (optional name codec decode_null rest).exact (value, others) =
      (value.all codec.exact && rest.exact others) := by
  rw [← codec.exact_option]
  rfl

@[simp]
theorem exact_skipped (name : String) (codec : Codec α) {decode_null} {defaulted : Bool}
    (rest : Fields β) (value : Option α) (others : β) :
    (skipped name codec decode_null defaulted rest).exact (value, others) =
      (value.all codec.exact && rest.exact others) := by
  cases value <;> rfl

@[simp]
theorem exact_skippedList (name : String) (codec : Codec α) (rest : Fields β)
    (value : List α) (others : β) : (skippedList name codec rest).exact (value, others) =
      (value.all codec.exact && rest.exact others) := by
  rw [← codec.exact_list]
  cases value with
  | nil => simp [skippedList, exact]
  | cons head tail => rfl

@[simp]
theorem size_skipped (name : String) (codec : Codec α) {decode_null} {defaulted : Bool}
    (rest : Fields β) (value : Option α) (others : β) :
    (skipped name codec decode_null defaulted rest).size (value, others) =
      (value.elim 0 fun held => 2 + stringSize name + codec.size held) + rest.size others := by
  cases value <;> rfl

end Fields

theorem sizeFields_sortMembers (members : List (String × Value)) :
    sizeFields (sortMembers members) = sizeFields members := by
  rw [sizeFields_eq, sizeFields_eq]
  exact ((sortMembers_perm members).map _).sum_nat

theorem exactFields_sortMembers (members : List (String × Value)) :
    exactFields (sortMembers members) = exactFields members := by
  rw [exactFields_eq, exactFields_eq, Bool.eq_iff_iff, List.all_eq_true, List.all_eq_true]
  simp only [(sortMembers_perm members).mem_iff]

namespace Codec

@[simp]
theorem size_record {fields : Fields β} {view : α → β} {build : β → α} {build_view}
    {wellNamed : fields.WellNamed} {view_build} (value : α) :
    (record fields view build build_view wellNamed view_build).size value =
      1 + max 1 (fields.size (view value)) := by
  simp only [size, record, Json.size, sizeFields_sortMembers, Fields.sizeFields_encode]

@[simp]
theorem exact_record {fields : Fields β} {view : α → β} {build : β → α} {build_view}
    {wellNamed : fields.WellNamed} {view_build} (value : α) :
    (record fields view build build_view wellNamed view_build).exact value = fields.exact (view value) := by
  simp only [exact, record, Json.exact, exactFields_sortMembers, Fields.exactFields_encode]

@[simp]
theorem size_imap {codec : Codec β} {view : α → β} {build : β → α} {build_view}
    {view_build} (value : α) :
    (codec.imap view build build_view view_build).size value = codec.size (view value) := rfl

@[simp]
theorem exact_imap {codec : Codec β} {view : α → β} {build : β → α} {build_view}
    {view_build} (value : α) :
    (codec.imap view build build_view view_build).exact value = codec.exact (view value) := rfl

@[simp]
theorem size_untagged_inl {first : Codec α} {second : Codec β} {disjoint} (value : α) :
    (first.untagged second disjoint).size (.inl value) = first.size value := rfl

@[simp]
theorem size_untagged_inr {first : Codec α} {second : Codec β} {disjoint} (value : β) :
    (first.untagged second disjoint).size (.inr value) = second.size value := rfl

@[simp]
theorem exact_untagged_inl {first : Codec α} {second : Codec β} {disjoint} (value : α) :
    (first.untagged second disjoint).exact (.inl value) = first.exact value := rfl

@[simp]
theorem exact_untagged_inr {first : Codec α} {second : Codec β} {disjoint} (value : β) :
    (first.untagged second disjoint).exact (.inr value) = second.exact value := rfl

end Codec

end Reproit
