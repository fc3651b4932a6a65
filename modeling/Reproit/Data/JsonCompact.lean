/-
# Compact texts

The compact text of a tree is one of its spellings.  A value has a tree with the same
compact text, whose numbers are the written integers.  Reordering the members of every
object of a value changes neither whether it is strict nor what it says.
-/

import Reproit.Data.JsonStrict

namespace Reproit.Json

/-! ## Integers and strings -/

theorem isNumber_toDigits (magnitude : Nat) {sign : List Char} (sign' : sign = [] ∨ sign = ['-']) :
    IsNumber (sign ++ (Nat.toDigits 10 magnitude ++ ([] ++ []))) := by
  refine .parts sign' ⟨Nat.toDigits_ne_nil, toDigits_isDigit⟩ ?_ .missing .missing
  intro zero
  have short : ¬ 1 < (Nat.toDigits 10 magnitude).length :=
    fun long => toDigits_head magnitude ⟨long, zero⟩
  cases digits : Nat.toDigits 10 magnitude with
  | nil => exact absurd digits Nat.toDigits_ne_nil
  | cons first others =>
      rw [digits] at zero short
      rw [List.length_cons] at short
      have none : others = [] := List.eq_nil_of_length_eq_zero (by omega)
      rw [Option.some.inj zero, none]

theorem isNumber_renderInt (integer : Int) : IsNumber (renderInt integer) := by
  cases integer with
  | ofNat magnitude =>
      have written := isNumber_toDigits magnitude (.inl rfl)
      rwa [List.nil_append, List.append_nil, List.append_nil] at written
  | negSucc magnitude =>
      have written := isNumber_toDigits (magnitude + 1) (.inr rfl)
      rwa [List.append_nil, List.append_nil] at written

/-- The token of an integer. -/
def NumberToken.ofInt (integer : Int) : NumberToken := ⟨renderInt integer, isNumber_renderInt integer⟩

theorem NumberToken.integer_ofInt (integer : Int) :
    (NumberToken.ofInt integer).integer = integer := by
  cases integer with
  | ofNat magnitude =>
      have noMinus : (Nat.toDigits 10 magnitude).head? ≠ some '-' := by
        simpa using toDigits_head_ne_minus magnitude []
      have token : (ofInt (.ofNat magnitude)).token = Nat.toDigits 10 magnitude := rfl
      rw [NumberToken.integer, token, if_neg noMinus, Nat.ofDigitChars_ten_toDigits]
      rfl
  | negSucc magnitude =>
      have token : (ofInt (.negSucc magnitude)).token =
          '-' :: Nat.toDigits 10 (magnitude + 1) := rfl
      have sign : ('-' :: Nat.toDigits 10 (magnitude + 1)).head? = some '-' := rfl
      rw [NumberToken.integer, token, if_pos sign, List.tail_cons, Nat.ofDigitChars_ten_toDigits]
      rfl

theorem NumberToken.integral_ofInt (integer : Int) :
    (NumberToken.ofInt integer).Integral ↔ integer.natAbs ≤ maxExactInteger := by
  have value := integer_ofInt integer
  have noEnds : Ends [] := by
    intro c here
    cases here
  have read := parseNumber_token (ofInt integer) noEnds
  have written := parseNumber_renderInt integer (by simp [Closes] : Closes [])
  have same : (ofInt integer).token = renderInt integer := rfl
  rw [same, written, value, exactInt] at read
  by_cases integral : (ofInt integer).Integral
  · rw [if_pos integral] at read
    split_ifs at read with exact
    exact iff_of_true integral (of_decide_eq_true exact)
  · rw [if_neg integral] at read
    split_ifs at read with exact
    exact iff_of_false integral fun small => exact (decide_eq_true small)

theorem Spells.append {first second chars others : List Char} (hfirst : Spells first chars)
    (hsecond : Spells second others) : Spells (first ++ second) (chars ++ others) := by
  induction hfirst with
  | nil => exact hsecond
  | plain noQuote noEscape printed _ ih => exact .plain noQuote noEscape printed ih
  | short named _ ih => exact .short named ih
  | code hex scalar _ ih =>
      rw [List.cons_append, List.cons_append, List.append_assoc]
      exact .code hex scalar ih
  | pair hexHigh hexLow isHigh isLow _ ih =>
      rw [List.cons_append, List.cons_append, List.append_assoc, List.cons_append,
        List.cons_append, List.append_assoc]
      exact .pair hexHigh hexLow isHigh isLow ih

theorem hexFour_hexText {value : Nat} (small : value < 32) :
    HexFour (Radix.hexText 4 value) value := by
  obtain ⟨digits, hex, same⟩ := parseHexFour_eq_some.mp (parseHexFour_hexText small [])
  rw [List.append_nil, List.append_nil] at same
  rwa [same]

/-- The shortest escape of a character spells it. -/
theorem spells_escapeChar (c : Char) : Spells (escapeChar c) [c] := by
  unfold escapeChar
  split_ifs with h₁ h₂ h₃ h₄ h₅ h₆ h₇ h₈
  iterate 7
    · subst c
      exact .short (by decide) .nil
  · have spelled := Spells.code (hexFour_hexText h₈) ⟨by omega, by omega⟩ .nil
    rwa [List.append_nil, Char.ofNat_toNat] at spelled
  · exact .plain h₁ h₂ (Nat.not_lt.mp h₈) .nil

theorem spells_renderString (text : List Char) : Spells (text.flatMap escapeChar) text := by
  induction text with
  | nil => exact .nil
  | cons c text ih => exact (spells_escapeChar c).append ih

/-! ## Compact texts -/

namespace Tree

mutual

/-- The text without blanks, with every number as it is written. -/
def compact : Tree → List Char
  | .null => ['n', 'u', 'l', 'l']
  | .bool true => ['t', 'r', 'u', 'e']
  | .bool false => ['f', 'a', 'l', 's', 'e']
  | .number token => token.token
  | .string text => renderString text
  | .array items => '[' :: (compactItems items).tail ++ [']']
  | .object members => '\x7b' :: (compactMembers members).tail ++ ['\x7d']

def compactItems : List Tree → List Char
  | [] => []
  | item :: rest => ',' :: (compact item ++ compactItems rest)

def compactMembers : List (String × Tree) → List Char
  | [] => []
  | (key, value) :: rest => ',' :: (renderString key ++ ':' :: (compact value ++ compactMembers rest))

end

end Tree

theorem padded_of_writes {writes : List Char → Prop} {body : List Char} (held : writes body) :
    Padded writes body :=
  ⟨[], body, [], .nil, held, .nil, (List.append_nil body).symm⟩

theorem writes_string (text : String) : Writes (.string text) (renderString text) :=
  ⟨_, spells_renderString text.toList, rfl⟩

mutual

/-- The compact text spells the tree. -/
theorem writes_compact : ∀ tree : Tree, Writes tree tree.compact
  | .null => rfl
  | .bool true => rfl
  | .bool false => rfl
  | .number _ => rfl
  | .string text => writes_string text
  | .array [] => ⟨[], rfl, .inl ⟨rfl, .nil⟩⟩
  | .array (item :: items) =>
      ⟨_, rfl, .inr ⟨List.cons_ne_nil _ _, writes_compactItems (item :: items)⟩⟩
  | .object [] => ⟨[], rfl, .inl ⟨rfl, .nil⟩⟩
  | .object (member :: members) =>
      ⟨_, rfl, .inr ⟨List.cons_ne_nil _ _, writes_compactMembers (member :: members)⟩⟩

theorem writes_compactItems : ∀ items : List Tree, WritesItems items (Tree.compactItems items)
  | [] => rfl
  | item :: items =>
      ⟨item.compact, _, padded_of_writes (writes_compact item), writes_compactItems items, rfl⟩

theorem writes_compactMembers : ∀ members : List (String × Tree),
    WritesMembers members (Tree.compactMembers members)
  | [] => rfl
  | (key, value) :: members => by
      have split : Tree.compactMembers ((key, value) :: members) = ',' :: ([] ++ ((renderString key ++
          ':' :: value.compact) ++ Tree.compactMembers members)) := by
        simp only [Tree.compactMembers, List.nil_append, List.append_assoc, List.cons_append]
      refine ⟨[], renderString key ++ ':' :: value.compact, _, .nil, ?_,
        writes_compactMembers members, split⟩
      refine ⟨_, [], value.compact, spells_renderString key.toList, .nil,
        padded_of_writes (writes_compact value), ?_⟩
      simp only [renderString, List.cons_append, List.append_assoc, List.nil_append]

end

theorem isDocument_compact (tree : Tree) : IsDocument tree tree.compact :=
  padded_of_writes (writes_compact tree)

/-! ## The tree of a value -/

namespace Tree

mutual

/-- The tree that says a value, with its members in the order they are held. -/
def ofValue : Value → Tree
  | .null => .null
  | .bool flag => .bool flag
  | .number integer => .number (.ofInt integer)
  | .string text => .string text
  | .array items => .array (ofItems items)
  | .object fields => .object (ofFields fields)

def ofItems : List Value → List Tree
  | [] => []
  | item :: rest => ofValue item :: ofItems rest

def ofFields : List (String × Value) → List (String × Tree)
  | [] => []
  | (key, value) :: rest => (key, ofValue value) :: ofFields rest

end

mutual

theorem compact_ofValue : ∀ value : Value, (ofValue value).compact = render value
  | .null => by rw [ofValue, compact, render]
  | .bool true => by rw [ofValue, compact, render]
  | .bool false => by rw [ofValue, compact, render]
  | .number integer => by
      rw [ofValue, compact, render]
      rfl
  | .string text => by rw [ofValue, compact, render]
  | .array items => by rw [ofValue, compact, render, compact_ofItems items]
  | .object fields => by rw [ofValue, compact, render, compact_ofFields fields]

theorem compact_ofItems : ∀ items : List Value, compactItems (ofItems items) = renderItems items
  | [] => by rw [ofItems, compactItems, renderItems]
  | item :: items => by
      rw [ofItems, compactItems, renderItems, compact_ofValue item, compact_ofItems items,
        List.cons_append]

theorem compact_ofFields : ∀ fields : List (String × Value),
    compactMembers (ofFields fields) = renderFields fields
  | [] => by rw [ofFields, compactMembers, renderFields]
  | (key, value) :: fields => by
      rw [ofFields, compactMembers, renderFields, compact_ofValue value, compact_ofFields fields]
      simp only [List.cons_append, List.append_assoc]

end

theorem ofFields_eq_map (fields : List (String × Value)) :
    ofFields fields = fields.map fun field => (field.1, ofValue field.2) := by
  induction fields with
  | nil => rw [ofFields, List.map_nil]
  | cons field fields ih => rw [ofFields, List.map_cons, ih]

theorem valueOfMembers_eq_map (members : List (String × Tree)) :
    valueOfMembers members = members.map fun member => (member.1, member.2.value) := by
  induction members with
  | nil => rw [valueOfMembers, List.map_nil]
  | cons member members ih => rw [valueOfMembers, List.map_cons, ih]

theorem ofItems_eq_map (items : List Value) : ofItems items = items.map ofValue := by
  induction items with
  | nil => rw [ofItems, List.map_nil]
  | cons item items ih => rw [ofItems, List.map_cons, ih]

theorem valueOfItems_eq_map (items : List Tree) : valueOfItems items = items.map value := by
  induction items with
  | nil => rw [valueOfItems, List.map_nil]
  | cons item items ih => rw [valueOfItems, List.map_cons, ih]

end Tree

/-! ## Reordering -/

section Reordering

variable (order : List (String × Value) → List (String × Value))

mutual

/-- Reorder the members of every object, from the inside out. -/
def reorder : Value → Value
  | .null => .null
  | .bool flag => .bool flag
  | .number integer => .number integer
  | .string text => .string text
  | .array items => .array (reorderItems items)
  | .object fields => .object (order (reorderFields fields))

def reorderItems : List Value → List Value
  | [] => []
  | item :: rest => reorder item :: reorderItems rest

def reorderFields : List (String × Value) → List (String × Value)
  | [] => []
  | (key, value) :: rest => (key, reorder value) :: reorderFields rest

end

theorem reorderFields_eq_map (fields : List (String × Value)) :
    reorderFields order fields = fields.map fun field => (field.1, reorder order field.2) := by
  induction fields with
  | nil => rw [reorderFields, List.map_nil]
  | cons field fields ih => rw [reorderFields, List.map_cons, ih]

theorem reorderItems_eq_map (items : List Value) :
    reorderItems order items = items.map (reorder order) := by
  induction items with
  | nil => rw [reorderItems, List.map_nil]
  | cons item items ih => rw [reorderItems, List.map_cons, ih]

theorem sortMembers_eq_of_perm {first second : List (String × Value)} (perm : first.Perm second)
    (distinct : (second.map Prod.fst).Nodup) : sortMembers first = sortMembers second := by
  have keys := (perm.map Prod.fst).nodup_iff
  exact Ascending.eq_of_perm ((sortMembers_perm first).trans (perm.trans (sortMembers_perm _).symm))
    (sortMembers_ascending (keys.mpr distinct)) (sortMembers_ascending distinct)

/-- The tree of a reordered value: it says the same and is as strict. -/
def Keeps (bound : Nat) (tree : Tree) : Prop :=
  (Tree.ofValue (reorder order tree.value)).Strict bound ∧
    (Tree.ofValue (reorder order tree.value)).value = tree.value

variable {order}

mutual

/-- Reordering a strict document keeps it strict and keeps what it says. -/
theorem keeps_of_strict (perm : ∀ fields, (order fields).Perm fields) :
    ∀ (tree : Tree) (bound : Nat), tree.Strict bound → Keeps order bound tree
  | .null, bound, strict => ⟨strict, rfl⟩
  | .bool flag, bound, strict => ⟨strict, rfl⟩
  | .string text, bound, strict => ⟨strict, rfl⟩
  | .number number, bound, strict => by
      have integral := Tree.strict_number.mp strict
      have same : (Tree.ofValue (reorder order (Tree.number number).value)) =
          .number (.ofInt number.integer) := rfl
      rw [Keeps, same, Tree.strict_number, NumberToken.integral_ofInt]
      refine ⟨integral.2.2, ?_⟩
      rw [Tree.value, NumberToken.integer_ofInt, Tree.value]
  | .array items, 0, strict => absurd strict (Tree.not_strict_array_zero items)
  | .object members, 0, strict => absurd strict (Tree.not_strict_object_zero members)
  | .array items, bound + 1, strict => by
      have kept := keeps_of_strictItems perm items bound (Tree.strict_array.mp strict)
      have same : Tree.ofValue (reorder order (Tree.array items).value) =
          .array (items.map fun item => Tree.ofValue (reorder order item.value)) := by
        rw [Tree.value, reorder, Tree.ofValue, Tree.ofItems_eq_map, reorderItems_eq_map,
          Tree.valueOfItems_eq_map, List.map_map, List.map_map]
        rfl
      rw [Keeps, same, Tree.strict_array]
      constructor
      · intro item member
        obtain ⟨other, listed, rfl⟩ := List.mem_map.mp member
        exact (kept other listed).1
      · rw [Tree.value, Tree.value, Tree.valueOfItems_eq_map, Tree.valueOfItems_eq_map,
          List.map_map]
        congr 1
        exact List.map_congr_left fun item listed => (kept item listed).2
  | .object members, bound + 1, strict => by
      obtain ⟨distinct, strict⟩ := Tree.strict_object.mp strict
      have kept := keeps_of_strictMembers perm members bound strict
      -- the members are permuted twice, by key and by the given order
      have permuted : (Tree.ofFields (order (reorderFields order
          (sortMembers (Tree.valueOfMembers members))))).Perm
            (members.map fun member => (member.1, Tree.ofValue (reorder order member.2.value))) := by
        have inner := (sortMembers_perm (Tree.valueOfMembers members)).map fun field =>
          (field.1, reorder order field.2)
        have outer := ((perm _).trans inner).map fun field => (field.1, Tree.ofValue field.2)
        rw [Tree.ofFields_eq_map, reorderFields_eq_map]
        refine outer.trans (.of_eq ?_)
        rw [Tree.valueOfMembers_eq_map, List.map_map, List.map_map]
        rfl
      have same : Tree.ofValue (reorder order (Tree.object members).value) =
          .object (Tree.ofFields (order (reorderFields order
            (sortMembers (Tree.valueOfMembers members))))) := rfl
      have keys : ((members.map fun member => (member.1, Tree.ofValue (reorder order
          member.2.value))).map Prod.fst) = members.map Prod.fst := by
        rw [List.map_map]
        rfl
      rw [Keeps, same, Tree.strict_object]
      refine ⟨⟨?_, ?_⟩, ?_⟩
      · rw [(permuted.map Prod.fst).nodup_iff, keys]
        exact distinct
      · intro member listed
        obtain ⟨other, held, rfl⟩ := List.mem_map.mp (permuted.mem_iff.mp listed)
        exact (kept other held).1
      · have values : (Tree.valueOfMembers (Tree.ofFields (order (reorderFields order
            (sortMembers (Tree.valueOfMembers members)))))).Perm (Tree.valueOfMembers members) := by
          rw [Tree.valueOfMembers_eq_map]
          refine (permuted.map _).trans (.of_eq ?_)
          rw [List.map_map, Tree.valueOfMembers_eq_map]
          refine List.map_congr_left fun member listed => ?_
          exact Prod.ext rfl (kept member listed).2
        have valueKeys : ((Tree.valueOfMembers members).map Prod.fst).Nodup := by
          rw [Tree.map_fst_valueOfMembers]
          exact distinct
        rw [Tree.value, Tree.value, sortMembers_eq_of_perm values valueKeys]

theorem keeps_of_strictItems (perm : ∀ fields, (order fields).Perm fields) :
    ∀ (items : List Tree) (bound : Nat), (∀ item ∈ items, item.Strict bound) →
      ∀ item ∈ items, Keeps order bound item
  | [], _, _ => List.forall_mem_nil _
  | item :: items, bound, strict =>
      List.forall_mem_cons.mpr ⟨keeps_of_strict perm item bound (strict item List.mem_cons_self),
        keeps_of_strictItems perm items bound fun other member =>
          strict other (List.mem_cons_of_mem _ member)⟩

theorem keeps_of_strictMembers (perm : ∀ fields, (order fields).Perm fields) :
    ∀ (members : List (String × Tree)) (bound : Nat), (∀ member ∈ members, member.2.Strict bound) →
      ∀ member ∈ members, Keeps order bound member.2
  | [], _, _ => List.forall_mem_nil _
  | (_, value) :: members, bound, strict =>
      List.forall_mem_cons.mpr ⟨keeps_of_strict perm value bound (strict _ List.mem_cons_self),
        keeps_of_strictMembers perm members bound fun other member =>
          strict other (List.mem_cons_of_mem _ member)⟩

end

end Reordering

mutual

theorem reorder_id : ∀ value : Value, reorder id value = value
  | .null => rfl
  | .bool _ => rfl
  | .number _ => rfl
  | .string _ => rfl
  | .array items => by rw [reorder, reorderItems_id items]
  | .object fields => by rw [reorder, reorderFields_id fields, id]

theorem reorderItems_id : ∀ items : List Value, reorderItems id items = items
  | [] => rfl
  | item :: items => by rw [reorderItems, reorder_id item, reorderItems_id items]

theorem reorderFields_id : ∀ fields : List (String × Value), reorderFields id fields = fields
  | [] => rfl
  | (key, value) :: fields => by rw [reorderFields, reorder_id value, reorderFields_id fields]

end

/-- The canonical order of members. -/
def utf16Order (fields : List (String × Value)) : List (String × Value) :=
  fields.insertionSort fun first second => utf16Units first.1 ≤ utf16Units second.1

mutual

theorem canonicalOrder_eq : ∀ value : Value, canonicalOrder value = reorder utf16Order value
  | .null => rfl
  | .bool _ => rfl
  | .number _ => rfl
  | .string _ => rfl
  | .array items => by rw [canonicalOrder, reorder, canonicalItems_eq items]
  | .object fields => by rw [canonicalOrder, reorder, canonicalFields_eq fields, utf16Order]

theorem canonicalItems_eq : ∀ items : List Value, canonicalItems items = reorderItems utf16Order items
  | [] => rfl
  | item :: items => by
      rw [canonicalItems, reorderItems, canonicalOrder_eq item, canonicalItems_eq items]

theorem canonicalFields_eq : ∀ fields : List (String × Value),
    canonicalFields fields = reorderFields utf16Order fields
  | [] => rfl
  | (key, value) :: fields => by
      rw [canonicalFields, reorderFields, canonicalOrder_eq value, canonicalFields_eq fields]

end

end Reproit.Json
