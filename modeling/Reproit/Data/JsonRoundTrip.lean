/-
# Reading back what was written

The strict reader inverts the compact writer on every ordered document whose
integers are exact and whose nesting is within bounds, and refuses the text of a
document with an integer outside the exact range.  The proof follows the
constructors of a value: strings and numbers first, then containers, whose
members are read one after another up to the closing bracket.
-/

import Reproit.Data.Json

namespace Reproit.Json

/-- An expected word is consumed. -/
theorem expect_append (word text : List Char) : expect word (word ++ text) = some text := by
  induction word with
  | nil => cases text <;> rfl
  | cons c word ih => simp [expect, ih]

/-- A text that goes on after a word. -/
theorem expect_eq_some {word text rest : List Char} :
    expect word text = some rest ↔ text = word ++ rest := by
  constructor
  · intro read
    induction word generalizing text with
    | nil =>
        cases text with
        | nil =>
            cases read
            rfl
        | cons c text =>
            cases read
            rfl
    | cons wanted word ih =>
        cases text with
        | nil => cases read
        | cons c text =>
            rw [expect] at read
            split at read
            · rename_i same
              rw [same, ih read]
              rfl
            · cases read
  · rintro rfl
    exact expect_append word rest

/-! ## Strings -/

theorem parseHexFour_hexText {value : Nat} (small : value < 32) (rest : List Char) :
    parseHexFour (Radix.hexText 4 value ++ rest) = some (value, rest) := by
  have digits : ∀ n < 16, escapeHexValue (Nat.digitChar n) = some n := by decide
  have high := digits (value / 16 % 16) (by omega)
  have low := digits (value % 16) (by omega)
  have zero := digits 0 (by omega)
  have top : value / 16 / 16 = 0 := by omega
  simp only [Radix.hexText, List.nil_append, List.cons_append, top, Nat.zero_mod,
    Nat.zero_div, parseHexFour, high, low, zero, Option.bind_eq_bind, Option.bind_some]
  congr 2
  omega

/-- One escaped character is read back as itself. -/
theorem parseChars_escapeChar (fuel : Nat) (c : Char) (rest : List Char) :
    parseChars (fuel + 1) (escapeChar c ++ rest) =
      (parseChars fuel rest).map fun (chars, last) => (c :: chars, last) := by
  unfold escapeChar
  split_ifs with h₁ h₂ h₃ h₄ h₅ h₆ h₇ h₈
  case pos => subst h₁; simp [parseChars, parseEscape, quote, backslash]
  case pos => subst h₂; simp [parseChars, parseEscape, quote, backslash]
  case pos => subst h₃; simp [parseChars, parseEscape, quote, backslash]
  case pos => subst h₄; simp [parseChars, parseEscape, quote, backslash]
  case pos => subst h₅; simp [parseChars, parseEscape, quote, backslash]
  case pos => subst h₆; simp [parseChars, parseEscape, quote, backslash]
  case pos => subst h₇; simp [parseChars, parseEscape, quote, backslash]
  case pos =>
    have hex := parseHexFour_hexText h₈ rest
    have notLow : ¬ (0xdc00 ≤ c.toNat ∧ c.toNat ≤ 0xdfff) := by omega
    have notHigh : ¬ (0xd800 ≤ c.toNat ∧ c.toNat ≤ 0xdbff) := by omega
    simp [parseChars, parseEscape, parseUnicode, hex, notLow, notHigh, quote, backslash]
  case neg => simp [parseChars, h₁, h₂, h₈]

theorem parseChars_escaped (text rest : List Char) (fuel : Nat) (enough : text.length < fuel) :
    parseChars fuel (text.flatMap escapeChar ++ quote :: rest) = some (text, rest) := by
  induction text generalizing fuel with
  | nil =>
      obtain ⟨fuel, rfl⟩ := Nat.exists_eq_succ_of_ne_zero (by simp at enough; omega : fuel ≠ 0)
      simp [parseChars]
  | cons c text ih =>
      obtain ⟨fuel, rfl⟩ := Nat.exists_eq_succ_of_ne_zero (by simp at enough; omega : fuel ≠ 0)
      rw [List.flatMap_cons, List.append_assoc, parseChars_escapeChar,
        ih fuel (by simp at enough; omega)]
      rfl

theorem length_escapeChar_pos (c : Char) : 0 < (escapeChar c).length := by
  unfold escapeChar
  split_ifs <;> simp

theorem length_le_flatMap_escapeChar (text : List Char) :
    text.length ≤ (text.flatMap escapeChar).length := by
  induction text with
  | nil => simp
  | cons c text ih =>
      have pos := length_escapeChar_pos c
      simp only [List.length_cons, List.flatMap_cons, List.length_append]
      omega

/-- A written string is read back, whatever follows it. -/
theorem parseString_renderString (text : String) (rest : List Char) :
    parseString ((renderString text).tail ++ rest) = some (text, rest) := by
  have bound := length_le_flatMap_escapeChar text.toList
  have read := parseChars_escaped text.toList rest
    ((text.toList.flatMap escapeChar ++ quote :: rest).length + 1)
    (by rw [List.length_append]; omega)
  simp only [parseString, renderString, List.cons_append, List.tail_cons, List.append_assoc,
    List.nil_append] at read ⊢
  rw [read]
  simp [String.ofList_toList]

/-! ## Numbers -/

/-- Text that may follow a value: its end, a comma or a closing bracket. -/
def Closes (text : List Char) : Prop :=
  ∀ c ∈ text.head?, c = ',' ∨ c = ']' ∨ c = '\x7d'

theorem Closes.skipWhitespace {text : List Char} (closes : Closes text) :
    skipWhitespace text = text := by
  cases text with
  | nil => rfl
  | cons c rest =>
      rcases closes c rfl with rfl | rfl | rfl <;> rfl

theorem takeWhile_digits {digits rest : List Char} (all : ∀ c ∈ digits, c.isDigit)
    (closes : Closes rest) :
    (digits ++ rest).takeWhile Char.isDigit = digits ∧
      (digits ++ rest).dropWhile Char.isDigit = rest := by
  have stop : rest.takeWhile Char.isDigit = [] ∧ rest.dropWhile Char.isDigit = rest := by
    cases rest with
    | nil => exact ⟨rfl, rfl⟩
    | cons c rest =>
        rcases closes c rfl with rfl | rfl | rfl <;> exact ⟨rfl, rfl⟩
  constructor
  · rw [List.takeWhile_append_of_pos all, stop.1, List.append_nil]
  · rw [List.dropWhile_append_of_pos all, stop.2]

theorem toDigits_isDigit {magnitude : Nat} :
    ∀ c ∈ Nat.toDigits 10 magnitude, c.isDigit :=
  fun _ member => Nat.isDigit_of_mem_toDigits (by omega) (by omega) member

/-- No leading zero is written except for zero itself. -/
theorem toDigits_head (magnitude : Nat) :
    ¬ (1 < (Nat.toDigits 10 magnitude).length ∧
      (Nat.toDigits 10 magnitude).head? = some '0') := by
  induction magnitude using Nat.strongRecOn with
  | ind magnitude ih =>
      by_cases small : magnitude < 10
      · simp [Nat.toDigits_of_lt_base small]
      · have split := Nat.toDigits_of_base_le (b := 10) (by omega) (Nat.le_of_not_lt small)
        rintro ⟨-, head⟩
        have shorter := ih (magnitude / 10) (by omega)
        rw [split, List.head?_append] at head
        have nonempty : Nat.toDigits 10 (magnitude / 10) ≠ [] := Nat.toDigits_ne_nil
        obtain ⟨first, others, hcons⟩ := List.exists_cons_of_ne_nil nonempty
        rw [hcons] at head shorter
        simp only [List.head?_cons, Option.some_or, Option.some.injEq] at head
        cases others with
        | cons second others => simp [head] at shorter
        | nil =>
            -- a single leading digit zero would make the quotient zero
            have value := Nat.ofDigitChars_ten_toDigits (n := magnitude / 10)
            have zero : Nat.ofDigitChars 10 ['0'] 0 = 0 := by decide
            rw [hcons, head, zero] at value
            omega

/-- The exact integers. -/
def exactInt (integer : Int) : Bool := integer.natAbs ≤ maxExactInteger

theorem head?_ne_of_closes {rest : List Char} (closes : Closes rest) :
    ¬ (rest.head? = some '.' ∨ rest.head? = some 'e' ∨ rest.head? = some 'E') := by
  cases rest with
  | nil => simp
  | cons c rest => rcases closes c rfl with rfl | rfl | rfl <;> simp

theorem toDigits_head_ne_minus (magnitude : Nat) (rest : List Char) :
    (Nat.toDigits 10 magnitude ++ rest).head? ≠ some '-' := by
  obtain ⟨first, others, hcons⟩ :=
    List.exists_cons_of_ne_nil (Nat.toDigits_ne_nil (n := magnitude) (b := 10))
  have digit := toDigits_isDigit first (hcons ▸ List.mem_cons_self)
  rw [hcons]
  intro same
  simp only [List.cons_append, List.head?_cons, Option.some.injEq] at same
  rw [same] at digit
  exact absurd digit (by decide)

/-- A written integer is read back when it is exact and refused otherwise. -/
theorem parseNumber_renderInt (integer : Int) {rest : List Char} (closes : Closes rest) :
    parseNumber (renderInt integer ++ rest) =
      if exactInt integer then some (.number integer, rest) else none := by
  have read : ∀ magnitude : Nat, ((Nat.toDigits 10 magnitude ++ rest).takeWhile Char.isDigit =
      Nat.toDigits 10 magnitude) ∧
      ((Nat.toDigits 10 magnitude ++ rest).dropWhile Char.isDigit = rest) := fun _ =>
    takeWhile_digits toDigits_isDigit closes
  have noHead := toDigits_head
  have noPoint := head?_ne_of_closes closes
  cases integer with
  | ofNat magnitude =>
      have noSign := toDigits_head_ne_minus magnitude rest
      simp only [parseNumber, renderInt, noSign, if_false, (read magnitude).1, (read magnitude).2,
        Nat.toDigits_ne_nil, noHead magnitude, noPoint, or_self, Nat.ofDigitChars_ten_toDigits,
        exactInt, false_and, or_false, decide_eq_true_eq]
      split_ifs with above exact exact
      · exact absurd exact (Nat.not_le_of_lt above)
      · rfl
      · rfl
      · exact absurd (Nat.le_of_not_lt above) exact
  | negSucc magnitude =>
      have sign : ('-' :: Nat.toDigits 10 (magnitude + 1) ++ rest).head? = some '-' := rfl
      have tail : ('-' :: Nat.toDigits 10 (magnitude + 1) ++ rest).tail =
        Nat.toDigits 10 (magnitude + 1) ++ rest := rfl
      simp only [parseNumber, renderInt, sign, if_true, tail, (read _).1, (read _).2,
        Nat.toDigits_ne_nil, noHead, noPoint, or_self, Nat.ofDigitChars_ten_toDigits,
        exactInt, Nat.succ_ne_zero, and_false, or_false, Int.natAbs_negSucc, decide_eq_true_eq,
        if_false]
      split_ifs with above exact exact
      · exact absurd exact (Nat.not_le_of_lt above)
      · rfl
      · rfl
      · exact absurd (Nat.le_of_not_lt above) exact

/-! ## Containers -/

mutual

/-- How deep containers nest. -/
def depth : Value → Nat
  | .null | .bool _ | .number _ | .string _ => 0
  | .array items => depthItems items + 1
  | .object fields => depthFields fields + 1

def depthItems : List Value → Nat
  | [] => 0
  | item :: rest => max (depth item) (depthItems rest)

def depthFields : List (String × Value) → Nat
  | [] => 0
  | (_, value) :: rest => max (depth value) (depthFields rest)

end

mutual

/-- Every integer of the value is exact. -/
def exact : Value → Bool
  | .null | .bool _ | .string _ => true
  | .number integer => exactInt integer
  | .array items => exactItems items
  | .object fields => exactFields fields

def exactItems : List Value → Bool
  | [] => true
  | item :: rest => exact item && exactItems rest

def exactFields : List (String × Value) → Bool
  | [] => true
  | (_, value) :: rest => exact value && exactFields rest

end

/-- A key made of ASCII characters. -/
def AsciiKey (key : String) : Prop := ∀ c ∈ key.toList, c.toNat < 128

mutual

/-- The members of every object have ASCII keys in strictly ascending order, so
that map order and canonical order agree. -/
def Plain : Value → Prop
  | .null | .bool _ | .number _ | .string _ => True
  | .array items => PlainItems items
  | .object fields =>
      (fields.map Prod.fst).Pairwise (· < ·) ∧ (∀ key ∈ fields.map Prod.fst, AsciiKey key) ∧
        PlainFields fields

def PlainItems : List Value → Prop
  | [] => True
  | item :: rest => Plain item ∧ PlainItems rest

def PlainFields : List (String × Value) → Prop
  | [] => True
  | (_, value) :: rest => Plain value ∧ PlainFields rest

end

mutual

/-- The members of every object stand in the order of a map. -/
def Ordered : Value → Prop
  | .null | .bool _ | .number _ | .string _ => True
  | .array items => OrderedItems items
  | .object fields => (fields.map Prod.fst).Pairwise (· < ·) ∧ OrderedFields fields

def OrderedItems : List Value → Prop
  | [] => True
  | item :: rest => Ordered item ∧ OrderedItems rest

def OrderedFields : List (String × Value) → Prop
  | [] => True
  | (_, value) :: rest => Ordered value ∧ OrderedFields rest

end

theorem orderedFields_iff (fields : List (String × Value)) :
    OrderedFields fields ↔ ∀ field ∈ fields, Ordered field.2 := by
  induction fields with
  | nil => simp [OrderedFields]
  | cons field fields ih => simp [OrderedFields, ih]

theorem orderedItems_iff (items : List Value) :
    OrderedItems items ↔ ∀ item ∈ items, Ordered item := by
  induction items with
  | nil => simp [OrderedItems]
  | cons item items ih => simp [OrderedItems, ih]

/-- Inserting after every key that is present appends the member. -/
theorem insertField_of_greatest (key : String) (value : Value) (held : List (String × Value))
    (greatest : ∀ other ∈ held.map Prod.fst, other < key) :
    insertField key value held = some (held ++ [(key, value)]) := by
  induction held with
  | nil => rfl
  | cons field held ih =>
      obtain ⟨other, kept⟩ := field
      have below : other < key := greatest other (by simp)
      have later := ih fun member hmember => greatest member (by simp [hmember])
      simp [insertField, below.ne', below.le.not_gt, later]

/-- Members that are already in order form their own map. -/
theorem orderFields_of_ascending (fields : List (String × Value))
    (ascending : (fields.map Prod.fst).Pairwise (· < ·)) : orderFields fields = some fields := by
  have step : ∀ (later earlier : List (String × Value)),
      ((earlier ++ later).map Prod.fst).Pairwise (· < ·) →
      later.foldlM (fun held field => insertField field.1 field.2 held) earlier =
        some (earlier ++ later) := by
    intro later
    induction later with
    | nil => intro earlier _; simp
    | cons field later ih =>
        intro earlier sorted
        have greatest : ∀ other ∈ earlier.map Prod.fst, other < field.1 := by
          intro other member
          rw [List.map_append, List.map_cons, List.pairwise_append] at sorted
          exact sorted.2.2 other member field.1 List.mem_cons_self
        rw [List.foldlM_cons, insertField_of_greatest _ _ _ greatest, Option.bind_eq_bind,
          Option.bind_some, ih (earlier ++ [field]) (by simpa using sorted)]
        simp
  exact step fields [] (by simpa using ascending)

theorem renderInt_ne_nil (integer : Int) : renderInt integer ≠ [] := by
  cases integer <;> simp [renderInt, Nat.toDigits_ne_nil]

/-- The first character of a written value is neither whitespace nor a closing
bracket, so a reader knows at once that a value follows. -/
theorem head_render (value : Value) : ∃ c rest, render value = c :: rest ∧
    (∀ text, skipWhitespace (c :: text) = c :: text) ∧ c ≠ ']' ∧ c ≠ '\x7d' := by
  have digit : ∀ c : Char, c.isDigit → (∀ text, skipWhitespace (c :: text) = c :: text) ∧
      c ≠ ']' ∧ c ≠ '\x7d' := by
    intro c hdigit
    refine ⟨fun text => ?_, ?_, ?_⟩
    · have ne : ¬ (c = ' ' ∨ c = '\x09' ∨ c = '\x0a' ∨ c = '\x0d') := by
        rintro (rfl | rfl | rfl | rfl) <;> exact absurd hdigit (by decide)
      simp [skipWhitespace, ne]
    all_goals rintro rfl; exact absurd hdigit (by decide)
  cases value with
  | null => exact ⟨_, _, rfl, fun _ => rfl, by decide, by decide⟩
  | bool flag => cases flag <;> exact ⟨_, _, rfl, fun _ => rfl, by decide, by decide⟩
  | string text => exact ⟨_, _, rfl, fun _ => rfl, by decide, by decide⟩
  | array items => exact ⟨_, _, rfl, fun _ => rfl, by decide, by decide⟩
  | object fields => exact ⟨_, _, rfl, fun _ => rfl, by decide, by decide⟩
  | number integer =>
      cases integer with
      | negSucc magnitude => exact ⟨_, _, rfl, fun _ => rfl, by decide, by decide⟩
      | ofNat magnitude =>
          obtain ⟨first, others, hcons⟩ :=
            List.exists_cons_of_ne_nil (Nat.toDigits_ne_nil (n := magnitude) (b := 10))
          exact ⟨first, others, hcons,
            digit first (toDigits_isDigit first (hcons ▸ List.mem_cons_self))⟩

theorem parseValue_number (fuel depth : Nat) (integer : Int) {rest : List Char}
    (closes : Closes rest) :
    parseValue (fuel + 1) depth (renderInt integer ++ rest) =
      if exactInt integer then some (.number integer, rest) else none := by
  rw [← parseNumber_renderInt integer closes]
  cases integer with
  | negSucc magnitude => simp [parseValue, renderInt, skipWhitespace, quote]
  | ofNat magnitude =>
      obtain ⟨first, others, hcons⟩ :=
        List.exists_cons_of_ne_nil (Nat.toDigits_ne_nil (n := magnitude) (b := 10))
      have digit : first.isDigit := toDigits_isDigit first (hcons ▸ List.mem_cons_self)
      have ne : ∀ c : Char, c.isDigit = false → first ≠ c := by
        rintro c none rfl
        rw [digit] at none
        exact absurd none (by decide)
      have white : ¬ (first = ' ' ∨ first = '\x09' ∨ first = '\x0a' ∨ first = '\x0d') := by
        rintro (h | h | h | h)
        all_goals exact ne _ (by decide) h
      simp only [renderInt, hcons, List.cons_append, parseValue, skipWhitespace, white, if_false,
        ne 'n' (by decide), ne 't' (by decide), ne 'f' (by decide), ne quote (by decide),
        ne '[' (by decide), ne '\x7b' (by decide), digit, or_true, if_true]

theorem closes_renderItems (items : List Value) (rest : List Char) :
    Closes (renderItems items ++ ']' :: rest) := by
  cases items <;> simp [Closes, renderItems]

theorem closes_renderFields (fields : List (String × Value)) (rest : List Char) :
    Closes (renderFields fields ++ '\x7d' :: rest) := by
  cases fields <;> simp [Closes, renderFields]

/-- After an opening bracket and the start of a value, the items are read in turn. -/
theorem parseValue_array (fuel d : Nat) {c : Char} {text : List Char}
    (white : skipWhitespace (c :: text) = c :: text) (open' : c ≠ ']') :
    parseValue (fuel + 1) (d + 1) ('[' :: c :: text) =
      (parseValue fuel d (c :: text)).bind fun (first, others) =>
        (parseItems fuel d others).map fun (items, last) => (.array (first :: items), last) := by
  have head : skipWhitespace ('[' :: c :: text) = '[' :: c :: text := rfl
  simp [parseValue, head, white, open', quote]

/-- After an opening brace and the start of a key, the members are read in turn. -/
theorem parseValue_object (fuel d : Nat) (text : List Char) :
    parseValue (fuel + 1) (d + 1) ('\x7b' :: quote :: text) =
      (parseMember fuel d (quote :: text)).bind fun (first, others) =>
        (parseFields fuel d others).bind fun (fields, last) =>
          (orderFields (first :: fields)).map fun ordered => (.object ordered, last) := by
  have head : skipWhitespace ('\x7b' :: quote :: text) = '\x7b' :: quote :: text := rfl
  have white : skipWhitespace (quote :: text) = quote :: text := rfl
  have open' : quote ≠ '\x7d' := by decide
  rw [parseValue, head]
  simp only [white, open', if_false]
  rfl

theorem parseItems_comma (fuel d : Nat) (text : List Char) :
    parseItems (fuel + 1) d (',' :: text) =
      (parseValue fuel d text).bind fun (item, others) =>
        (parseItems fuel d others).map fun (items, last) => (item :: items, last) := by
  simp [parseItems, skipWhitespace]

theorem parseFields_comma (fuel d : Nat) (text : List Char) :
    parseFields (fuel + 1) d (',' :: text) =
      (parseMember fuel d text).bind fun (field, others) =>
        (parseFields fuel d others).map fun (fields, last) => (field :: fields, last) := by
  simp [parseFields, skipWhitespace]

/-- A member is read as its key followed by whatever its value is read as. -/
theorem parseMember_render (fuel d : Nat) (key : String) (value : Value) (rest : List Char) :
    parseMember (fuel + 1) d (renderString key ++ ':' :: render value ++ rest) =
      (parseValue fuel d (render value ++ rest)).map fun (read, last) => ((key, read), last) := by
  have body := parseString_renderString key (':' :: (render value ++ rest))
  have head : renderString key ++ ':' :: render value ++ rest =
      quote :: ((renderString key).tail ++ ':' :: (render value ++ rest)) := by
    simp [renderString]
  have white : ∀ text, skipWhitespace (quote :: text) = quote :: text := fun _ => rfl
  have colon : ∀ text, expect [':'] (skipWhitespace (':' :: text)) = some text := fun _ => rfl
  simp only [head, parseMember, white, if_true, body, Option.bind_some, colon]

mutual

/-- A written value is read back exactly when its integers are exact. -/
theorem parseValue_render : ∀ (value : Value) (fuel d : Nat) (rest : List Char),
    (render value).length ≤ fuel → depth value ≤ d → Plain value → Closes rest →
    parseValue fuel d (render value ++ rest) =
      if exact value then some (value, rest) else none
  | .null, fuel + 1, d, rest, _, _, _, _ => by
      simp [render, parseValue, skipWhitespace, expect, exact]
  | .bool true, fuel + 1, d, rest, _, _, _, _ => by
      simp [render, parseValue, skipWhitespace, expect, exact]
  | .bool false, fuel + 1, d, rest, _, _, _, _ => by
      simp [render, parseValue, skipWhitespace, expect, exact]
  | .number integer, fuel + 1, d, rest, _, _, _, closes => by
      rw [render, parseValue_number fuel d integer closes, exact]
  | .string text, fuel + 1, d, rest, _, _, _, _ => by
      have body := parseString_renderString text rest
      have head : renderString text ++ rest = quote :: ((renderString text).tail ++ rest) := by
        simp [renderString]
      rw [render, head]
      simp [parseValue, skipWhitespace, quote, body, exact]
  | .array [], fuel + 1, d + 1, rest, _, _, _, _ => by
      simp [render, renderItems, parseValue, skipWhitespace, exact, exactItems, quote]
  | .array (first :: others), fuel + 1, d + 1, rest, enough, shallow, plain, _ => by
      simp only [render, renderItems, List.length_cons, List.length_append, List.tail_cons,
        List.cons_append, List.length_nil] at enough
      simp only [depth, depthItems] at shallow
      obtain ⟨c, text, hfirst, hwhite, hbracket, -⟩ := head_render first
      have readFirst := parseValue_render first fuel d (renderItems others ++ ']' :: rest)
        (by omega) (by omega) plain.1 (closes_renderItems others rest)
      have readOthers := parseItems_render others fuel d rest (by omega) (by omega) plain.2
      have head : render (.array (first :: others)) ++ rest =
          '[' :: c :: (text ++ (renderItems others ++ ']' :: rest)) := by
        simp [render, renderItems, hfirst]
      rw [hfirst, List.cons_append] at readFirst
      rw [head, parseValue_array fuel d (hwhite _) hbracket, readFirst]
      cases exactFirst : exact first <;> cases exactOthers : exactItems others <;>
        simp [exact, exactItems, exactFirst, exactOthers, readOthers]
  | .object [], fuel + 1, d + 1, rest, _, _, _, _ => by
      simp [render, renderFields, parseValue, skipWhitespace, exact, exactFields, quote]
  | .object ((key, value) :: others), fuel + 1, d + 1, rest, enough, shallow, plain, _ => by
      simp only [render, renderFields, List.length_cons, List.length_append, List.tail_cons,
        List.cons_append, List.length_nil] at enough
      simp only [depth, depthFields] at shallow
      obtain ⟨fuel, rfl⟩ := Nat.exists_eq_succ_of_ne_zero (by omega : fuel ≠ 0)
      have readValue := parseValue_render value fuel d (renderFields others ++ '\x7d' :: rest)
        (by omega) (by omega) plain.2.2.1 (closes_renderFields others rest)
      have readOthers := parseFields_render others (fuel + 1) d rest (by omega) (by omega)
        plain.2.2.2
      have member := parseMember_render fuel d key value (renderFields others ++ '\x7d' :: rest)
      have ordered := orderFields_of_ascending _ plain.1
      have head : render (.object ((key, value) :: others)) ++ rest =
          '\x7b' :: (renderString key ++ ':' :: render value ++
            (renderFields others ++ '\x7d' :: rest)) := by
        simp [render, renderFields]
      have open' : renderString key ++ ':' :: render value ++
          (renderFields others ++ '\x7d' :: rest) = quote :: ((renderString key).tail ++
            ':' :: render value ++ (renderFields others ++ '\x7d' :: rest)) := by
        simp [renderString]
      rw [open', readValue] at member
      rw [head, open', parseValue_object, member]
      cases exactValue : exact value <;> cases exactOthers : exactFields others <;>
        simp [exact, exactFields, exactValue, exactOthers, readOthers, ordered]
  | .null, 0, _, _, enough, _, _, _ | .bool true, 0, _, _, enough, _, _, _
  | .bool false, 0, _, _, enough, _, _, _ | .string _, 0, _, _, enough, _, _, _
  | .array _, 0, _, _, enough, _, _, _ | .object _, 0, _, _, enough, _, _, _ => by
      simp [render, renderString] at enough
  | .number integer, 0, _, _, enough, _, _, _ => by
      simp [render, renderInt_ne_nil] at enough
  | .array _, _, 0, _, _, shallow, _, _ | .object _, _, 0, _, _, shallow, _, _ => by
      simp [depth] at shallow

theorem parseItems_render : ∀ (items : List Value) (fuel d : Nat) (rest : List Char),
    (renderItems items).length + 1 ≤ fuel → depthItems items ≤ d → PlainItems items →
    parseItems fuel d (renderItems items ++ ']' :: rest) =
      if exactItems items then some (items, rest) else none
  | [], fuel + 1, d, rest, _, _, _ => by
      simp [renderItems, parseItems, skipWhitespace, exactItems]
  | item :: items, fuel + 1, d, rest, enough, shallow, plain => by
      simp only [renderItems, List.length_cons, List.length_append, List.cons_append] at enough
      simp only [depthItems] at shallow
      have readItem := parseValue_render item fuel d (renderItems items ++ ']' :: rest)
        (by omega) (by omega) plain.1 (closes_renderItems items rest)
      have readItems := parseItems_render items fuel d rest (by omega) (by omega) plain.2
      have head : renderItems (item :: items) ++ ']' :: rest =
          ',' :: (render item ++ (renderItems items ++ ']' :: rest)) := by
        simp [renderItems]
      rw [head, parseItems_comma, readItem]
      cases exactItem : exact item <;> cases exactRest : exactItems items <;>
        simp [exactItems, exactItem, exactRest, readItems]
  | _, 0, _, _, enough, _, _ => by simp at enough

theorem parseFields_render : ∀ (fields : List (String × Value)) (fuel d : Nat)
    (rest : List Char),
    (renderFields fields).length + 1 ≤ fuel → depthFields fields ≤ d → PlainFields fields →
    parseFields fuel d (renderFields fields ++ '\x7d' :: rest) =
      if exactFields fields then some (fields, rest) else none
  | [], fuel + 1, d, rest, _, _, _ => by
      simp [renderFields, parseFields, skipWhitespace, exactFields]
  | (key, value) :: fields, fuel + 1, d, rest, enough, shallow, plain => by
      simp only [renderFields, List.length_cons, List.length_append, List.cons_append] at enough
      simp only [depthFields] at shallow
      obtain ⟨fuel, rfl⟩ := Nat.exists_eq_succ_of_ne_zero (by omega : fuel ≠ 0)
      have readValue := parseValue_render value fuel d (renderFields fields ++ '\x7d' :: rest)
        (by omega) (by omega) plain.1 (closes_renderFields fields rest)
      have readFields := parseFields_render fields (fuel + 1) d rest (by omega) (by omega) plain.2
      have member := parseMember_render fuel d key value (renderFields fields ++ '\x7d' :: rest)
      have head : renderFields ((key, value) :: fields) ++ '\x7d' :: rest =
          ',' :: (renderString key ++ ':' :: render value ++
            (renderFields fields ++ '\x7d' :: rest)) := by
        simp [renderFields]
      rw [readValue] at member
      rw [head, parseFields_comma, member]
      cases exactValue : exact value <;> cases exactRest : exactFields fields <;>
        simp [exactFields, exactValue, exactRest, readFields]
  | _, 0, _, _, enough, _, _ => by simp at enough

end

/-- A written document is read back exactly when its integers are exact. -/
theorem parseDocument_render (value : Value) (shallow : depth value ≤ maxDepth)
    (plain : Plain value) :
    parseDocument (render value) = if exact value then some value else none := by
  have read := parseValue_render value ((render value).length + 1) maxDepth [] (by omega) shallow
    plain (by simp [Closes])
  rw [List.append_nil] at read
  rw [parseDocument, read]
  split_ifs <;> simp [skipWhitespace]

/-! ## Canonical order and bytes -/

theorem utf16Units_of_ascii {key : String} (ascii : AsciiKey key) :
    utf16Units key = key.toList.map Char.toNat := by
  unfold utf16Units
  rw [List.map_eq_flatMap]
  apply List.flatMap_congr
  intro c member
  have small := ascii c member
  rw [if_pos (by omega)]

theorem map_toNat_lt {first second : List Char} (lt : first < second) :
    first.map Char.toNat < second.map Char.toNat := by
  induction first generalizing second with
  | nil =>
      cases second with
      | nil => exact absurd lt (lt_irrefl _)
      | cons head tail => simp
  | cons head tail ih =>
      cases second with
      | nil => exact absurd lt (List.not_lt_nil _)
      | cons otherHead otherTail =>
          rw [List.map_cons, List.map_cons, List.cons_lt_cons_iff]
          rcases List.cons_lt_cons_iff.mp lt with heads | ⟨rfl, tails⟩
          · exact .inl (by simpa [Char.lt_def, UInt32.lt_iff_toNat_lt] using heads)
          · exact .inr ⟨rfl, ih tails⟩

theorem utf16Units_lt_of_ascii {first second : String} (hfirst : AsciiKey first)
    (hsecond : AsciiKey second) (lt : first < second) : utf16Units first < utf16Units second := by
  rw [utf16Units_of_ascii hfirst, utf16Units_of_ascii hsecond]
  exact map_toNat_lt (String.lt_iff_toList_lt.mp lt)

mutual

/-- A plain value is already in canonical order. -/
theorem canonicalOrder_of_plain : ∀ (value : Value), Plain value → canonicalOrder value = value
  | .null, _ | .bool _, _ | .number _, _ | .string _, _ => rfl
  | .array items, plain => by
      rw [canonicalOrder, canonicalItems_of_plain items plain]
  | .object fields, ⟨ascending, ascii, plain⟩ => by
      rw [canonicalOrder, canonicalFields_of_plain fields plain]
      congr 1
      apply List.Pairwise.insertionSort_eq
      rw [List.pairwise_map] at ascending
      refine ascending.imp_of_mem fun {first second} hfirst hsecond lt => ?_
      exact (utf16Units_lt_of_ascii (ascii _ (List.mem_map_of_mem hfirst))
        (ascii _ (List.mem_map_of_mem hsecond)) lt).le

theorem canonicalItems_of_plain : ∀ (items : List Value), PlainItems items →
    canonicalItems items = items
  | [], _ => rfl
  | item :: items, ⟨first, others⟩ => by
      rw [canonicalItems, canonicalOrder_of_plain item first, canonicalItems_of_plain items others]

theorem canonicalFields_of_plain : ∀ (fields : List (String × Value)), PlainFields fields →
    canonicalFields fields = fields
  | [], _ => rfl
  | (key, value) :: fields, ⟨first, others⟩ => by
      rw [canonicalFields, canonicalOrder_of_plain value first,
        canonicalFields_of_plain fields others]

end

/-- Text is recovered from its UTF-8 bytes. -/
theorem bytesText_textBytes (text : List Char) : bytesText (textBytes text) = some text := by
  have decoded := List.utf8Decode?_utf8Encode (l := text)
  rw [List.utf8Encode] at decoded
  rw [bytesText, textBytes, decoded]
  simp

theorem canonicalBytes_of_plain {value : Value} (plain : Plain value) :
    canonicalBytes value = textBytes (render value) := by
  rw [canonicalBytes, canonicalOrder_of_plain value plain]

end Reproit.Json
