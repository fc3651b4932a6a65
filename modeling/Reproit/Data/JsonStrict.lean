/-
# Reading exactly the strict documents

The strict reader accepts a text exactly when it spells a tree with distinct keys, exact
integers and a bounded depth, and reads the value of the tree.  One half follows the
tree: whatever is spelled is read, or refused because the tree is not strict.  The other
half follows the reader: whatever it reads was spelled.
-/

import Reproit.Data.JsonReading

namespace Reproit.Json

/-! ## Strict trees -/

namespace Tree

theorem distinctItems_iff (items : List Tree) :
    DistinctItems items ↔ ∀ item ∈ items, item.Distinct := by
  induction items with
  | nil => simp [DistinctItems]
  | cons item items ih => rw [DistinctItems, ih, List.forall_mem_cons]

theorem distinctMembers_iff (members : List (String × Tree)) :
    DistinctMembers members ↔ ∀ member ∈ members, member.2.Distinct := by
  induction members with
  | nil => simp [DistinctMembers]
  | cons member members ih => rw [DistinctMembers, ih, List.forall_mem_cons]

theorem depthItems_le (items : List Tree) (bound : Nat) :
    depthItems items ≤ bound ↔ ∀ item ∈ items, item.depth ≤ bound := by
  induction items with
  | nil => simp [depthItems]
  | cons item items ih => rw [depthItems, max_le_iff, ih, List.forall_mem_cons]

theorem depthMembers_le (members : List (String × Tree)) (bound : Nat) :
    depthMembers members ≤ bound ↔ ∀ member ∈ members, member.2.depth ≤ bound := by
  induction members with
  | nil => simp [depthMembers]
  | cons member members ih => rw [depthMembers, max_le_iff, ih, List.forall_mem_cons]

theorem mem_numbersOfItems {items : List Tree} {number : NumberToken} :
    number ∈ numbersOfItems items ↔ ∃ item ∈ items, number ∈ item.numbers := by
  induction items with
  | nil => simp [numbersOfItems]
  | cons item items ih => rw [numbersOfItems, List.mem_append, ih, List.exists_mem_cons_iff]

theorem mem_numbersOfMembers {members : List (String × Tree)} {number : NumberToken} :
    number ∈ numbersOfMembers members ↔ ∃ member ∈ members, number ∈ member.2.numbers := by
  induction members with
  | nil => simp [numbersOfMembers]
  | cons member members ih => rw [numbersOfMembers, List.mem_append, ih, List.exists_mem_cons_iff]

theorem strict_of_leaf {tree : Tree} {bound : Nat} (distinct : tree.Distinct)
    (noNumbers : tree.numbers = []) (flat : tree.depth = 0) : tree.Strict bound where
  distinct := distinct
  integral := by
    rw [Integral, noNumbers]
    exact List.forall_mem_nil _
  shallow := by
    rw [flat]
    exact Nat.zero_le bound

theorem strict_number {number : NumberToken} {bound : Nat} :
    (Tree.number number).Strict bound ↔ number.Integral := by
  constructor
  · intro strict
    exact strict.integral number (List.mem_singleton.mpr rfl)
  · intro integral
    refine ⟨trivial, ?_, Nat.zero_le bound⟩
    intro other member
    rw [List.mem_singleton.mp member]
    exact integral

theorem strict_array {items : List Tree} {bound : Nat} :
    (Tree.array items).Strict (bound + 1) ↔ ∀ item ∈ items, item.Strict bound := by
  constructor
  · intro ⟨distinct, integral, shallow⟩ item member
    refine ⟨(distinctItems_iff items).mp distinct item member, ?_, ?_⟩
    · exact fun number held => integral number (mem_numbersOfItems.mpr ⟨item, member, held⟩)
    · exact (depthItems_le items bound).mp (Nat.le_of_succ_le_succ shallow) item member
  · intro strict
    refine ⟨(distinctItems_iff items).mpr fun item member => (strict item member).distinct, ?_, ?_⟩
    · intro number held
      obtain ⟨item, member, listed⟩ := mem_numbersOfItems.mp held
      exact (strict item member).integral number listed
    · exact Nat.succ_le_succ ((depthItems_le items bound).mpr fun item member =>
        (strict item member).shallow)

theorem strict_object {members : List (String × Tree)} {bound : Nat} :
    (Tree.object members).Strict (bound + 1) ↔
      (members.map Prod.fst).Nodup ∧ ∀ member ∈ members, member.2.Strict bound := by
  constructor
  · intro ⟨⟨keys, distinct⟩, integral, shallow⟩
    refine ⟨keys, fun member listed => ⟨?_, ?_, ?_⟩⟩
    · exact (distinctMembers_iff members).mp distinct member listed
    · exact fun number held => integral number (mem_numbersOfMembers.mpr ⟨member, listed, held⟩)
    · exact (depthMembers_le members bound).mp (Nat.le_of_succ_le_succ shallow) member listed
  · intro ⟨keys, strict⟩
    refine ⟨⟨keys, (distinctMembers_iff members).mpr fun member listed =>
      (strict member listed).distinct⟩, ?_, ?_⟩
    · intro number held
      obtain ⟨member, listed, found⟩ := mem_numbersOfMembers.mp held
      exact (strict member listed).integral number found
    · exact Nat.succ_le_succ ((depthMembers_le members bound).mpr fun member listed =>
        (strict member listed).shallow)

mutual

/-- What a tree with distinct keys says stands in the order of a map. -/
theorem ordered_value : ∀ tree : Tree, tree.Distinct → Ordered tree.value
  | .null, _ | .bool _, _ | .number _, _ | .string _, _ => trivial
  | .array items, distinct => ordered_valueOfItems items distinct
  | .object members, ⟨keys, distinct⟩ => by
      have keys' : ((valueOfMembers members).map Prod.fst).Nodup := by
        rw [map_fst_valueOfMembers]
        exact keys
      refine ⟨sortMembers_ascending keys', (orderedFields_iff _).mpr fun member listed => ?_⟩
      have ordered := (orderedFields_iff _).mp (ordered_valueOfMembers members distinct)
      exact ordered member ((sortMembers_perm _).mem_iff.mp listed)

theorem ordered_valueOfItems : ∀ items : List Tree, DistinctItems items →
    OrderedItems (valueOfItems items)
  | [], _ => trivial
  | item :: items, ⟨head, tail⟩ => ⟨ordered_value item head, ordered_valueOfItems items tail⟩

theorem ordered_valueOfMembers : ∀ members : List (String × Tree), DistinctMembers members →
    OrderedFields (valueOfMembers members)
  | [], _ => trivial
  | (_, value) :: members, ⟨head, tail⟩ =>
      ⟨ordered_value value head, ordered_valueOfMembers members tail⟩

end

theorem not_strict_array_zero (items : List Tree) : ¬ (Tree.array items).Strict 0 :=
  fun strict => absurd strict.shallow (Nat.not_succ_le_zero _)

theorem not_strict_object_zero (members : List (String × Tree)) :
    ¬ (Tree.object members).Strict 0 :=
  fun strict => absurd strict.shallow (Nat.not_succ_le_zero _)

end Tree

/-! ## Where values start -/

theorem Blank.append {first second : List Char} (hfirst : Blank first) (hsecond : Blank second) :
    Blank (first ++ second) := by
  intro c member
  rcases List.mem_append.mp member with held | held
  · exact hfirst c held
  · exact hsecond c held

/-- The first character of a number. -/
theorem NumberToken.exists_head (number : NumberToken) :
    ∃ c rest, number.token = c :: rest ∧ (c = '-' ∨ c.isDigit) := by
  obtain ⟨token, written⟩ := number
  cases written with
  | @parts sign integer fraction exponent sign' all plain fractional scaled =>
      obtain ⟨first, others, rfl⟩ := List.exists_cons_of_ne_nil all.1
      rcases sign' with rfl | rfl
      · exact ⟨first, _, rfl, .inr (all.2 first List.mem_cons_self)⟩
      · exact ⟨'-', _, rfl, .inl rfl⟩

/-- A character that starts a number starts nothing else. -/
theorem ne_of_startsNumber {c : Char} (start : c = '-' ∨ c.isDigit) {other : Char}
    (apart : other ≠ '-' ∧ other.isDigit = false) : c ≠ other := by
  intro same
  subst same
  rcases start with minus | digit
  · exact apart.1 minus
  · rw [apart.2] at digit
    cases digit

/-- A value starts with a character that is neither blank nor a closing bracket. -/
theorem Writes.exists_head {tree : Tree} {body : List Char} (writes : Writes tree body) :
    ∃ c rest, body = c :: rest ∧ ¬ (c = ' ' ∨ c = '\x09' ∨ c = '\x0a' ∨ c = '\x0d') ∧
      c ≠ ']' ∧ c ≠ '\x7d' := by
  cases tree with
  | null => exact ⟨_, _, writes, by decide, by decide, by decide⟩
  | bool flag => cases flag <;> exact ⟨_, _, writes, by decide, by decide, by decide⟩
  | number number =>
      obtain ⟨c, rest, token, start⟩ := number.exists_head
      have apart := @ne_of_startsNumber c start
      refine ⟨c, rest, Eq.trans writes token, ?_, apart (by decide), apart (by decide)⟩
      rintro (same | same | same | same)
      all_goals exact apart (by decide) same
  | string text =>
      obtain ⟨written, _, split⟩ := writes
      exact ⟨_, _, split, by decide, by decide, by decide⟩
  | array items =>
      obtain ⟨inside, split, _⟩ := writes
      exact ⟨_, _, split, by decide, by decide, by decide⟩
  | object members =>
      obtain ⟨inside, split, _⟩ := writes
      exact ⟨_, _, split, by decide, by decide, by decide⟩

/-- The blanks before a value are skipped up to the value. -/
theorem Writes.skipWhitespace {tree : Tree} {body before : List Char}
    (writes : Writes tree body) (blank : Blank before) (rest : List Char) :
    Json.skipWhitespace (before ++ (body ++ rest)) = body ++ rest := by
  obtain ⟨c, others, rfl, printed, _⟩ := writes.exists_head
  rw [skipWhitespace_append blank, List.cons_append, skipWhitespace_cons _ printed]

theorem parseValue_append {before : List Char} (blank : Blank before) (fuel bound : Nat)
    (text : List Char) : parseValue fuel bound (before ++ text) = parseValue fuel bound text := by
  cases fuel with
  | zero => rw [parseValue, parseValue]
  | succ fuel => rw [parseValue, parseValue, skipWhitespace_append blank]

theorem parseItems_append {before : List Char} (blank : Blank before) (fuel bound : Nat)
    (text : List Char) : parseItems fuel bound (before ++ text) = parseItems fuel bound text := by
  cases fuel with
  | zero => rw [parseItems, parseItems]
  | succ fuel => rw [parseItems, parseItems, skipWhitespace_append blank]

theorem parseMember_append {before : List Char} (blank : Blank before) (fuel bound : Nat)
    (text : List Char) :
    parseMember fuel bound (before ++ text) = parseMember fuel bound text := by
  cases fuel with
  | zero => rw [parseMember, parseMember]
  | succ fuel => rw [parseMember, parseMember, skipWhitespace_append blank]

theorem parseFields_append {before : List Char} (blank : Blank before) (fuel bound : Nat)
    (text : List Char) :
    parseFields fuel bound (before ++ text) = parseFields fuel bound text := by
  cases fuel with
  | zero => rw [parseFields, parseFields]
  | succ fuel => rw [parseFields, parseFields, skipWhitespace_append blank]

theorem ends_bracket (rest : List Char) : Ends (']' :: rest) := by
  intro c here
  exact .inr (.inl (Option.some.inj here).symm)

theorem ends_brace (rest : List Char) : Ends ('\x7d' :: rest) := by
  intro c here
  exact .inr (.inr (.inl (Option.some.inj here).symm))

theorem ends_items {items : List Tree} {text rest : List Char} (written : WritesItems items text)
    (ends : Ends rest) : Ends (text ++ rest) := by
  cases items with
  | nil =>
      obtain rfl : text = [] := written
      exact ends
  | cons item items =>
      obtain ⟨padded, others, _, _, rfl⟩ := written
      intro c here
      exact .inl (Option.some.inj here).symm

theorem ends_members {members : List (String × Tree)} {text rest : List Char}
    (written : WritesMembers members text) (ends : Ends rest) : Ends (text ++ rest) := by
  cases members with
  | nil =>
      obtain rfl : text = [] := written
      exact ends
  | cons member members =>
      obtain ⟨before, spelled, others, _, _, _, rfl⟩ := written
      intro c here
      exact .inl (Option.some.inj here).symm

/-! ## Whatever is spelled -/

/-- A member is read as its key with whatever its value is read as. -/
theorem parseMember_spelled {key : String} {writes : List Char → Prop} {member : List Char}
    (spelled : Member key writes member) (rest : List Char) :
    ∃ before body after, Blank before ∧ writes body ∧ Blank after ∧
      body.length + 1 < member.length ∧
      ∀ fuel bound, parseMember (fuel + 1) bound (member ++ rest) =
        (parseValue fuel bound (body ++ (after ++ rest))).map fun (value, last) =>
          ((key, value), last) := by
  obtain ⟨written, between, padded, chars, blank, ⟨before, body, after, start, writes, finish,
    rfl⟩, rfl⟩ := spelled
  refine ⟨before, body, after, start, writes, finish, ?_, fun fuel bound => ?_⟩
  · simp only [List.length_cons, List.length_append]
    omega
  · have read : parseString (written ++ quote :: (between ++ ':' :: (before ++ (body ++
        (after ++ rest))))) = some (key, between ++ ':' :: (before ++ (body ++ (after ++ rest)))) :=
      parseString_eq_some.mpr ⟨written, chars, rfl⟩
    have colon : skipWhitespace (between ++ ':' :: (before ++ (body ++ (after ++ rest)))) =
        ':' :: (before ++ (body ++ (after ++ rest))) := skipWhitespace_append blank _
    have found : expect [':'] (':' :: (before ++ (body ++ (after ++ rest)))) =
        some (before ++ (body ++ (after ++ rest))) := rfl
    have split : quote :: (written ++ quote :: (between ++ ':' :: (before ++ (body ++ after)))) ++
        rest = quote :: (written ++ quote :: (between ++ ':' :: (before ++ (body ++
          (after ++ rest))))) := by
      simp only [List.cons_append, List.append_assoc]
    have white : ∀ text, skipWhitespace (quote :: text) = quote :: text := fun _ => rfl
    rw [split, parseMember, white]
    dsimp only
    rw [if_pos rfl, read, Option.bind_some]
    dsimp only
    rw [colon, found, Option.bind_some, parseValue_append start]

theorem parseValue_startsNumber (fuel bound : Nat) {c : Char} (start : c = '-' ∨ c.isDigit)
    (rest : List Char) :
    parseValue (fuel + 1) bound (c :: rest) = parseNumber (c :: rest) := by
  have ne := @ne_of_startsNumber c start
  have white : ¬ (c = ' ' ∨ c = '\x09' ∨ c = '\x0a' ∨ c = '\x0d') := by
    rintro (same | same | same | same)
    all_goals exact ne (by decide) same
  rw [parseValue, skipWhitespace_cons _ white]
  dsimp only
  rw [if_neg (ne (by decide)), if_neg (ne (by decide)), if_neg (ne (by decide)),
    if_neg (ne (by decide)), if_neg (ne (by decide)), if_neg (ne (by decide)), if_pos start]

theorem parseValue_bracket (fuel bound : Nat) (text : List Char) :
    parseValue (fuel + 1) (bound + 1) ('[' :: text) =
      match skipWhitespace text with
      | [] => none
      | d :: more =>
          if d = ']' then some (.array [], more)
          else (parseValue fuel bound (d :: more)).bind fun (first, others) =>
            (parseItems fuel bound others).map fun (items, last) =>
              (.array (first :: items), last) := by
  rw [parseValue, skipWhitespace_cons _ (by decide)]
  rfl

theorem parseValue_brace (fuel bound : Nat) (text : List Char) :
    parseValue (fuel + 1) (bound + 1) ('\x7b' :: text) =
      match skipWhitespace text with
      | [] => none
      | d :: more =>
          if d = '\x7d' then some (.object [], more)
          else (parseMember fuel bound (d :: more)).bind fun (first, others) =>
            (parseFields fuel bound others).bind fun (fields, last) =>
              (orderFields (first :: fields)).map fun ordered => (.object ordered, last) := by
  rw [parseValue, skipWhitespace_cons _ (by decide)]
  rfl

/-- After the opening bracket of a list with items the first value is read. -/
theorem parseValue_items (fuel bound : Nat) {item : Tree} {before body : List Char}
    (blank : Blank before) (writes : Writes item body) (rest : List Char) :
    parseValue (fuel + 1) (bound + 1) ('[' :: (before ++ (body ++ rest))) =
      (parseValue fuel bound (body ++ rest)).bind fun (first, others) =>
        (parseItems fuel bound others).map fun (items, last) => (.array (first :: items), last) := by
  rw [parseValue_bracket, writes.skipWhitespace blank]
  obtain ⟨c, more, rfl, _, noBracket, _⟩ := writes.exists_head
  rw [List.cons_append]
  dsimp only
  rw [if_neg noBracket]

/-- After the opening brace of an object with members the first member is read. -/
theorem parseValue_members (fuel bound : Nat) {before : List Char} (blank : Blank before)
    (text : List Char) :
    parseValue (fuel + 1) (bound + 1) ('\x7b' :: (before ++ quote :: text)) =
      (parseMember fuel bound (quote :: text)).bind fun (first, others) =>
        (parseFields fuel bound others).bind fun (fields, last) =>
          (orderFields (first :: fields)).map fun ordered => (.object ordered, last) := by
  rw [parseValue_brace, skipWhitespace_append blank, skipWhitespace_cons _ (by decide)]
  dsimp only
  rw [if_neg (by decide)]

open Classical in
mutual

/-- A spelled tree is read when it is strict and refused when it is not. -/
theorem parseValue_writes : ∀ (tree : Tree) (body rest : List Char) (fuel bound : Nat),
    Writes tree body → Ends rest → body.length < fuel →
    parseValue fuel bound (body ++ rest) =
      if tree.Strict bound then some (tree.value, rest) else none
  | .null, body, rest, fuel + 1, bound, writes, _, _ => by
      have strict : (Tree.null).Strict bound := Tree.strict_of_leaf trivial rfl rfl
      obtain rfl := writes
      rw [if_pos strict, parseValue]
      rfl
  | .bool true, body, rest, fuel + 1, bound, writes, _, _ => by
      have strict : (Tree.bool true).Strict bound := Tree.strict_of_leaf trivial rfl rfl
      obtain rfl := writes
      rw [if_pos strict, parseValue]
      rfl
  | .bool false, body, rest, fuel + 1, bound, writes, _, _ => by
      have strict : (Tree.bool false).Strict bound := Tree.strict_of_leaf trivial rfl rfl
      obtain rfl := writes
      rw [if_pos strict, parseValue]
      rfl
  | .number number, body, rest, fuel + 1, bound, writes, ends, _ => by
      obtain rfl := writes
      have read := parseNumber_token number ends
      obtain ⟨c, others, token, start⟩ := number.exists_head
      rw [token, List.cons_append] at read ⊢
      rw [parseValue_startsNumber fuel bound start, read]
      by_cases integral : number.Integral
      · rw [if_pos integral, if_pos (Tree.strict_number.mpr integral)]
        rfl
      · rw [if_neg integral, if_neg fun strict => integral (Tree.strict_number.mp strict)]
  | .string text, body, rest, fuel + 1, bound, ⟨written, chars, split⟩, _, _ => by
      have read : parseString (written ++ quote :: rest) = some (text, rest) :=
        parseString_eq_some.mpr ⟨written, chars, rfl⟩
      have start : body ++ rest = quote :: (written ++ quote :: rest) := by
        rw [split, List.cons_append, List.append_assoc]
        rfl
      have strict : (Tree.string text).Strict bound := Tree.strict_of_leaf trivial rfl rfl
      rw [if_pos strict, start, parseValue, skipWhitespace_cons _ (by decide)]
      dsimp only
      rw [if_neg (by decide), if_neg (by decide), if_neg (by decide), if_pos rfl, read]
      rfl
  | .array items, body, rest, fuel + 1, 0, ⟨inside, split, _⟩, _, _ => by
      rw [if_neg (Tree.not_strict_array_zero items), split, List.cons_append, parseValue,
        skipWhitespace_cons _ (by decide)]
      rfl
  | .object members, body, rest, fuel + 1, 0, ⟨inside, split, _⟩, _, _ => by
      rw [if_neg (Tree.not_strict_object_zero members), split, List.cons_append, parseValue,
        skipWhitespace_cons _ (by decide)]
      rfl
  | .array [], body, rest, fuel + 1, bound + 1, ⟨inside, split, held⟩, _, _ => by
      obtain ⟨_, blank⟩ | ⟨some, _⟩ := held
      · have start : body ++ rest = '[' :: (inside ++ ']' :: rest) := by
          rw [split, List.cons_append, List.append_assoc]
          rfl
        have close : skipWhitespace (']' :: rest) = ']' :: rest := skipWhitespace_cons _ (by decide)
        rw [if_pos (Tree.strict_array.mpr (List.forall_mem_nil _)), start, parseValue_bracket,
          skipWhitespace_append blank, close]
        rfl
      · exact absurd rfl some
  | .array (item :: items), body, rest, fuel + 1, bound + 1, ⟨inside, split, held⟩, _, enough => by
      obtain ⟨none, _⟩ | ⟨_, padded, others, padding, listed, comma⟩ := held
      · cases none
      obtain rfl : inside = padded ++ others := List.cons_injective comma
      obtain ⟨before, first, after, blank, writes, finish, rfl⟩ := padding
      simp only [split, List.length_cons, List.length_append, List.length_nil] at enough
      have ends : Ends (after ++ (others ++ ']' :: rest)) :=
        finish.ends_append (ends_items listed (ends_bracket rest))
      have readFirst := parseValue_writes item first _ fuel bound writes ends (by omega)
      have readOthers := parseItems_writes items others rest fuel bound listed (by omega)
      have start : body ++ rest =
          '[' :: (before ++ (first ++ (after ++ (others ++ ']' :: rest)))) := by
        simp only [split, List.cons_append, List.append_assoc, List.nil_append]
      rw [start, parseValue_items fuel bound blank writes, readFirst]
      by_cases strict : item.Strict bound
      · rw [if_pos strict, Option.bind_some]
        dsimp only
        rw [parseItems_append finish, readOthers]
        by_cases all : ∀ item ∈ items, item.Strict bound
        · rw [if_pos all, if_pos (Tree.strict_array.mpr (List.forall_mem_cons.mpr ⟨strict, all⟩))]
          rfl
        · rw [if_neg all, if_neg fun whole => all
            (List.forall_mem_cons.mp (Tree.strict_array.mp whole)).2]
          rfl
      · rw [if_neg strict, if_neg fun whole => strict
          (List.forall_mem_cons.mp (Tree.strict_array.mp whole)).1]
        rfl
  | .object [], body, rest, fuel + 1, bound + 1, ⟨inside, split, held⟩, _, _ => by
      obtain ⟨_, blank⟩ | ⟨some, _⟩ := held
      · have start : body ++ rest = '\x7b' :: (inside ++ '\x7d' :: rest) := by
          rw [split, List.cons_append, List.append_assoc]
          rfl
        have close : skipWhitespace ('\x7d' :: rest) = '\x7d' :: rest :=
          skipWhitespace_cons _ (by decide)
        have strict : (Tree.object []).Strict (bound + 1) :=
          Tree.strict_object.mpr ⟨List.nodup_nil, List.forall_mem_nil _⟩
        rw [if_pos strict, start, parseValue_brace, skipWhitespace_append blank, close]
        rfl
      · exact absurd rfl some
  | .object ((key, value) :: members), body, rest, fuel + 1, bound + 1, ⟨inside, split, held⟩, _,
      enough => by
      obtain ⟨none, _⟩ | ⟨_, start, member, others, opening, spelled, listed, comma⟩ := held
      · cases none
      obtain rfl : inside = start ++ (member ++ others) := List.cons_injective comma
      simp only [split, List.length_cons, List.length_append, List.length_nil] at enough
      obtain ⟨fuel, rfl⟩ := Nat.exists_eq_succ_of_ne_zero (by omega : fuel ≠ 0)
      obtain ⟨quoted, head⟩ : ∃ quoted, member = quote :: quoted := by
        obtain ⟨written, between, padded, _, _, _, rfl⟩ := spelled
        exact ⟨_, rfl⟩
      obtain ⟨before, first, after, blank, writes, finish, shorter, member'⟩ :=
        parseMember_spelled spelled (others ++ '\x7d' :: rest)
      have ends : Ends (after ++ (others ++ '\x7d' :: rest)) :=
        finish.ends_append (ends_members listed (ends_brace rest))
      have readFirst := parseValue_writes value first _ fuel bound writes ends (by omega)
      have readOthers := parseFields_writes members others rest (fuel + 1) bound listed (by omega)
      have read := member' fuel bound
      rw [head] at read
      have text : body ++ rest =
          '\x7b' :: (start ++ quote :: (quoted ++ (others ++ '\x7d' :: rest))) := by
        simp only [split, head, List.cons_append, List.append_assoc, List.nil_append]
      rw [text, parseValue_members (fuel + 1) bound opening, ← List.cons_append, read, readFirst]
      by_cases strict : value.Strict bound
      · rw [if_pos strict, Option.map_some, Option.bind_some]
        dsimp only
        rw [parseFields_append finish, readOthers]
        by_cases all : ∀ member ∈ members, member.2.Strict bound
        · rw [if_pos all, Option.bind_some]
          dsimp only
          have keys : (((key, value.value) :: Tree.valueOfMembers members).map Prod.fst).Nodup ↔
              (((key, value) :: members).map Prod.fst).Nodup := by
            rw [← Tree.map_fst_valueOfMembers ((key, value) :: members)]
            rfl
          have members' : ∀ other ∈ (key, value) :: members, other.2.Strict bound :=
            List.forall_mem_cons.mpr ⟨strict, all⟩
          rw [orderFields_eq]
          by_cases distinct : (((key, value) :: members).map Prod.fst).Nodup
          · rw [if_pos (keys.mpr distinct), if_pos (Tree.strict_object.mpr ⟨distinct, members'⟩)]
            rfl
          · rw [if_neg fun held => distinct (keys.mp held),
              if_neg fun whole => distinct (Tree.strict_object.mp whole).1]
            rfl
        · rw [if_neg all, if_neg fun whole => all
            (List.forall_mem_cons.mp (Tree.strict_object.mp whole).2).2]
          rfl
      · rw [if_neg strict, if_neg fun whole => strict
          (List.forall_mem_cons.mp (Tree.strict_object.mp whole).2).1]
        rfl
  | _, _, _, 0, _, _, _, enough => absurd enough (Nat.not_lt_zero _)

theorem parseItems_writes : ∀ (items : List Tree) (text rest : List Char) (fuel bound : Nat),
    WritesItems items text → text.length < fuel →
    parseItems fuel bound (text ++ ']' :: rest) =
      if ∀ item ∈ items, item.Strict bound then some (Tree.valueOfItems items, rest) else none
  | [], text, rest, fuel + 1, bound, written, _ => by
      obtain rfl := written
      rw [if_pos (List.forall_mem_nil _), parseItems]
      rfl
  | item :: items, text, rest, fuel + 1, bound,
      ⟨padded, others, ⟨before, body, after, blank, writes, finish, padding⟩, listed, split⟩,
      enough => by
      simp only [split, padding, List.length_cons, List.length_append] at enough
      have ends : Ends (after ++ (others ++ ']' :: rest)) :=
        finish.ends_append (ends_items listed (ends_bracket rest))
      have readFirst := parseValue_writes item body _ fuel bound writes ends (by omega)
      have readOthers := parseItems_writes items others rest fuel bound listed (by omega)
      have start : text ++ ']' :: rest =
          ',' :: (before ++ (body ++ (after ++ (others ++ ']' :: rest)))) := by
        simp only [split, padding, List.cons_append, List.append_assoc]
      rw [start, parseItems_comma, parseValue_append blank, readFirst]
      by_cases strict : item.Strict bound
      · rw [if_pos strict, Option.bind_some]
        dsimp only
        rw [parseItems_append finish, readOthers]
        by_cases all : ∀ item ∈ items, item.Strict bound
        · have whole : ∀ other ∈ item :: items, other.Strict bound :=
            List.forall_mem_cons.mpr ⟨strict, all⟩
          rw [if_pos all, if_pos whole]
          rfl
        · rw [if_neg all, if_neg fun whole => all fun other member =>
            whole other (List.mem_cons_of_mem _ member)]
          rfl
      · rw [if_neg strict, if_neg fun whole => strict (whole item List.mem_cons_self)]
        rfl
  | _, _, _, 0, _, _, enough => absurd enough (Nat.not_lt_zero _)

theorem parseFields_writes : ∀ (members : List (String × Tree)) (text rest : List Char)
    (fuel bound : Nat), WritesMembers members text → text.length < fuel →
    parseFields fuel bound (text ++ '\x7d' :: rest) =
      if ∀ member ∈ members, member.2.Strict bound then
        some (Tree.valueOfMembers members, rest)
      else none
  | [], text, rest, fuel + 1, bound, written, _ => by
      obtain rfl := written
      rw [if_pos (List.forall_mem_nil _), parseFields]
      rfl
  | (key, value) :: members, text, rest, fuel + 1, bound,
      ⟨before, member, others, blank, spelled, listed, split⟩, enough => by
      simp only [split, List.length_cons, List.length_append] at enough
      obtain ⟨fuel, rfl⟩ := Nat.exists_eq_succ_of_ne_zero (by omega : fuel ≠ 0)
      obtain ⟨start, body, after, opening, writes, finish, shorter, read⟩ :=
        parseMember_spelled spelled (others ++ '\x7d' :: rest)
      have ends : Ends (after ++ (others ++ '\x7d' :: rest)) :=
        finish.ends_append (ends_members listed (ends_brace rest))
      have readFirst := parseValue_writes value body _ fuel bound writes ends (by omega)
      have readOthers := parseFields_writes members others rest (fuel + 1) bound listed (by omega)
      have comma : text ++ '\x7d' :: rest =
          ',' :: (before ++ (member ++ (others ++ '\x7d' :: rest))) := by
        simp only [split, List.cons_append, List.append_assoc]
      rw [comma, parseFields_comma, parseMember_append blank, read, readFirst]
      by_cases strict : value.Strict bound
      · rw [if_pos strict, Option.map_some, Option.bind_some]
        dsimp only
        rw [parseFields_append finish, readOthers]
        by_cases all : ∀ member ∈ members, member.2.Strict bound
        · have whole : ∀ other ∈ (key, value) :: members, other.2.Strict bound :=
            List.forall_mem_cons.mpr ⟨strict, all⟩
          rw [if_pos all, if_pos whole]
          rfl
        · rw [if_neg all, if_neg fun whole => all fun other listed =>
            whole other (List.mem_cons_of_mem _ listed)]
          rfl
      · rw [if_neg strict, if_neg fun whole => strict (whole (key, value) List.mem_cons_self)]
        rfl
  | _, _, _, 0, _, _, enough => absurd enough (Nat.not_lt_zero _)

end

open Classical in
/-- A document is read when its tree is strict and refused when it is not. -/
theorem parseDocument_isDocument {tree : Tree} {text : List Char}
    (document : IsDocument tree text) :
    parseDocument text = if tree.Strict maxDepth then some tree.value else none := by
  obtain ⟨before, body, after, blank, writes, finish, rfl⟩ := document
  have ends : Ends (after ++ []) := finish.ends_append (by intro c here; cases here)
  have read := parseValue_writes tree body (after ++ []) ((before ++ (body ++ after)).length + 1)
    maxDepth writes ends (by simp only [List.length_append]; omega)
  have nothing : skipWhitespace (after ++ []) = [] := skipWhitespace_append finish []
  rw [List.append_nil] at read nothing
  rw [parseDocument, parseValue_append blank, read]
  by_cases strict : tree.Strict maxDepth
  · rw [if_pos strict, if_pos strict, Option.bind_some]
    dsimp only
    rw [if_pos nothing]
  · rw [if_neg strict, if_neg strict]
    rfl

/-! ## Whatever is read -/

/-- What is read as a value was spelled by a strict tree. -/
def ValueSpelled (fuel : Nat) : Prop :=
  ∀ bound text value rest, parseValue fuel bound text = some (value, rest) →
    ∃ (tree : Tree) (before body : List Char), Blank before ∧ Writes tree body ∧
      text = before ++ (body ++ rest) ∧ tree.Strict bound ∧ value = tree.value

def ItemsSpelled (fuel : Nat) : Prop :=
  ∀ bound text values rest, parseItems fuel bound text = some (values, rest) →
    ∃ (items : List Tree) (after spelled : List Char), Blank after ∧ WritesItems items spelled ∧
      text = after ++ (spelled ++ ']' :: rest) ∧ (∀ item ∈ items, item.Strict bound) ∧
        values = Tree.valueOfItems items

/-- What is read as a member was spelled; its value may be followed by any blanks. -/
def MemberSpelled (fuel : Nat) : Prop :=
  ∀ bound text key value rest, parseMember fuel bound text = some ((key, value), rest) →
    ∃ (tree : Tree) (before start : List Char), Blank before ∧
      (∀ after, Blank after → Member key (Writes tree) (start ++ after)) ∧
      text = before ++ (start ++ rest) ∧ tree.Strict bound ∧ value = tree.value

def FieldsSpelled (fuel : Nat) : Prop :=
  ∀ bound text fields rest, parseFields fuel bound text = some (fields, rest) →
    ∃ (members : List (String × Tree)) (after spelled : List Char), Blank after ∧
      WritesMembers members spelled ∧ text = after ++ (spelled ++ '\x7d' :: rest) ∧
        (∀ member ∈ members, member.2.Strict bound) ∧ fields = Tree.valueOfMembers members

theorem itemsSpelled_succ {fuel : Nat} (value : ValueSpelled fuel) (items : ItemsSpelled fuel) :
    ItemsSpelled (fuel + 1) := by
  intro bound text values rest read
  obtain ⟨after, finish, split⟩ := exists_blank text
  rw [parseItems] at read
  cases skipped : skipWhitespace text with
  | nil =>
      rw [skipped] at read
      cases read
  | cons c more =>
  rw [skipped] at read split
  dsimp only at read
  split_ifs at read with close comma
  · obtain ⟨rfl, rfl⟩ := Prod.mk.inj (Option.some.inj read)
    exact ⟨[], after, [], finish, rfl, by rw [split, close]; rfl, List.forall_mem_nil _, rfl⟩
  · obtain ⟨⟨first, others⟩, readFirst, mapped⟩ := Option.bind_eq_some_iff.mp read
    obtain ⟨⟨later, last⟩, readLater, same⟩ := Option.map_eq_some_iff.mp mapped
    obtain ⟨rfl, rfl⟩ := Prod.mk.inj same
    obtain ⟨tree, before, body, blank, writes, start, strict, rfl⟩ := value _ _ _ _ readFirst
    obtain ⟨trees, between, spelled, blank', listed, continued, all, rfl⟩ :=
      items _ _ _ _ readLater
    dsimp only at continued
    refine ⟨tree :: trees, after, ',' :: ((before ++ (body ++ between)) ++ spelled), finish,
      ⟨_, spelled, ⟨before, body, between, blank, writes, blank', rfl⟩, listed, rfl⟩, ?_,
      List.forall_mem_cons.mpr ⟨strict, all⟩, rfl⟩
    rw [split, comma, start, continued]
    simp only [List.cons_append, List.append_assoc]

theorem memberSpelled_succ {fuel : Nat} (value : ValueSpelled fuel) :
    MemberSpelled (fuel + 1) := by
  intro bound text key held rest read
  obtain ⟨before, blank, split⟩ := exists_blank text
  rw [parseMember] at read
  cases skipped : skipWhitespace text with
  | nil =>
      rw [skipped] at read
      cases read
  | cons c more =>
  rw [skipped] at read split
  dsimp only at read
  split_ifs at read with isQuote
  obtain ⟨⟨name, colon⟩, readName, read⟩ := Option.bind_eq_some_iff.mp read
  obtain ⟨others, found, mapped⟩ := Option.bind_eq_some_iff.mp read
  obtain ⟨⟨first, last⟩, readFirst, same⟩ := Option.map_eq_some_iff.mp mapped
  obtain ⟨member, rfl⟩ := Prod.mk.inj same
  obtain ⟨rfl, rfl⟩ := Prod.mk.inj member
  obtain ⟨written, chars, rfl⟩ := parseString_eq_some.mp readName
  obtain ⟨between, blank', colon'⟩ := exists_blank colon
  have marked := expect_eq_some.mp found
  obtain ⟨tree, opening, body, blank'', writes, start, strict, rfl⟩ := value _ _ _ _ readFirst
  refine ⟨tree, before, quote :: (written ++ quote :: (between ++ ':' :: (opening ++ body))),
    blank, ?_, ?_, strict, rfl⟩
  · intro after finish
    refine ⟨written, between, opening ++ (body ++ after), chars, blank',
      ⟨opening, body, after, blank'', writes, finish, rfl⟩, ?_⟩
    simp only [List.cons_append, List.append_assoc]
  · rw [split, isQuote, colon', marked, start]
    simp only [List.cons_append, List.append_assoc, List.nil_append]

theorem fieldsSpelled_succ {fuel : Nat} (member : MemberSpelled fuel)
    (fields : FieldsSpelled fuel) : FieldsSpelled (fuel + 1) := by
  intro bound text values rest read
  obtain ⟨after, finish, split⟩ := exists_blank text
  rw [parseFields] at read
  cases skipped : skipWhitespace text with
  | nil =>
      rw [skipped] at read
      cases read
  | cons c more =>
  rw [skipped] at read split
  dsimp only at read
  split_ifs at read with close comma
  · obtain ⟨rfl, rfl⟩ := Prod.mk.inj (Option.some.inj read)
    exact ⟨[], after, [], finish, rfl, by rw [split, close]; rfl, List.forall_mem_nil _, rfl⟩
  · obtain ⟨⟨⟨key, first⟩, others⟩, readFirst, mapped⟩ := Option.bind_eq_some_iff.mp read
    obtain ⟨⟨later, last⟩, readLater, same⟩ := Option.map_eq_some_iff.mp mapped
    obtain ⟨rfl, rfl⟩ := Prod.mk.inj same
    obtain ⟨tree, before, opening, blank, spelled, start, strict, rfl⟩ :=
      member _ _ _ _ _ readFirst
    obtain ⟨members, between, written, blank', listed, continued, all, rfl⟩ :=
      fields _ _ _ _ readLater
    dsimp only at continued
    refine ⟨(key, tree) :: members, after, ',' :: (before ++ ((opening ++ between) ++ written)),
      finish, ⟨before, opening ++ between, written, blank, spelled between blank', listed, rfl⟩,
      ?_, List.forall_mem_cons.mpr ⟨strict, all⟩, rfl⟩
    rw [split, comma, start, continued]
    simp only [List.cons_append, List.append_assoc]

theorem valueSpelled_succ {fuel : Nat} (value : ValueSpelled fuel) (items : ItemsSpelled fuel)
    (member : MemberSpelled fuel) (fields : FieldsSpelled fuel) : ValueSpelled (fuel + 1) := by
  intro bound text read rest parsed
  obtain ⟨before, blank, split⟩ := exists_blank text
  rw [parseValue] at parsed
  cases skipped : skipWhitespace text with
  | nil =>
      rw [skipped] at parsed
      cases parsed
  | cons c more =>
  rw [skipped] at parsed split
  dsimp only at parsed
  split_ifs at parsed with isNull isTrue isFalse isQuote isBracket isBrace isNumber
  · obtain ⟨last, word, same⟩ := Option.map_eq_some_iff.mp parsed
    obtain ⟨rfl, rfl⟩ := Prod.mk.inj same
    refine ⟨.null, before, _, blank, rfl, ?_, Tree.strict_of_leaf trivial rfl rfl, rfl⟩
    rw [split, isNull, expect_eq_some.mp word]
    rfl
  · obtain ⟨last, word, same⟩ := Option.map_eq_some_iff.mp parsed
    obtain ⟨rfl, rfl⟩ := Prod.mk.inj same
    refine ⟨.bool true, before, _, blank, rfl, ?_, Tree.strict_of_leaf trivial rfl rfl, rfl⟩
    rw [split, isTrue, expect_eq_some.mp word]
    rfl
  · obtain ⟨last, word, same⟩ := Option.map_eq_some_iff.mp parsed
    obtain ⟨rfl, rfl⟩ := Prod.mk.inj same
    refine ⟨.bool false, before, _, blank, rfl, ?_, Tree.strict_of_leaf trivial rfl rfl, rfl⟩
    rw [split, isFalse, expect_eq_some.mp word]
    rfl
  · obtain ⟨⟨body, last⟩, string, same⟩ := Option.map_eq_some_iff.mp parsed
    obtain ⟨rfl, rfl⟩ := Prod.mk.inj same
    obtain ⟨written, chars, rfl⟩ := parseString_eq_some.mp string
    refine ⟨.string body, before, quote :: (written ++ [quote]), blank, ⟨written, chars, rfl⟩, ?_,
      Tree.strict_of_leaf trivial rfl rfl, rfl⟩
    rw [split, isQuote]
    simp only [List.cons_append, List.append_assoc, List.nil_append]
  · cases bound with
    | zero => cases parsed
    | succ bound =>
    obtain ⟨inside, blank', split'⟩ := exists_blank more
    dsimp only at parsed
    cases opened : skipWhitespace more with
    | nil =>
        rw [opened] at parsed
        cases parsed
    | cons d others =>
    rw [opened] at parsed split'
    dsimp only at parsed
    split_ifs at parsed with close
    · obtain ⟨rfl, rfl⟩ := Prod.mk.inj (Option.some.inj parsed)
      refine ⟨.array [], before, '[' :: (inside ++ [']']), blank, ⟨inside, rfl, .inl ⟨rfl, blank'⟩⟩,
        ?_, Tree.strict_array.mpr (List.forall_mem_nil _), rfl⟩
      rw [split, isBracket, split', close]
      simp only [List.cons_append, List.append_assoc, List.nil_append]
    · obtain ⟨⟨first, later⟩, readFirst, mapped⟩ := Option.bind_eq_some_iff.mp parsed
      obtain ⟨⟨values, last⟩, readLater, same⟩ := Option.map_eq_some_iff.mp mapped
      obtain ⟨rfl, rfl⟩ := Prod.mk.inj same
      obtain ⟨tree, opening, body, start, writes, split₁, strict, rfl⟩ := value _ _ _ _ readFirst
      obtain ⟨trees, after, spelled, finish, listed, split₂, all, rfl⟩ := items _ _ _ _ readLater
      dsimp only at split₂
      refine ⟨.array (tree :: trees), before,
        '[' :: ((((inside ++ opening) ++ (body ++ after)) ++ spelled) ++ [']']), blank,
        ⟨_, rfl, .inr ⟨List.cons_ne_nil _ _, _, spelled,
          ⟨inside ++ opening, body, after, blank'.append start, writes, finish, rfl⟩, listed,
          rfl⟩⟩, ?_, Tree.strict_array.mpr (List.forall_mem_cons.mpr ⟨strict, all⟩), rfl⟩
      rw [split, isBracket, split', split₁, split₂]
      simp only [List.cons_append, List.append_assoc, List.nil_append]
  · cases bound with
    | zero => cases parsed
    | succ bound =>
    obtain ⟨inside, blank', split'⟩ := exists_blank more
    dsimp only at parsed
    cases opened : skipWhitespace more with
    | nil =>
        rw [opened] at parsed
        cases parsed
    | cons d others =>
    rw [opened] at parsed split'
    dsimp only at parsed
    split_ifs at parsed with close
    · obtain ⟨rfl, rfl⟩ := Prod.mk.inj (Option.some.inj parsed)
      refine ⟨.object [], before, '\x7b' :: (inside ++ ['\x7d']), blank,
        ⟨inside, rfl, .inl ⟨rfl, blank'⟩⟩, ?_,
        Tree.strict_object.mpr ⟨List.nodup_nil, List.forall_mem_nil _⟩, rfl⟩
      rw [split, isBrace, split', close]
      simp only [List.cons_append, List.append_assoc, List.nil_append]
    · obtain ⟨⟨⟨key, first⟩, later⟩, readFirst, mapped⟩ := Option.bind_eq_some_iff.mp parsed
      obtain ⟨⟨values, last⟩, readLater, mapped⟩ := Option.bind_eq_some_iff.mp mapped
      obtain ⟨ordered, order, same⟩ := Option.map_eq_some_iff.mp mapped
      obtain ⟨rfl, rfl⟩ := Prod.mk.inj same
      obtain ⟨tree, opening, start, blank'', spelled, split₁, strict, rfl⟩ :=
        member _ _ _ _ _ readFirst
      obtain ⟨members, after, written, finish, listed, split₂, all, rfl⟩ :=
        fields _ _ _ _ readLater
      dsimp only at split₂ order
      have keys := Tree.map_fst_valueOfMembers ((key, tree) :: members)
      rw [Tree.valueOfMembers] at keys
      rw [orderFields_eq] at order
      split_ifs at order with distinct
      obtain rfl := Option.some.inj order
      rw [keys] at distinct
      refine ⟨.object ((key, tree) :: members), before,
        '\x7b' :: ((((inside ++ opening) ++ (start ++ after)) ++ written) ++ ['\x7d']), blank,
        ⟨_, rfl, .inr ⟨List.cons_ne_nil _ _, inside ++ opening, start ++ after, written,
          blank'.append blank'', spelled after finish, listed, ?_⟩⟩, ?_,
        Tree.strict_object.mpr ⟨distinct, List.forall_mem_cons.mpr ⟨strict, all⟩⟩, rfl⟩
      · simp only [List.append_assoc]
      · rw [split, isBrace, split', split₁, split₂]
        simp only [List.cons_append, List.append_assoc, List.nil_append]
  · obtain ⟨number, integral, token, rfl⟩ := parseNumber_eq_some parsed
    refine ⟨.number number, before, number.token, blank, rfl, ?_,
      Tree.strict_number.mpr integral, rfl⟩
    rw [split, token]

theorem valueSpelled (fuel : Nat) :
    ValueSpelled fuel ∧ ItemsSpelled fuel ∧ MemberSpelled fuel ∧ FieldsSpelled fuel := by
  induction fuel with
  | zero =>
      refine ⟨?_, ?_, ?_, ?_⟩
      · intro bound text value rest read
        rw [parseValue] at read
        cases read
      · intro bound text values rest read
        rw [parseItems] at read
        cases read
      · intro bound text key value rest read
        rw [parseMember] at read
        cases read
      · intro bound text fields rest read
        rw [parseFields] at read
        cases read
  | succ fuel ih =>
      obtain ⟨value, items, member, fields⟩ := ih
      exact ⟨valueSpelled_succ value items member fields, itemsSpelled_succ value items,
        memberSpelled_succ value, fieldsSpelled_succ member fields⟩

/-- The reader accepts exactly the strict documents and reads their values. -/
theorem parseDocument_eq_some {text : List Char} {value : Value} :
    parseDocument text = some value ↔
      ∃ tree : Tree, IsDocument tree text ∧ tree.Strict maxDepth ∧ value = tree.value := by
  constructor
  · intro read
    obtain ⟨⟨found, rest⟩, parsed, ended⟩ := Option.bind_eq_some_iff.mp read
    dsimp only at ended
    split_ifs at ended with nothing
    obtain rfl := Option.some.inj ended
    obtain ⟨tree, before, body, blank, writes, split, strict, rfl⟩ :=
      (valueSpelled _).1 _ _ _ _ parsed
    obtain ⟨after, finish, rest'⟩ := exists_blank rest
    rw [nothing, List.append_nil] at rest'
    subst rest'
    exact ⟨tree, ⟨before, body, rest, blank, writes, finish, split⟩, strict, rfl⟩
  · intro ⟨tree, document, strict, same⟩
    rw [parseDocument_isDocument document, if_pos strict, same]

end Reproit.Json
