/-
# Reading exactly the grammar

The strict reader accepts a text exactly when it spells a tree with distinct keys, exact
integers and a bounded depth, and reads the value of the tree.  One half follows the
reader: whatever it reads was spelled.  The other half follows the tree: whatever is
spelled is read, or refused for one of the three reasons.
-/

import Mathlib.Data.List.TakeWhile
import Reproit.Data.JsonGrammar

namespace Reproit.Json

/-! ## Blanks -/

/-- Text that may follow a value: its end, a blank, a comma or a closing bracket. -/
def Ends (text : List Char) : Prop :=
  ∀ c ∈ text.head?, c = ',' ∨ c = ']' ∨ c = '\x7d' ∨ c = ' ' ∨ c = '\x09' ∨ c = '\x0a' ∨
    c = '\x0d'

theorem Blank.nil : Blank [] := List.forall_mem_nil _

theorem Blank.ends_append {blank rest : List Char} (held : Blank blank) (ends : Ends rest) :
    Ends (blank ++ rest) := by
  cases blank with
  | nil => exact ends
  | cons c blank =>
      intro first here
      obtain rfl := Option.some.inj here
      rcases held c List.mem_cons_self with rfl | rfl | rfl | rfl <;> decide

theorem skipWhitespace_append {blank : List Char} (held : Blank blank) (rest : List Char) :
    skipWhitespace (blank ++ rest) = skipWhitespace rest := by
  induction blank with
  | nil => rfl
  | cons c blank ih =>
      rw [List.cons_append, skipWhitespace, if_pos (held c List.mem_cons_self)]
      exact ih fun other member => held other (List.mem_cons_of_mem _ member)

theorem skipWhitespace_cons {c : Char} (rest : List Char)
    (printed : ¬ (c = ' ' ∨ c = '\x09' ∨ c = '\x0a' ∨ c = '\x0d')) :
    skipWhitespace (c :: rest) = c :: rest := by
  rw [skipWhitespace, if_neg printed]

/-- What is skipped is blank. -/
theorem exists_blank (text : List Char) :
    ∃ blank, Blank blank ∧ text = blank ++ skipWhitespace text := by
  induction text with
  | nil => exact ⟨[], .nil, rfl⟩
  | cons c rest ih =>
      by_cases white : c = ' ' ∨ c = '\x09' ∨ c = '\x0a' ∨ c = '\x0d'
      · obtain ⟨blank, held, split⟩ := ih
        refine ⟨c :: blank, ?_, ?_⟩
        · intro other member
          rcases List.mem_cons.mp member with rfl | later
          · exact white
          · exact held other later
        · rw [skipWhitespace, if_pos white, List.cons_append, ← split]
      · exact ⟨[], .nil, (skipWhitespace_cons rest white).symm⟩

/-! ## Numbers -/

theorem not_isDigit_of_ends {rest : List Char} (ends : Ends rest) :
    ∀ c ∈ rest.head?, c.isDigit = false ∧ c ≠ '.' ∧ c ≠ 'e' ∧ c ≠ 'E' := by
  intro c here
  rcases ends c here with rfl | rfl | rfl | rfl | rfl | rfl | rfl <;> decide

/-- Digits end where something else begins. -/
theorem takeWhile_isDigit {digits rest : List Char} (all : ∀ c ∈ digits, c.isDigit)
    (stops : ∀ c ∈ rest.head?, c.isDigit = false) :
    (digits ++ rest).takeWhile Char.isDigit = digits ∧
      (digits ++ rest).dropWhile Char.isDigit = rest := by
  have stop : rest.takeWhile Char.isDigit = [] ∧ rest.dropWhile Char.isDigit = rest := by
    cases rest with
    | nil => exact ⟨rfl, rfl⟩
    | cons c rest =>
        have other := stops c rfl
        exact ⟨List.takeWhile_cons_of_neg (by simp [other]),
          List.dropWhile_cons_of_neg (by simp [other])⟩
  constructor
  · rw [List.takeWhile_append_of_pos all, stop.1, List.append_nil]
  · rw [List.dropWhile_append_of_pos all, stop.2]

/-- The fraction and the exponent start with a mark. -/
theorem head?_fraction_append {fraction exponent rest : List Char} (fractional : Fraction fraction)
    (scaled : Exponent exponent) (ends : Ends rest) :
    (∀ c ∈ (fraction ++ (exponent ++ rest)).head?, c.isDigit = false) ∧
      (fraction ++ exponent = [] ∨ ∃ c, (fraction ++ (exponent ++ rest)).head? = some c ∧
        (c = '.' ∨ c = 'e' ∨ c = 'E') ∧ c ∈ fraction ++ exponent) := by
  cases fractional with
  | given all =>
      refine ⟨fun c here => ?_, .inr ⟨'.', rfl, .inl rfl, List.mem_cons_self⟩⟩
      obtain rfl := Option.some.inj here
      rfl
  | missing =>
      cases scaled with
      | missing => exact ⟨fun c here => (not_isDigit_of_ends ends c here).1, .inl rfl⟩
      | given marked signed all =>
          refine ⟨fun c here => ?_, .inr ⟨_, rfl, .inr marked, List.mem_cons_self⟩⟩
          obtain rfl := Option.some.inj here
          rcases marked with rfl | rfl <;> rfl

/-- The integer with a sign. -/
def signed (sign integer : List Char) : Int :=
  if sign = ['-'] then -(Nat.ofDigitChars 10 integer 0 : Int) else Nat.ofDigitChars 10 integer 0

theorem ne_minus_of_isDigit {c : Char} (digit : c.isDigit) : c ≠ '-' := by
  rintro rfl
  cases digit

/-- How a number with its parts is read. -/
theorem parseNumber_parts {sign integer tail : List Char} (sign' : sign = [] ∨ sign = ['-'])
    (all : Digits integer) (plain : integer.head? = some '0' → integer = ['0'])
    (stops : ∀ c ∈ tail.head?, c.isDigit = false) :
    parseNumber (sign ++ (integer ++ tail)) =
      if tail.head? = some '.' ∨ tail.head? = some 'e' ∨ tail.head? = some 'E' then none
      else if maxExactInteger < Nat.ofDigitChars 10 integer 0 ∨
          (sign = ['-'] ∧ Nat.ofDigitChars 10 integer 0 = 0) then none
      else some (.number (signed sign integer), tail) := by
  obtain ⟨taken, dropped⟩ := takeWhile_isDigit all.2 stops
  obtain ⟨first, others, rfl⟩ := List.exists_cons_of_ne_nil all.1
  have noMinus := ne_minus_of_isDigit (all.2 first List.mem_cons_self)
  have noZero : ¬ (1 < (first :: others).length ∧ (first :: others).head? = some '0') := by
    rintro ⟨long, zero⟩
    rw [plain zero] at long
    exact absurd long (by decide)
  rcases sign' with rfl | rfl
  · have noSign : (first :: others ++ tail).head? ≠ some '-' := by simpa using noMinus
    simp only [parseNumber, List.nil_append, noSign, if_false, taken, dropped, noZero, signed,
      false_and, or_false, reduceCtorEq]
  · have sign : ('-' :: (first :: others ++ tail)).head? = some '-' := rfl
    simp only [parseNumber, List.singleton_append, sign, if_true, List.tail_cons, taken, dropped,
      noZero, if_false, signed, true_and, or_false, reduceCtorEq]

theorem NumberToken.integer_eq {sign integer : List Char} (sign' : sign = [] ∨ sign = ['-'])
    (all : Digits integer) (written : IsNumber (sign ++ (integer ++ ([] ++ [])))) :
    NumberToken.integer ⟨sign ++ (integer ++ ([] ++ [])), written⟩ = signed sign integer := by
  obtain ⟨first, others, rfl⟩ := List.exists_cons_of_ne_nil all.1
  have noMinus := ne_minus_of_isDigit (all.2 first List.mem_cons_self)
  rcases sign' with rfl | rfl
  · simp [NumberToken.integer, signed, noMinus]
  · simp [NumberToken.integer, signed]

theorem natAbs_signed (sign integer : List Char) :
    (signed sign integer).natAbs = Nat.ofDigitChars 10 integer 0 := by
  unfold signed
  split_ifs
  · rw [Int.natAbs_neg, Int.natAbs_natCast]
  · rw [Int.natAbs_natCast]

theorem ofDigitChars_pos {digits : List Char} {start : Nat} (positive : 0 < start) :
    0 < Nat.ofDigitChars 10 digits start := by
  induction digits generalizing start with
  | nil => simpa [Nat.ofDigitChars] using positive
  | cons c digits ih =>
      rw [Nat.ofDigitChars_cons]
      exact ih (by omega)

/-- Without a superfluous zero only zero itself is written as zero. -/
theorem eq_zero_of_ofDigitChars {integer : List Char} (all : Digits integer)
    (plain : integer.head? = some '0' → integer = ['0'])
    (zero : Nat.ofDigitChars 10 integer 0 = 0) : integer = ['0'] := by
  obtain ⟨first, others, rfl⟩ := List.exists_cons_of_ne_nil all.1
  by_cases same : first = '0'
  · exact plain (by rw [same]; rfl)
  · have digit := all.2 first List.mem_cons_self
    simp only [Char.isDigit, Bool.and_eq_true, decide_eq_true_eq] at digit
    have least : 48 ≤ first.toNat := UInt32.le_iff_toNat_le.mp digit.1
    have other : first.toNat ≠ 48 := fun equal => same (Char.toNat_inj.mp equal)
    have base : ('0' : Char).toNat = 48 := rfl
    have positive : 0 < Nat.ofDigitChars 10 others (10 * 0 + (first.toNat - '0'.toNat)) :=
      ofDigitChars_pos (by omega)
    rw [Nat.ofDigitChars_cons] at zero
    omega

/-- A sign and digits hold neither a fraction nor an exponent. -/
theorem no_marks {sign integer : List Char} (sign' : sign = [] ∨ sign = ['-'])
    (all : Digits integer) :
    ∀ c ∈ sign ++ (integer ++ ([] ++ [])), c ≠ '.' ∧ c ≠ 'e' ∧ c ≠ 'E' := by
  intro c member
  simp only [List.append_nil, List.mem_append] at member
  rcases member with held | held
  · rcases sign' with rfl | rfl
    · cases held
    · obtain rfl := List.mem_singleton.mp held
      decide
  · have digit := all.2 c held
    refine ⟨?_, ?_, ?_⟩ <;> rintro rfl <;> cases digit

/-- A sign and digits are an exact integer when they are in range and no negative zero. -/
theorem NumberToken.integral_iff {sign integer : List Char} (sign' : sign = [] ∨ sign = ['-'])
    (all : Digits integer) (plain : integer.head? = some '0' → integer = ['0'])
    (written : IsNumber (sign ++ (integer ++ ([] ++ [])))) :
    NumberToken.Integral ⟨sign ++ (integer ++ ([] ++ [])), written⟩ ↔
      ¬ (maxExactInteger < Nat.ofDigitChars 10 integer 0 ∨
        (sign = ['-'] ∧ Nat.ofDigitChars 10 integer 0 = 0)) := by
  have marks := no_marks sign' all
  have zero : sign ++ (integer ++ ([] ++ [])) = ['-', '0'] ↔
      sign = ['-'] ∧ Nat.ofDigitChars 10 integer 0 = 0 := by
    constructor
    · intro same
      rcases sign' with rfl | rfl
      · obtain ⟨first, others, rfl⟩ := List.exists_cons_of_ne_nil all.1
        have noMinus := ne_minus_of_isDigit (all.2 first List.mem_cons_self)
        simp [noMinus] at same
      · simp only [List.append_nil, List.singleton_append, List.cons.injEq, true_and] at same
        exact ⟨rfl, by rw [same]; decide⟩
    · rintro ⟨rfl, nothing⟩
      rw [eq_zero_of_ofDigitChars all plain nothing]
      rfl
  simp only [NumberToken.Integral, integer_eq sign' all written, natAbs_signed, ne_eq, zero,
    not_or, not_lt]
  constructor
  · intro ⟨_, other, small⟩
    exact ⟨small, other⟩
  · intro ⟨small, other⟩
    exact ⟨marks, other, small⟩

/-- A number token is read exactly when it is an exact integer. -/
theorem parseNumber_token (number : NumberToken) {rest : List Char} (ends : Ends rest) :
    parseNumber (number.token ++ rest) =
      if number.Integral then some (.number number.integer, rest) else none := by
  obtain ⟨token, written⟩ := number
  cases id written with
  | @parts sign integer fraction exponent sign' all plain fractional scaled =>
  obtain ⟨stops, marks⟩ := head?_fraction_append fractional scaled ends
  have read := parseNumber_parts sign' all plain stops
  simp only [List.append_assoc]
  rw [read]
  rcases marks with nothing | ⟨c, here, mark, member⟩
  · obtain ⟨rfl, rfl⟩ := List.append_eq_nil_iff.mp nothing
    have noMark : ¬ (rest.head? = some '.' ∨ rest.head? = some 'e' ∨ rest.head? = some 'E') := by
      have other := not_isDigit_of_ends ends
      rintro (here | here | here)
      · exact (other _ here).2.1 rfl
      · exact (other _ here).2.2.1 rfl
      · exact (other _ here).2.2.2 rfl
    have integral := NumberToken.integral_iff sign' all plain written
    have value := NumberToken.integer_eq sign' all written
    rw [List.nil_append, List.nil_append, if_neg noMark, value]
    by_cases refused : maxExactInteger < Nat.ofDigitChars 10 integer 0 ∨
        (sign = ['-'] ∧ Nat.ofDigitChars 10 integer 0 = 0)
    · rw [if_pos refused, if_neg (fun held => integral.mp held refused)]
    · rw [if_neg refused, if_pos (integral.mpr refused)]
  · have marked : (fraction ++ (exponent ++ rest)).head? = some '.' ∨
        (fraction ++ (exponent ++ rest)).head? = some 'e' ∨
        (fraction ++ (exponent ++ rest)).head? = some 'E' := by
      rw [here]
      simpa using mark
    rw [if_pos marked, if_neg]
    intro integral
    have other := integral.1 c (by simp at member; simp [member])
    rcases mark with rfl | rfl | rfl
    · exact other.1 rfl
    · exact other.2.1 rfl
    · exact other.2.2 rfl

/-- What is read as a number is an exact integer. -/
theorem parseNumber_eq_some {text rest : List Char} {value : Value}
    (read : parseNumber text = some (value, rest)) :
    ∃ number : NumberToken, number.Integral ∧ text = number.token ++ rest ∧
      value = .number number.integer := by
  obtain ⟨sign, unsigned, sign', split, negative⟩ : ∃ sign unsigned,
      (sign = [] ∨ sign = ['-']) ∧ text = sign ++ unsigned ∧
        (if text.head? = some '-' then text.tail else text) = unsigned := by
    by_cases minus : text.head? = some '-'
    · refine ⟨['-'], text.tail, .inr rfl, ?_, if_pos minus⟩
      cases text with
      | nil => cases minus
      | cons c text =>
          rw [List.head?_cons, Option.some.injEq] at minus
          rw [minus]
          rfl
    · exact ⟨[], text, .inl rfl, rfl, if_neg minus⟩
  have parts : unsigned.takeWhile Char.isDigit ++ unsigned.dropWhile Char.isDigit = unsigned :=
    List.takeWhile_append_dropWhile
  have wellFormed : ¬ (unsigned.takeWhile Char.isDigit = [] ∨
      (1 < (unsigned.takeWhile Char.isDigit).length ∧
        (unsigned.takeWhile Char.isDigit).head? = some '0')) := by
    intro malformed
    simp only [parseNumber, negative, if_pos malformed, reduceCtorEq] at read
  rw [not_or, not_and] at wellFormed
  have all : Digits (unsigned.takeWhile Char.isDigit) :=
    ⟨wellFormed.1, fun c member => List.mem_takeWhile_imp member⟩
  have plain : (unsigned.takeWhile Char.isDigit).head? = some '0' →
      unsigned.takeWhile Char.isDigit = ['0'] := by
    intro zero
    have short : ¬ 1 < (unsigned.takeWhile Char.isDigit).length :=
      fun long => wellFormed.2 long zero
    cases digits : unsigned.takeWhile Char.isDigit with
    | nil => exact absurd digits wellFormed.1
    | cons first others =>
        rw [digits] at zero short
        have none : others = [] := by
          rw [← List.length_eq_zero_iff]
          rw [List.length_cons] at short
          omega
        rw [Option.some.inj zero, none]
  have stops : ∀ c ∈ (unsigned.dropWhile Char.isDigit).head?, c.isDigit = false := by
    intro c here
    have first := List.head?_dropWhile_not Char.isDigit unsigned
    rw [Option.mem_def.mp here] at first
    simpa using first
  rw [split, ← parts, parseNumber_parts sign' all plain stops] at read
  split_ifs at read with mark range
  obtain ⟨rfl, rfl⟩ := Prod.mk.inj (Option.some.inj read)
  refine ⟨⟨_, .parts sign' all plain .missing .missing⟩,
    (NumberToken.integral_iff sign' all plain _).mpr range, ?_, ?_⟩
  · rw [split]
    conv_lhs => rw [← parts]
    simp
  · rw [NumberToken.integer_eq sign' all]

/-! ## Strings -/

theorem parseHexFour_eq_some {text rest : List Char} {code : Nat} :
    parseHexFour text = some (code, rest) ↔
      ∃ digits, HexFour digits code ∧ text = digits ++ rest := by
  constructor
  · intro read
    rcases text with _ | ⟨first, _ | ⟨second, _ | ⟨third, _ | ⟨fourth, text⟩⟩⟩⟩
    case cons.cons.cons.cons =>
      simp only [parseHexFour, Option.bind_eq_bind, Option.bind_eq_some_iff] at read
      obtain ⟨a, first', b, second', c, third', d, fourth', same⟩ := read
      obtain ⟨rfl, rfl⟩ := Prod.mk.inj (Option.some.inj same)
      exact ⟨_, .digits first' second' third' fourth', rfl⟩
    all_goals cases read
  · rintro ⟨digits, hex, rfl⟩
    cases hex with
    | digits first second third fourth =>
        simp only [List.cons_append, List.nil_append, parseHexFour, first, second, third, fourth,
          Option.bind_eq_bind, Option.bind_some]

theorem parseUnicode_eq_some {text rest : List Char} {c : Char} :
    parseUnicode text = some (c, rest) ↔
      (∃ digits code, HexFour digits code ∧ ¬ IsHigh code ∧ ¬ IsLow code ∧
        text = digits ++ rest ∧ c = Char.ofNat code) ∨
      ∃ first second high low, HexFour first high ∧ HexFour second low ∧ IsHigh high ∧
        IsLow low ∧ text = first ++ backslash :: 'u' :: (second ++ rest) ∧
        c = Char.ofNat (0x10000 + (high - 0xd800) * 0x400 + (low - 0xdc00)) := by
  constructor
  · intro read
    rw [parseUnicode] at read
    cases hex : parseHexFour text with
    | none =>
        rw [hex] at read
        cases read
    | some found =>
    obtain ⟨code, more⟩ := found
    obtain ⟨digits, spelled, rfl⟩ := parseHexFour_eq_some.mp hex
    rw [hex] at read
    dsimp only at read
    split_ifs at read with low high
    · cases word : expect [backslash, 'u'] more with
      | none =>
          rw [word] at read
          cases read
      | some last =>
      obtain rfl := expect_eq_some.mp word
      rw [word] at read
      dsimp only at read
      cases hexLow : parseHexFour last with
      | none =>
          rw [hexLow] at read
          cases read
      | some found =>
      obtain ⟨second, final⟩ := found
      obtain ⟨others, spelledLow, rfl⟩ := parseHexFour_eq_some.mp hexLow
      rw [hexLow] at read
      dsimp only at read
      split_ifs at read with isLow
      obtain ⟨rfl, rfl⟩ := Prod.mk.inj (Option.some.inj read)
      exact .inr ⟨digits, others, code, second, spelled, spelledLow, high, isLow, rfl, rfl⟩
    · obtain ⟨rfl, rfl⟩ := Prod.mk.inj (Option.some.inj read)
      exact .inl ⟨digits, code, spelled, high, low, rfl, rfl⟩
  · rintro (⟨digits, code, hex, notHigh, notLow, rfl, rfl⟩ |
      ⟨first, second, high, low, hexHigh, hexLow, isHigh, isLow, split, same⟩)
    · have read : parseHexFour (digits ++ rest) = some (code, rest) :=
        parseHexFour_eq_some.mpr ⟨digits, hex, rfl⟩
      rw [parseUnicode, read]
      dsimp only
      rw [if_neg notLow, if_neg notHigh]
    · have read : parseHexFour (first ++ backslash :: 'u' :: (second ++ rest)) =
          some (high, backslash :: 'u' :: (second ++ rest)) :=
        parseHexFour_eq_some.mpr ⟨first, hexHigh, rfl⟩
      have word : expect [backslash, 'u'] (backslash :: 'u' :: (second ++ rest)) =
          some (second ++ rest) := expect_eq_some.mpr rfl
      have readLow : parseHexFour (second ++ rest) = some (low, rest) :=
        parseHexFour_eq_some.mpr ⟨second, hexLow, rfl⟩
      have apart : ¬ (0xdc00 ≤ high ∧ high ≤ 0xdfff) := by
        omega
      rw [split, same, parseUnicode, read]
      dsimp only
      rw [if_neg apart, if_pos isHigh, word]
      dsimp only
      rw [readLow]
      dsimp only
      rw [if_pos isLow]

theorem parseEscape_eq_some {text rest : List Char} {c : Char} :
    parseEscape text = some (c, rest) ↔
      (∃ letter, (letter, c) ∈ shortEscapes ∧ text = letter :: rest) ∨
        ∃ more, text = 'u' :: more ∧ parseUnicode more = some (c, rest) := by
  constructor
  · intro read
    cases text with
    | nil => cases read
    | cons letter more =>
        by_cases unicode : letter = 'u'
        · subst unicode
          exact .inr ⟨more, rfl, read⟩
        · rw [parseEscape] at read
          simp only [unicode, if_false] at read
          split_ifs at read with h₁ h₂ h₃ h₄ h₅ h₆ h₇ h₈
          all_goals
            obtain ⟨rfl, rfl⟩ := Prod.mk.inj (Option.some.inj read)
            exact .inl ⟨letter, by simp [shortEscapes, *], rfl⟩
  · rintro (⟨letter, named, rfl⟩ | ⟨more, rfl, read⟩)
    · simp only [shortEscapes, List.mem_cons, List.not_mem_nil, or_false, Prod.mk.injEq] at named
      rcases named with ⟨rfl, rfl⟩ | ⟨rfl, rfl⟩ | ⟨rfl, rfl⟩ | ⟨rfl, rfl⟩ | ⟨rfl, rfl⟩ |
        ⟨rfl, rfl⟩ | ⟨rfl, rfl⟩ | ⟨rfl, rfl⟩ <;> rfl
    · exact read

theorem parseChars_escape {text more : List Char} {c : Char} (fuel : Nat)
    (escape : parseEscape text = some (c, more)) :
    parseChars (fuel + 1) (backslash :: text) =
      (parseChars fuel more).map fun (chars, last) => (c :: chars, last) := by
  have noQuote : backslash ≠ quote := by decide
  rw [parseChars, if_neg noQuote, if_pos rfl, escape]
  rfl

/-- A spelled body is read up to its closing quotation mark. -/
theorem parseChars_of_spells {written chars : List Char} (spelled : Spells written chars)
    {fuel : Nat} (enough : written.length < fuel) (rest : List Char) :
    parseChars fuel (written ++ quote :: rest) = some (chars, rest) := by
  obtain ⟨fuel, rfl⟩ := Nat.exists_eq_succ_of_ne_zero (Nat.ne_zero_of_lt enough)
  induction spelled generalizing fuel with
  | nil => rw [List.nil_append, parseChars, if_pos rfl]
  | @plain c written chars noQuote noEscape printed _ ih =>
      rw [List.length_cons] at enough
      obtain ⟨fuel, rfl⟩ := Nat.exists_eq_succ_of_ne_zero (by omega : fuel ≠ 0)
      rw [List.cons_append, parseChars, if_neg noQuote, if_neg noEscape,
        if_neg (Nat.not_lt.mpr printed), ih fuel (by omega)]
      rfl
  | @short letter c written chars named _ ih =>
      rw [List.length_cons, List.length_cons] at enough
      obtain ⟨fuel, rfl⟩ := Nat.exists_eq_succ_of_ne_zero (by omega : fuel ≠ 0)
      have escape : parseEscape (letter :: (written ++ quote :: rest)) = some (c, _) :=
        parseEscape_eq_some.mpr (.inl ⟨letter, named, rfl⟩)
      rw [List.cons_append, List.cons_append, parseChars_escape _ escape, ih fuel (by omega)]
      rfl
  | @code digits written chars code hex scalar _ ih =>
      simp only [List.length_cons, List.length_append] at enough
      obtain ⟨fuel, rfl⟩ := Nat.exists_eq_succ_of_ne_zero (by omega : fuel ≠ 0)
      have unicode : parseUnicode (digits ++ (written ++ quote :: rest)) =
          some (Char.ofNat code, written ++ quote :: rest) :=
        parseUnicode_eq_some.mpr (.inl ⟨digits, code, hex, scalar.1, scalar.2, rfl, rfl⟩)
      have escape : parseEscape ('u' :: (digits ++ (written ++ quote :: rest))) =
          some (Char.ofNat code, written ++ quote :: rest) :=
        parseEscape_eq_some.mpr (.inr ⟨_, rfl, unicode⟩)
      rw [List.cons_append, List.cons_append, List.append_assoc, parseChars_escape _ escape,
        ih fuel (by omega)]
      rfl
  | @pair first second written chars high low hexHigh hexLow isHigh isLow _ ih =>
      simp only [List.length_cons, List.length_append] at enough
      obtain ⟨fuel, rfl⟩ := Nat.exists_eq_succ_of_ne_zero (by omega : fuel ≠ 0)
      have unicode := parseUnicode_eq_some.mpr
        (.inr ⟨first, second, high, low, hexHigh, hexLow, isHigh, isLow,
          (rfl : first ++ backslash :: 'u' :: (second ++ (written ++ quote :: rest)) = _), rfl⟩)
      have escape := parseEscape_eq_some.mpr (.inr ⟨_, rfl, unicode⟩)
      rw [List.cons_append, List.cons_append, List.append_assoc, List.cons_append,
        List.cons_append, List.append_assoc, parseChars_escape _ escape, ih fuel (by omega)]
      rfl

/-- What is read as a body was spelled. -/
theorem spells_of_parseChars {fuel : Nat} {text chars rest : List Char}
    (read : parseChars fuel text = some (chars, rest)) :
    ∃ written, Spells written chars ∧ text = written ++ quote :: rest := by
  induction fuel generalizing text chars with
  | zero => cases read
  | succ fuel ih =>
  cases text with
  | nil => cases read
  | cons c text =>
  rw [parseChars] at read
  split_ifs at read with isQuote isEscape control
  · obtain ⟨rfl, rfl⟩ := Prod.mk.inj (Option.some.inj read)
    exact ⟨[], .nil, by rw [isQuote]; rfl⟩
  · obtain ⟨⟨decoded, more⟩, escape, mapped⟩ := Option.bind_eq_some_iff.mp read
    obtain ⟨⟨others, last⟩, body, same⟩ := Option.map_eq_some_iff.mp mapped
    obtain ⟨rfl, rfl⟩ := Prod.mk.inj same
    obtain ⟨written, spelled, split⟩ := ih body
    subst isEscape
    rcases parseEscape_eq_some.mp escape with ⟨letter, named, rfl⟩ | ⟨after, rfl, unicode⟩
    · exact ⟨_, .short named spelled, by rw [split]; rfl⟩
    · rcases parseUnicode_eq_some.mp unicode with
        ⟨digits, code, hex, notHigh, notLow, rfl, rfl⟩ |
        ⟨first, second, high, low, hexHigh, hexLow, isHigh, isLow, start, same⟩
      · refine ⟨_, .code hex ⟨notHigh, notLow⟩ spelled, ?_⟩
        rw [split, List.cons_append, List.cons_append, List.append_assoc]
      · rw [same]
        refine ⟨_, .pair hexHigh hexLow isHigh isLow spelled, ?_⟩
        rw [start, split]
        simp only [List.cons_append, List.append_assoc]
  · obtain ⟨⟨others, last⟩, body, same⟩ := Option.map_eq_some_iff.mp read
    obtain ⟨rfl, rfl⟩ := Prod.mk.inj same
    obtain ⟨written, spelled, split⟩ := ih body
    exact ⟨c :: written, .plain isQuote isEscape (Nat.not_lt.mp control) spelled, by
      rw [split]
      rfl⟩

theorem parseString_eq_some {text rest : List Char} {body : String} :
    parseString text = some (body, rest) ↔
      ∃ written, Spells written body.toList ∧ text = written ++ quote :: rest := by
  constructor
  · intro read
    obtain ⟨⟨chars, last⟩, body, same⟩ := Option.map_eq_some_iff.mp read
    obtain ⟨rfl, rfl⟩ := Prod.mk.inj same
    rw [String.toList_ofList]
    exact spells_of_parseChars body
  · rintro ⟨written, spelled, rfl⟩
    have long : written.length < (written ++ quote :: rest).length + 1 := by
      rw [List.length_append]
      omega
    rw [parseString, parseChars_of_spells spelled long, Option.map_some]
    dsimp only
    rw [String.ofList_toList]

/-! ## Members -/

/-- Keys in strictly ascending order. -/
abbrev Ascending (fields : List (String × Value)) : Prop :=
  (fields.map Prod.fst).Pairwise (· < ·)

/-- Inserting a member keeps the order, and is refused for a key that is present. -/
theorem insertField_spec {key : String} {value : Value} {held : List (String × Value)}
    (ascending : Ascending held) :
    (key ∈ held.map Prod.fst ∧ insertField key value held = none) ∨
      (key ∉ held.map Prod.fst ∧ ∃ inserted, insertField key value held = some inserted ∧
        inserted.Perm ((key, value) :: held) ∧ Ascending inserted) := by
  induction held with
  | nil =>
      exact .inr ⟨List.not_mem_nil, _, rfl, .refl _, List.pairwise_singleton _ _⟩
  | cons field held ih =>
      obtain ⟨other, kept⟩ := field
      rw [Ascending, List.map_cons, List.pairwise_cons] at ascending
      obtain ⟨below, sorted⟩ := ascending
      by_cases same : key = other
      · refine .inl ⟨by rw [same]; exact List.mem_cons_self, ?_⟩
        rw [insertField, if_pos same]
      by_cases less : key < other
      · refine .inr ⟨?_, _, by rw [insertField, if_neg same, if_pos less], .refl _, ?_⟩
        · rw [List.map_cons, List.mem_cons, not_or]
          exact ⟨same, fun later => absurd (below key later) (lt_asymm less)⟩
        · rw [Ascending, List.map_cons, List.map_cons, List.pairwise_cons, List.pairwise_cons]
          refine ⟨fun later member => ?_, below, sorted⟩
          rcases List.mem_cons.mp member with rfl | listed
          · exact less
          · exact less.trans (below later listed)
      · have above : other < key := lt_of_le_of_ne (not_lt.mp less) fun equal => same equal.symm
        rcases ih sorted with ⟨member, refused⟩ | ⟨missing, inserted, done, perm, ordered⟩
        · refine .inl ⟨List.mem_cons_of_mem _ member, ?_⟩
          rw [insertField, if_neg same, if_neg less, refused]
          rfl
        · refine .inr ⟨?_, (other, kept) :: inserted, ?_, ?_, ?_⟩
          · rw [List.map_cons, List.mem_cons, not_or]
            exact ⟨same, missing⟩
          · rw [insertField, if_neg same, if_neg less, done]
            rfl
          · exact (perm.cons _).trans (.swap _ _ _)
          · rw [Ascending, List.map_cons, List.pairwise_cons]
            refine ⟨fun later member => ?_, ordered⟩
            rcases List.mem_cons.mp ((perm.map Prod.fst).mem_iff.mp member) with rfl | listed
            · exact above
            · exact below later listed

/-- Two ascending lists of the same members are equal. -/
theorem Ascending.eq_of_perm {first second : List (String × Value)} (perm : first.Perm second)
    (hfirst : Ascending first) (hsecond : Ascending second) : first = second := by
  rw [Ascending, List.pairwise_map] at hfirst hsecond
  exact perm.eq_of_pairwise (fun a b _ _ ab ba => absurd ab (lt_asymm ba)) hfirst hsecond

theorem foldlM_insertField (fields : List (String × Value)) :
    ∀ held : List (String × Value), Ascending held →
      fields.foldlM (fun held field => insertField field.1 field.2 held) held =
        if ((fields ++ held).map Prod.fst).Nodup then some (sortMembers (fields ++ held))
        else none := by
  induction fields with
  | nil =>
      intro held ascending
      have distinct : ((([] : List (String × Value)) ++ held).map Prod.fst).Nodup :=
        ascending.imp ne_of_lt
      have sorted : sortMembers ([] ++ held) = held :=
        Ascending.eq_of_perm (sortMembers_perm _) (sortMembers_ascending distinct) ascending
      rw [if_pos distinct, sorted]
      rfl
  | cons field fields ih =>
      intro held ascending
      obtain ⟨key, value⟩ := field
      rw [List.foldlM_cons]
      rcases @insertField_spec key value _ ascending with
        ⟨member, refused⟩ | ⟨missing, inserted, done, perm, ordered⟩
      · rw [refused, if_neg]
        · rfl
        · intro distinct
          rw [List.map_append, List.map_cons] at distinct
          have apart := (List.nodup_append.mp distinct).2.2
          exact apart key List.mem_cons_self key member rfl
      · have same : (fields ++ inserted).Perm ((key, value) :: fields ++ held) :=
          (perm.append_left fields).trans List.perm_middle
        have keys := (same.map Prod.fst).nodup_iff
        rw [done, Option.bind_eq_bind, Option.bind_some, ih inserted ordered]
        by_cases distinct : ((fields ++ inserted).map Prod.fst).Nodup
        · have sorted : sortMembers (fields ++ inserted) =
              sortMembers ((key, value) :: fields ++ held) :=
            Ascending.eq_of_perm
              ((sortMembers_perm _).trans (same.trans (sortMembers_perm _).symm))
              (sortMembers_ascending distinct) (sortMembers_ascending (keys.mp distinct))
          rw [if_pos distinct, if_pos (keys.mp distinct), sorted]
        · rw [if_neg distinct, if_neg fun other => distinct (keys.mpr other)]

/-- The members are ordered when their keys are distinct. -/
theorem orderFields_eq (fields : List (String × Value)) :
    orderFields fields =
      if (fields.map Prod.fst).Nodup then some (sortMembers fields) else none := by
  have ordered := foldlM_insertField fields [] List.Pairwise.nil
  rwa [List.append_nil] at ordered

end Reproit.Json
