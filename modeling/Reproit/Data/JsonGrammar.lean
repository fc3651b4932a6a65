/-
# The JSON grammar

JSON texts as a relation, apart from any reader: a tree is what a text says, with every
number kept as the token that was written, and `Writes` relates a tree to its spellings.
Blanks may stand around every value and colon, strings may escape any character, and
numbers may have fractions and exponents.
-/

import Reproit.Data.Codec

namespace Reproit.Json

/-! ## Number tokens -/

/-- One or more digits. -/
def Digits (text : List Char) : Prop := text ≠ [] ∧ ∀ c ∈ text, c.isDigit

/-- The fraction of a number, which may be missing. -/
inductive Fraction : List Char → Prop
  | missing : Fraction []
  | given {digits : List Char} (all : Digits digits) : Fraction ('.' :: digits)

/-- The exponent of a number, which may be missing. -/
inductive Exponent : List Char → Prop
  | missing : Exponent []
  | given {mark : Char} {sign digits : List Char} (marked : mark = 'e' ∨ mark = 'E')
      (signed : sign = [] ∨ sign = ['+'] ∨ sign = ['-']) (all : Digits digits) :
      Exponent (mark :: (sign ++ digits))

/-- A number token: a sign, an integer without a superfluous zero, a fraction and an
exponent. -/
inductive IsNumber : List Char → Prop
  | parts {sign integer fraction exponent : List Char} (signed : sign = [] ∨ sign = ['-'])
      (all : Digits integer) (plain : integer.head? = some '0' → integer = ['0'])
      (fractional : Fraction fraction) (scaled : Exponent exponent) :
      IsNumber (sign ++ (integer ++ (fraction ++ exponent)))

/-- A well-formed number token. -/
structure NumberToken where
  token : List Char
  written : IsNumber token

namespace NumberToken

/-- The integer of a token without fraction and exponent. -/
def integer (number : NumberToken) : Int :=
  if number.token.head? = some '-' then -(Nat.ofDigitChars 10 number.token.tail 0 : Int)
  else Nat.ofDigitChars 10 number.token 0

/-- The token is an exact integer: without fraction and exponent, no negative zero, and
within the range that every reader keeps. -/
def Integral (number : NumberToken) : Prop :=
  (∀ c ∈ number.token, c ≠ '.' ∧ c ≠ 'e' ∧ c ≠ 'E') ∧ number.token ≠ ['-', '0'] ∧
    number.integer.natAbs ≤ maxExactInteger

instance (number : NumberToken) : Decidable number.Integral :=
  inferInstanceAs (Decidable ((∀ c ∈ number.token, _) ∧ _))

end NumberToken

/-! ## Strings -/

/-- The four hexadecimal digits of a code, of either case. -/
inductive HexFour : List Char → Nat → Prop
  | digits {first second third fourth : Char} {a b c d : Nat}
      (first' : escapeHexValue first = some a) (second' : escapeHexValue second = some b)
      (third' : escapeHexValue third = some c) (fourth' : escapeHexValue fourth = some d) :
      HexFour [first, second, third, fourth] (((a * 16 + b) * 16 + c) * 16 + d)

/-- The escapes of one letter. -/
def shortEscapes : List (Char × Char) :=
  [(quote, quote), (backslash, backslash), ('/', '/'), ('b', '\x08'), ('f', '\x0c'),
    ('n', '\x0a'), ('r', '\x0d'), ('t', '\x09')]

/-- The code is half of a surrogate pair. -/
abbrev IsHigh (code : Nat) : Prop := 0xd800 ≤ code ∧ code ≤ 0xdbff

abbrev IsLow (code : Nat) : Prop := 0xdc00 ≤ code ∧ code ≤ 0xdfff

/-- The spellings of the characters of a string. -/
inductive Spells : List Char → List Char → Prop
  | nil : Spells [] []
  | plain {c : Char} {written chars : List Char} (noQuote : c ≠ quote)
      (noEscape : c ≠ backslash) (printed : 32 ≤ c.toNat) (rest : Spells written chars) :
      Spells (c :: written) (c :: chars)
  | short {letter c : Char} {written chars : List Char} (named : (letter, c) ∈ shortEscapes)
      (rest : Spells written chars) : Spells (backslash :: letter :: written) (c :: chars)
  | code {digits written chars : List Char} {code : Nat} (hex : HexFour digits code)
      (scalar : ¬ IsHigh code ∧ ¬ IsLow code) (rest : Spells written chars) :
      Spells (backslash :: 'u' :: (digits ++ written)) (Char.ofNat code :: chars)
  | pair {first second written chars : List Char} {high low : Nat} (hexHigh : HexFour first high)
      (hexLow : HexFour second low) (isHigh : IsHigh high) (isLow : IsLow low)
      (rest : Spells written chars) :
      Spells (backslash :: 'u' :: (first ++ backslash :: 'u' :: (second ++ written)))
        (Char.ofNat (0x10000 + (high - 0xd800) * 0x400 + (low - 0xdc00)) :: chars)

/-! ## Documents -/

/-- What a JSON text says. The members of an object stand in the order of the text. -/
inductive Tree
  | null
  | bool (flag : Bool)
  | number (number : NumberToken)
  | string (text : String)
  | array (items : List Tree)
  | object (members : List (String × Tree))

def Blank (text : List Char) : Prop :=
  ∀ c ∈ text, c = ' ' ∨ c = '\x09' ∨ c = '\x0a' ∨ c = '\x0d'

/-- A text with blanks around it. -/
def Padded (writes : List Char → Prop) (text : List Char) : Prop :=
  ∃ before body after, Blank before ∧ writes body ∧ Blank after ∧
    text = before ++ (body ++ after)

/-- A member of an object: its key, a colon and its value. -/
def Member (key : String) (writes : List Char → Prop) (text : List Char) : Prop :=
  ∃ written between padded, Spells written key.toList ∧ Blank between ∧
    Padded writes padded ∧
      text = quote :: (written ++ quote :: (between ++ ':' :: padded))

mutual

/-- The text spells the tree. -/
def Writes : Tree → List Char → Prop
  | .null => fun text => text = ['n', 'u', 'l', 'l']
  | .bool true => fun text => text = ['t', 'r', 'u', 'e']
  | .bool false => fun text => text = ['f', 'a', 'l', 's', 'e']
  | .number written => fun text => text = written.token
  | .string body => fun text => ∃ written, Spells written body.toList ∧
      text = quote :: (written ++ [quote])
  | .array items => fun text => ∃ inside, text = '[' :: (inside ++ [']']) ∧
      (items = [] ∧ Blank inside ∨ items ≠ [] ∧ WritesItems items (',' :: inside))
  | .object members => fun text => ∃ inside, text = '\x7b' :: (inside ++ ['\x7d']) ∧
      (members = [] ∧ Blank inside ∨ members ≠ [] ∧ WritesMembers members (',' :: inside))

/-- The text spells the items, each with a comma before it. -/
def WritesItems : List Tree → List Char → Prop
  | [] => fun text => text = []
  | item :: rest => fun text => ∃ padded others, Padded (Writes item) padded ∧
      WritesItems rest others ∧ text = ',' :: (padded ++ others)

def WritesMembers : List (String × Tree) → List Char → Prop
  | [] => fun text => text = []
  | (key, value) :: rest => fun text => ∃ before member others, Blank before ∧
      Member key (Writes value) member ∧ WritesMembers rest others ∧
        text = ',' :: (before ++ (member ++ others))

end

/-- The text is a whole document that says the tree. -/
def IsDocument (tree : Tree) (text : List Char) : Prop := Padded (Writes tree) text

/-! ## What a document says -/

namespace Tree

mutual

/-- How deep containers nest. -/
def depth : Tree → Nat
  | .null | .bool _ | .number _ | .string _ => 0
  | .array items => depthItems items + 1
  | .object members => depthMembers members + 1

def depthItems : List Tree → Nat
  | [] => 0
  | item :: rest => max (depth item) (depthItems rest)

def depthMembers : List (String × Tree) → Nat
  | [] => 0
  | (_, value) :: rest => max (depth value) (depthMembers rest)

end

mutual

/-- The keys of every object are distinct. -/
def Distinct : Tree → Prop
  | .null | .bool _ | .number _ | .string _ => True
  | .array items => DistinctItems items
  | .object members => (members.map Prod.fst).Nodup ∧ DistinctMembers members

def DistinctItems : List Tree → Prop
  | [] => True
  | item :: rest => Distinct item ∧ DistinctItems rest

def DistinctMembers : List (String × Tree) → Prop
  | [] => True
  | (_, value) :: rest => Distinct value ∧ DistinctMembers rest

end

mutual

/-- The number tokens from left to right. -/
def numbers : Tree → List NumberToken
  | .null | .bool _ | .string _ => []
  | .number token => [token]
  | .array items => numbersOfItems items
  | .object members => numbersOfMembers members

def numbersOfItems : List Tree → List NumberToken
  | [] => []
  | item :: rest => numbers item ++ numbersOfItems rest

def numbersOfMembers : List (String × Tree) → List NumberToken
  | [] => []
  | (_, value) :: rest => numbers value ++ numbersOfMembers rest

end

mutual

/-- The value of a document with integers: its members in key order. -/
def value : Tree → Value
  | .null => .null
  | .bool flag => .bool flag
  | .number token => .number token.integer
  | .string text => .string text
  | .array items => .array (valueOfItems items)
  | .object members => .object (sortMembers (valueOfMembers members))

def valueOfItems : List Tree → List Value
  | [] => []
  | item :: rest => value item :: valueOfItems rest

def valueOfMembers : List (String × Tree) → List (String × Value)
  | [] => []
  | (key, held) :: rest => (key, value held) :: valueOfMembers rest

end

theorem map_fst_valueOfMembers (members : List (String × Tree)) :
    (valueOfMembers members).map Prod.fst = members.map Prod.fst := by
  induction members with
  | nil => rfl
  | cons member members ih => rw [valueOfMembers, List.map_cons, List.map_cons, ih]

/-- Every number is an exact integer. -/
def Integral (tree : Tree) : Prop := ∀ number ∈ tree.numbers, number.Integral

/-- Distinct keys, exact integers and a bounded depth. -/
structure Strict (tree : Tree) (bound : Nat) : Prop where
  distinct : tree.Distinct
  integral : tree.Integral
  shallow : tree.depth ≤ bound

end Tree

end Reproit.Json
