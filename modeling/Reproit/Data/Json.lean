/-
# Integer JSON documents

The JSON fragment of exact integers: values, the compact text that writes them,
the canonical text that also orders the members of every object, and a strict
reader.  The reader refuses fractions, exponents, integers outside the exact
range of a double, duplicate members, deep nesting and trailing text.

Text is a list of characters; `textBytes` and `bytesText` move between text and
its UTF-8 bytes.
-/

import Reproit.Data.Radix
import Mathlib.Data.List.Sort

namespace Reproit.Json

/-- A JSON document without fractional numbers. The members of an object are kept
in the order of their keys, as an ordered map keeps them. -/
inductive Value
  | null
  | bool (flag : Bool)
  | number (integer : Int)
  | string (text : String)
  | array (items : List Value)
  | object (fields : List (String × Value))

/-- The largest integer that every double-based reader keeps exact. -/
def maxExactInteger : Nat := 9007199254740991

/-- Containers may nest this deep in a document that is read. -/
def maxDepth : Nat := 127

abbrev quote : Char := '\x22'
abbrev backslash : Char := '\x5c'

/-! ## Writing -/

/-- One character of a string body. Only the quotation mark, the backslash and the
control characters are escaped, each in its shortest form. -/
def escapeChar (c : Char) : List Char :=
  if c = quote then [backslash, quote]
  else if c = backslash then [backslash, backslash]
  else if c = '\x08' then [backslash, 'b']
  else if c = '\x09' then [backslash, 't']
  else if c = '\x0a' then [backslash, 'n']
  else if c = '\x0c' then [backslash, 'f']
  else if c = '\x0d' then [backslash, 'r']
  else if c.toNat < 32 then backslash :: 'u' :: Radix.hexText 4 c.toNat
  else [c]

def renderString (text : String) : List Char :=
  quote :: text.toList.flatMap escapeChar ++ [quote]

def renderInt : Int → List Char
  | .ofNat magnitude => Nat.toDigits 10 magnitude
  | .negSucc magnitude => '-' :: Nat.toDigits 10 (magnitude + 1)

mutual

/-- The compact text of a value, with the members in the order they are held. -/
def render : Value → List Char
  | .null => ['n', 'u', 'l', 'l']
  | .bool true => ['t', 'r', 'u', 'e']
  | .bool false => ['f', 'a', 'l', 's', 'e']
  | .number integer => renderInt integer
  | .string text => renderString text
  | .array items => '[' :: (renderItems items).tail ++ [']']
  | .object fields => '\x7b' :: (renderFields fields).tail ++ ['\x7d']

/-- Every item with a comma before it; the first comma is dropped by `render`. -/
def renderItems : List Value → List Char
  | [] => []
  | item :: rest => ',' :: render item ++ renderItems rest

def renderFields : List (String × Value) → List Char
  | [] => []
  | (key, value) :: rest =>
      ',' :: renderString key ++ ':' :: render value ++ renderFields rest

end

/-- The UTF-16 code units of a text, which order object members canonically. -/
def utf16Units (text : String) : List Nat :=
  text.toList.flatMap fun c =>
    if c.toNat < 0x10000 then [c.toNat]
    else [0xd800 + (c.toNat - 0x10000) / 0x400, 0xdc00 + (c.toNat - 0x10000) % 0x400]

mutual

/-- Order the members of every object by the UTF-16 code units of their keys. -/
def canonicalOrder : Value → Value
  | .null => .null
  | .bool flag => .bool flag
  | .number integer => .number integer
  | .string text => .string text
  | .array items => .array (canonicalItems items)
  | .object fields =>
      .object ((canonicalFields fields).insertionSort fun first second =>
        utf16Units first.1 ≤ utf16Units second.1)

def canonicalItems : List Value → List Value
  | [] => []
  | item :: rest => canonicalOrder item :: canonicalItems rest

def canonicalFields : List (String × Value) → List (String × Value)
  | [] => []
  | (key, value) :: rest => (key, canonicalOrder value) :: canonicalFields rest

end

/-- The UTF-8 bytes of a text. -/
def textBytes (text : List Char) : List UInt8 :=
  text.flatMap String.utf8EncodeChar

/-- The text whose UTF-8 bytes are given, if there is one. -/
def bytesText (bytes : List UInt8) : Option (List Char) :=
  bytes.toByteArray.utf8Decode?.map Array.toList

/-- The canonical bytes of a value. -/
def canonicalBytes (value : Value) : List UInt8 :=
  textBytes (render (canonicalOrder value))

/-! ## Reading -/

def skipWhitespace : List Char → List Char
  | [] => []
  | c :: rest =>
      if c = ' ' ∨ c = '\x09' ∨ c = '\x0a' ∨ c = '\x0d' then skipWhitespace rest
      else c :: rest

/-- Consume an exact word. -/
def expect : List Char → List Char → Option (List Char)
  | [], text => some text
  | _ :: _, [] => none
  | wanted :: word, c :: rest => if c = wanted then expect word rest else none

/-- The value of one hexadecimal digit of either case. -/
def escapeHexValue (c : Char) : Option Nat :=
  if 'A' ≤ c ∧ c ≤ 'F' then some (c.toNat - 'A'.toNat + 10) else Radix.hexValue c

/-- The four hexadecimal digits of a Unicode escape. -/
def parseHexFour : List Char → Option (Nat × List Char)
  | a :: b :: c :: d :: rest => do
      let a ← escapeHexValue a
      let b ← escapeHexValue b
      let c ← escapeHexValue c
      let d ← escapeHexValue d
      some (((a * 16 + b) * 16 + c) * 16 + d, rest)
  | _ => none

/-- A Unicode escape after its `u`: one scalar value, or a surrogate pair. -/
def parseUnicode (text : List Char) : Option (Char × List Char) :=
  match parseHexFour text with
  | none => none
  | some (first, rest) =>
      if 0xdc00 ≤ first ∧ first ≤ 0xdfff then none
      else if 0xd800 ≤ first ∧ first ≤ 0xdbff then
        match expect [backslash, 'u'] rest with
        | none => none
        | some more =>
            match parseHexFour more with
            | none => none
            | some (second, last) =>
                if 0xdc00 ≤ second ∧ second ≤ 0xdfff then
                  some (Char.ofNat (0x10000 + (first - 0xd800) * 0x400 + (second - 0xdc00)), last)
                else none
      else some (Char.ofNat first, rest)

/-- An escape after its backslash. -/
def parseEscape : List Char → Option (Char × List Char)
  | [] => none
  | c :: rest =>
      if c = quote then some (quote, rest)
      else if c = backslash then some (backslash, rest)
      else if c = '/' then some ('/', rest)
      else if c = 'b' then some ('\x08', rest)
      else if c = 'f' then some ('\x0c', rest)
      else if c = 'n' then some ('\x0a', rest)
      else if c = 'r' then some ('\x0d', rest)
      else if c = 't' then some ('\x09', rest)
      else if c = 'u' then parseUnicode rest
      else none

/-- A string body up to its closing quotation mark. The fuel bounds the characters
that may be read. -/
def parseChars : Nat → List Char → Option (List Char × List Char)
  | 0, _ => none
  | _ + 1, [] => none
  | fuel + 1, c :: rest =>
      if c = quote then some ([], rest)
      else if c = backslash then
        (parseEscape rest).bind fun (decoded, more) =>
          (parseChars fuel more).map fun (chars, last) => (decoded :: chars, last)
      else if c.toNat < 32 then none
      else (parseChars fuel rest).map fun (chars, last) => (c :: chars, last)

def parseString (text : List Char) : Option (String × List Char) :=
  (parseChars (text.length + 1) text).map fun (chars, rest) => (String.ofList chars, rest)

/-- An integer literal without a superfluous zero. A fraction, an exponent, a
negative zero and an integer outside the exact range are refused. -/
def parseNumber (text : List Char) : Option (Value × List Char) :=
  let negative := text.head? = some '-'
  let unsigned := if negative then text.tail else text
  let digits := unsigned.takeWhile Char.isDigit
  let rest := unsigned.dropWhile Char.isDigit
  if digits = [] ∨ (1 < digits.length ∧ digits.head? = some '0') then none
  else if rest.head? = some '.' ∨ rest.head? = some 'e' ∨ rest.head? = some 'E' then none
  else
    let magnitude := Nat.ofDigitChars 10 digits 0
    if maxExactInteger < magnitude ∨ (negative ∧ magnitude = 0) then none
    else some (.number (if negative then -(magnitude : Int) else magnitude), rest)

/-- Insert a member into an ordered map, refusing a key that is present. -/
def insertField (key : String) (value : Value) :
    List (String × Value) → Option (List (String × Value))
  | [] => some [(key, value)]
  | (other, held) :: rest =>
      if key = other then none
      else if key < other then some ((key, value) :: (other, held) :: rest)
      else (insertField key value rest).map fun inserted => (other, held) :: inserted

/-- Build the ordered map of the members read so far. -/
def orderFields (fields : List (String × Value)) : Option (List (String × Value)) :=
  fields.foldlM (fun held field => insertField field.1 field.2 held) []

mutual

/-- One value after optional whitespace. The fuel bounds the recursion and the
depth bounds the containers that may still open. -/
def parseValue : (fuel depth : Nat) → List Char → Option (Value × List Char)
  | 0, _, _ => none
  | fuel + 1, depth, text =>
      match skipWhitespace text with
      | [] => none
      | c :: rest =>
          if c = 'n' then (expect ['u', 'l', 'l'] rest).map fun last => (.null, last)
          else if c = 't' then (expect ['r', 'u', 'e'] rest).map fun last => (.bool true, last)
          else if c = 'f' then
            (expect ['a', 'l', 's', 'e'] rest).map fun last => (.bool false, last)
          else if c = quote then (parseString rest).map fun (body, last) => (.string body, last)
          else if c = '[' then
            match depth with
            | 0 => none
            | depth + 1 =>
                match skipWhitespace rest with
                | [] => none
                | d :: more =>
                    if d = ']' then some (.array [], more)
                    else (parseValue fuel depth (d :: more)).bind fun (first, others) =>
                      (parseItems fuel depth others).map fun (items, last) =>
                        (.array (first :: items), last)
          else if c = '\x7b' then
            match depth with
            | 0 => none
            | depth + 1 =>
                match skipWhitespace rest with
                | [] => none
                | d :: more =>
                    if d = '\x7d' then some (.object [], more)
                    else (parseMember fuel depth (d :: more)).bind fun (first, others) =>
                      (parseFields fuel depth others).bind fun (fields, last) =>
                        (orderFields (first :: fields)).map fun ordered =>
                          (.object ordered, last)
          else if c = '-' ∨ c.isDigit then parseNumber (c :: rest)
          else none

/-- The items after the first, up to the closing bracket. -/
def parseItems : (fuel depth : Nat) → List Char → Option (List Value × List Char)
  | 0, _, _ => none
  | fuel + 1, depth, text =>
      match skipWhitespace text with
      | [] => none
      | c :: rest =>
          if c = ']' then some ([], rest)
          else if c = ',' then
            (parseValue fuel depth rest).bind fun (item, others) =>
              (parseItems fuel depth others).map fun (items, last) => (item :: items, last)
          else none

/-- One member: a string, a colon and a value. -/
def parseMember : (fuel depth : Nat) → List Char → Option ((String × Value) × List Char)
  | 0, _, _ => none
  | fuel + 1, depth, text =>
      match skipWhitespace text with
      | [] => none
      | c :: rest =>
          if c = quote then
            (parseString rest).bind fun (key, more) =>
              (expect [':'] (skipWhitespace more)).bind fun others =>
                (parseValue fuel depth others).map fun (value, last) => ((key, value), last)
          else none

/-- The members after the first, up to the closing brace. -/
def parseFields : (fuel depth : Nat) → List Char → Option (List (String × Value) × List Char)
  | 0, _, _ => none
  | fuel + 1, depth, text =>
      match skipWhitespace text with
      | [] => none
      | c :: rest =>
          if c = '\x7d' then some ([], rest)
          else if c = ',' then
            (parseMember fuel depth rest).bind fun (field, others) =>
              (parseFields fuel depth others).map fun (fields, last) => (field :: fields, last)
          else none

end

/-- A whole document: one value and nothing but whitespace after it. -/
def parseDocument (text : List Char) : Option Value :=
  (parseValue (text.length + 1) maxDepth text).bind fun (value, rest) =>
    if skipWhitespace rest = [] then some value else none

end Reproit.Json
