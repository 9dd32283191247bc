import Conformance.Json.Basic

/-!
# Reading JSON

`Json.parse?` reads a text that holds one value and nothing else but blanks.

**Grammar.**  That of the JSON format, and besides it the numbers `NaN`, `Infinity` and
`-Infinity`.  A number with a fraction or an exponent is rounded to double precision.  Of members
with one name the last value counts, in the place of the first.  An escape that gives half of a
surrogate pair alone reads as U+FFFD.

Every function takes `fuel`, which bounds the nesting and the length of what it reads; `parse?`
provides one unit per character, and each step reads at least one.
-/

namespace Conformance
namespace Json

section Lexical

/-- The blanks between tokens. -/
def isBlank (c : Char) : Bool :=
  c == ' ' || c == '\t' || c == '\n' || c == '\r'

/-- The text after its leading blanks. -/
def skipBlanks (cs : List Char) : List Char :=
  cs.dropWhile isBlank

/-- The text after a word that it starts with. -/
def afterWord? (word : String) (cs : List Char) : Option (List Char) :=
  if word.toList.isPrefixOf cs then some (cs.drop word.length) else none

/-- The value of a hexadecimal digit. -/
def hexValue? (c : Char) : Option Nat :=
  if c.isDigit then some (c.toNat - '0'.toNat)
  else if 'a' ≤ c ∧ c ≤ 'f' then some (c.toNat - 'a'.toNat + 10)
  else if 'A' ≤ c ∧ c ≤ 'F' then some (c.toNat - 'A'.toNat + 10)
  else none

/-- The value of four hexadecimal digits, and the text after them. -/
def hex4? : List Char → Option (Nat × List Char)
  | a :: b :: c :: d :: rest =>
      match hexValue? a, hexValue? b, hexValue? c, hexValue? d with
      | some a, some b, some c, some d => some (((a * 16 + b) * 16 + c) * 16 + d, rest)
      | _, _, _, _ => none
  | _ => none

/-- The code after `\u` and four digits `high`, joined with a following low half. -/
def surrogate (high : Nat) (rest : List Char) : Char × List Char :=
  if 0xD800 ≤ high ∧ high < 0xDC00 then
    match rest with
    | '\\' :: 'u' :: rest' =>
        match hex4? rest' with
        | some (low, rest'') =>
            if 0xDC00 ≤ low ∧ low < 0xE000 then
              (Char.ofNat (0x10000 + (high - 0xD800) * 0x400 + (low - 0xDC00)), rest'')
            else ('\uFFFD', rest)
        | none => ('\uFFFD', rest)
    | _ => ('\uFFFD', rest)
  else if 0xDC00 ≤ high ∧ high < 0xE000 then ('\uFFFD', rest)
  else (Char.ofNat high, rest)

/-- The character of an escape, given the text after the backslash. -/
def escape? : List Char → Option (Char × List Char)
  | '"' :: rest => some ('"', rest)
  | '\\' :: rest => some ('\\', rest)
  | '/' :: rest => some ('/', rest)
  | 'b' :: rest => some ('\x08', rest)
  | 'f' :: rest => some ('\x0C', rest)
  | 'n' :: rest => some ('\n', rest)
  | 'r' :: rest => some ('\r', rest)
  | 't' :: rest => some ('\t', rest)
  | 'u' :: rest => (hex4? rest).map fun (high, rest') => surrogate high rest'
  | _ => none

/-- The rest of a string after its opening quote, and the text after the closing one. -/
def parseString : Nat → List Char → Option (List Char × List Char)
  | 0, _ => none
  | _ + 1, [] => none
  | fuel + 1, c :: rest =>
      if c == '"' then some ([], rest)
      else if c == '\\' then
        match escape? rest with
        | some (c', rest') => (parseString fuel rest').map fun (s, after) => (c' :: s, after)
        | none => none
      else if c.toNat < 0x20 then none
      else (parseString fuel rest).map fun (s, after) => (c :: s, after)

/-- The fraction of a number, if the text starts with one. -/
def fraction? : List Char → Option (List Char × List Char)
  | '.' :: rest =>
      let digits := rest.takeWhile Char.isDigit
      if digits.isEmpty then none else some (digits, rest.dropWhile Char.isDigit)
  | _ => none

/-- The exponent after its letter: a sign if any, and digits. -/
def signedDigits? (cs : List Char) : Option (Int × List Char) :=
  let (negative, rest) :=
    match cs with
    | '-' :: rest => (true, rest)
    | '+' :: rest => (false, rest)
    | _ => (false, cs)
  let digits := rest.takeWhile Char.isDigit
  if digits.isEmpty then none
  else
    let n : Int := Decimal.valueOfDigits digits
    some (if negative then -n else n, rest.dropWhile Char.isDigit)

/-- The exponent of a number, if the text starts with one. -/
def exponent? : List Char → Option (Int × List Char)
  | 'e' :: rest => signedDigits? rest
  | 'E' :: rest => signedDigits? rest
  | _ => none

/-- The whole part of a number: a zero, or digits that do not start with one. -/
def whole? : List Char → Option (List Char × List Char)
  | '0' :: rest => some (['0'], rest)
  | cs =>
      let digits := cs.takeWhile Char.isDigit
      if digits.isEmpty then none else some (digits, cs.dropWhile Char.isDigit)

/-- A number after its sign. -/
def unsigned? (negative : Bool) (cs : List Char) : Option (Json × List Char) :=
  match whole? cs with
  | none => none
  | some (whole, rest) =>
      let fraction := fraction? rest
      let rest := (fraction.map Prod.snd).getD rest
      let exponent := exponent? rest
      let rest := (exponent.map Prod.snd).getD rest
      if fraction.isNone && exponent.isNone then
        let n : Int := Decimal.valueOfDigits whole
        some (.int (if negative then -n else n), rest)
      else
        let d := Decimal.ofParts negative whole ((fraction.map Prod.fst).getD [])
          ((exponent.map Prod.fst).getD 0)
        some (.real (Double.ofDecimal d), rest)

/-- A number. -/
def number? (cs : List Char) : Option (Json × List Char) :=
  match cs with
  | '-' :: rest =>
      match afterWord? "Infinity" rest with
      | some rest' => some (.real (.infinite true), rest')
      | none => unsigned? true rest
  | _ => unsigned? false cs

/-- A value that is neither a string, an array nor an object. -/
def scalar? (cs : List Char) : Option (Json × List Char) :=
  match cs with
  | 'n' :: _ => (afterWord? "null" cs).map (.null, ·)
  | 't' :: _ => (afterWord? "true" cs).map (.bool true, ·)
  | 'f' :: _ => (afterWord? "false" cs).map (.bool false, ·)
  | 'N' :: _ => (afterWord? "NaN" cs).map (.real .nan, ·)
  | 'I' :: _ => (afterWord? "Infinity" cs).map (.real (.infinite false), ·)
  | _ => number? cs

end Lexical

section Values

mutual

/-- A value, after blanks, and the text after it. -/
def parseValue : Nat → List Char → Option (Json × List Char)
  | 0, _ => none
  | fuel + 1, cs =>
      match skipBlanks cs with
      | '"' :: rest =>
          (parseString fuel rest).map fun (s, after) => (.str (String.ofList s), after)
      | '[' :: rest =>
          match skipBlanks rest with
          | ']' :: after => some (.arr [], after)
          | _ => (parseItems fuel rest).map fun (items, after) => (.arr items, after)
      | '{' :: rest =>
          match skipBlanks rest with
          | '}' :: after => some (.obj [], after)
          | _ =>
              (parseMembers fuel [] rest).map fun (members, after) => (.obj members, after)
      | cs' => scalar? cs'

/-- The items of an array, at least one, and the text after its end. -/
def parseItems : Nat → List Char → Option (List Json × List Char)
  | 0, _ => none
  | fuel + 1, cs =>
      match parseValue fuel cs with
      | none => none
      | some (item, rest) =>
          match skipBlanks rest with
          | ']' :: after => some ([item], after)
          | ',' :: after =>
              (parseItems fuel after).map fun (items, after') => (item :: items, after')
          | _ => none

/-- The members of an object, at least one, added to those before, and the text after its end. -/
def parseMembers :
    Nat → List (String × Json) → List Char → Option (List (String × Json) × List Char)
  | 0, _, _ => none
  | fuel + 1, before, cs =>
      match skipBlanks cs with
      | '"' :: rest =>
          match parseString fuel rest with
          | none => none
          | some (name, rest) =>
              match skipBlanks rest with
              | ':' :: rest =>
                  match parseValue fuel rest with
                  | none => none
                  | some (value, rest) =>
                      let members := OrderedMap.insertEntry (String.ofList name) value before
                      match skipBlanks rest with
                      | '}' :: after => some (members, after)
                      | ',' :: after => parseMembers fuel members after
                      | _ => none
              | _ => none
      | _ => none

end

/-- The value that a text holds, if it holds one and nothing else. -/
def parse? (text : String) : Option Json :=
  let cs := text.toList
  match parseValue (2 * cs.length + 2) cs with
  | some (value, rest) => if (skipBlanks rest).isEmpty then some value else none
  | none => none

end Values

end Json
end Conformance
