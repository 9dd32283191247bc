import Conformance.Json.Basic

/-!
# Writing JSON

`Json.compact` writes a value on one line, `Json.pretty` with one item per line.

**Form.**  Strings are written as they are, but for the quote, the backslash and the control
characters.  In the pretty form each level is indented by two blanks, a member's name and value are
separated by a colon and a blank, and empty arrays and objects stay on their line.
-/

namespace Conformance
namespace Json

section Scalars

/-- The escape of a control character that has no short one. -/
def controlEscape (c : Char) : List Char :=
  ['\\', 'u', '0', '0', Nat.digitChar (c.toNat / 16), Nat.digitChar (c.toNat % 16)]

/-- One character inside a string. -/
def escapeChar (c : Char) : List Char :=
  if c == '"' then ['\\', '"']
  else if c == '\\' then ['\\', '\\']
  else if c == '\n' then ['\\', 'n']
  else if c == '\r' then ['\\', 'r']
  else if c == '\t' then ['\\', 't']
  else if c.toNat == 0x08 then ['\\', 'b']
  else if c.toNat == 0x0C then ['\\', 'f']
  else if c.toNat < 0x20 then controlEscape c
  else [c]

/-- A string between quotes. -/
def stringText (s : String) : List Char :=
  '"' :: s.toList.flatMap escapeChar ++ ['"']

/-- A number with a fraction or an exponent. -/
def realText : Double → List Char
  | .nan => "NaN".toList
  | .infinite negative => (if negative then "-Infinity" else "Infinity").toList
  | x => x.text.toList

end Scalars

section Compact

mutual

/-- The characters of a value on one line. -/
def compactText : Json → List Char
  | .null => "null".toList
  | .bool b => (if b then "true" else "false").toList
  | .int n => (toString n).toList
  | .real x => realText x
  | .str s => stringText s
  | .arr [] => ['[', ']']
  | .arr (item :: items) => '[' :: compactText item ++ compactItems items
  | .obj [] => ['{', '}']
  | .obj ((name, value) :: members) =>
      '{' :: stringText name ++ ':' :: compactText value ++ compactMembers members

/-- The items of an array after the first, and its end. -/
def compactItems : List Json → List Char
  | [] => [']']
  | item :: items => ',' :: compactText item ++ compactItems items

/-- The members of an object after the first, and its end. -/
def compactMembers : List (String × Json) → List Char
  | [] => ['}']
  | (name, value) :: members =>
      ',' :: stringText name ++ ':' :: compactText value ++ compactMembers members

end

/-- A value on one line. -/
def compact (j : Json) : String :=
  String.ofList (compactText j)

end Compact

section Pretty

/-- A line end and the indentation of a level. -/
def lineBreak (level : Nat) : List Char :=
  '\n' :: List.replicate (2 * level) ' '

mutual

/-- The characters of a value whose first line stands at a level. -/
def prettyText (level : Nat) : Json → List Char
  | .null => "null".toList
  | .bool b => (if b then "true" else "false").toList
  | .int n => (toString n).toList
  | .real x => realText x
  | .str s => stringText s
  | .arr [] => ['[', ']']
  | .arr (item :: items) =>
      '[' :: lineBreak (level + 1) ++ prettyText (level + 1) item ++ prettyItems level items
  | .obj [] => ['{', '}']
  | .obj ((name, value) :: members) =>
      '{' :: lineBreak (level + 1) ++ stringText name ++ ':' :: ' ' ::
        prettyText (level + 1) value ++ prettyMembers level members

/-- The items of an array after the first, and its end. -/
def prettyItems (level : Nat) : List Json → List Char
  | [] => lineBreak level ++ [']']
  | item :: items =>
      ',' :: lineBreak (level + 1) ++ prettyText (level + 1) item ++ prettyItems level items

/-- The members of an object after the first, and its end. -/
def prettyMembers (level : Nat) : List (String × Json) → List Char
  | [] => lineBreak level ++ ['}']
  | (name, value) :: members =>
      ',' :: lineBreak (level + 1) ++ stringText name ++ ':' :: ' ' ::
        prettyText (level + 1) value ++ prettyMembers level members

end

/-- A value with one item per line. -/
def pretty (j : Json) : String :=
  String.ofList (prettyText 0 j)

end Pretty

end Json
end Conformance
