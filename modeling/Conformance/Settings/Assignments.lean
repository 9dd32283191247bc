import Conformance.Text.Blank

/-!
# Assignments

A settings file assigns values to names, one assignment a line.

**Lines.**  An assignment is a name, an equals sign and a value; `export` may stand in front, and a
comment, which `#` starts, at the end.  A line that is none of this is passed over.

**Values.**
* Between single quotes a backslash may stand before a backslash or a quote; between double quotes
  it may also stand before the letter of a control character.  Quoted values may go over several
  lines.
* A value without quotes ends with its line, or before a blank and `#`.

**References.**  `${NAME}` in a value stands for the value that `NAME` has so far or has outside the
file, and `${NAME:-text}` for `text` where it has none.
-/

namespace Conformance
namespace Settings

open Text

/-- Names and their values, in order; of several values for a name the last one counts. -/
abbrev Variables := List (String × String)

section Reading

/-- A blank that ends no line. -/
def isInnerBlank (c : Char) : Bool :=
  isTrailingBlank c && c ≠ '\n' && c ≠ '\r'

/-- A character that ends a line. -/
def endsLine (c : Char) : Bool :=
  c == '\n' || c == '\r'

/-- The text after a line end, which a carriage return and a line feed make together. -/
def skipLineEnd : List Char → List Char
  | '\r' :: '\n' :: cs => cs
  | c :: cs => if endsLine c then cs else c :: cs
  | [] => []

/-- The text after the rest of a line. -/
def skipLine (cs : List Char) : List Char :=
  skipLineEnd (cs.dropWhile fun c => !endsLine c)

/-- The text after `export` and a blank. -/
def skipExport (cs : List Char) : List Char :=
  match cs with
  | 'e' :: 'x' :: 'p' :: 'o' :: 'r' :: 't' :: c :: rest =>
      if isInnerBlank c then rest.dropWhile isInnerBlank else cs
  | _ => cs

/-- A text up to a quote `q` that no backslash stands before, and the text after that quote. -/
def splitQuote? (q : Char) : List Char → Option (List Char × List Char)
  | [] => none
  | '\\' :: c :: rest =>
      if c = q then (splitQuote? q rest).map fun (taken, after) => ('\\' :: c :: taken, after)
      else (splitQuote? q (c :: rest)).map fun (taken, after) => ('\\' :: taken, after)
  | c :: rest =>
      if c = q then some ([], rest)
      else (splitQuote? q rest).map fun (taken, after) => (c :: taken, after)

/-- A text up to the last quote `q` in it, and the text after that quote. -/
def splitLastQuote? (q : Char) (cs : List Char) : Option (List Char × List Char) :=
  let reversed := cs.reverse
  match reversed.dropWhile (· ≠ q) with
  | [] => none
  | _ :: before => some (before.reverse, (reversed.takeWhile (· ≠ q)).reverse)

/-- The inside of a quotation after its opening quote, and the text after its closing one. -/
def readQuotation? (q : Char) (cs : List Char) : Option (List Char × List Char) :=
  match splitQuote? q cs with
  | some parts => some parts
  | none => splitLastQuote? q cs

/-- The control characters that a letter after a backslash stands for. -/
def controlLetters : List (Char × Char) := [
  ('a', '\x07'), ('b', '\x08'), ('f', '\x0c'), ('n', '\n'), ('r', '\r'), ('t', '\t'), ('v', '\x0b')]

/-- What a character after a backslash stands for between quotes `q`, if it is special there. -/
def escaped? (q c : Char) : Option Char :=
  if c = '\\' ∨ c = '\'' then some c
  else if q = '"' then
    if c = '"' then some c else (controlLetters.find? fun e => e.1 == c).map Prod.snd
  else none

/-- The text that the inside of a quotation stands for. -/
def unescape (q : Char) : List Char → List Char
  | '\\' :: c :: rest =>
      match escaped? q c with
      | some d => d :: unescape q rest
      | none => '\\' :: unescape q (c :: rest)
  | c :: rest => c :: unescape q rest
  | [] => []

/-- The text before a comment that follows a blank, without the blanks. -/
def dropComment (before : List Char) : List Char → List Char
  | [] => before.reverse
  | '#' :: rest =>
      if before.head?.any isTrailingBlank then before.reverse
      else dropComment ('#' :: before) rest
  | c :: rest => dropComment (c :: before) rest

/-- A value, and the text after it. -/
def readValue? (cs : List Char) : Option (List Char × List Char) :=
  match cs with
  | '\'' :: rest => (readQuotation? '\'' rest).map fun (inside, after) => (unescape '\'' inside, after)
  | '"' :: rest => (readQuotation? '"' rest).map fun (inside, after) => (unescape '"' inside, after)
  | _ =>
      let line := cs.takeWhile fun c => !endsLine c
      let value := dropComment [] line
      some ((value.reverse.dropWhile isTrailingBlank).reverse, cs.dropWhile fun c => !endsLine c)

/-- A name, which a comment lacks, and the text after it. -/
def readName? (cs : List Char) : Option (Option (List Char) × List Char) :=
  match cs with
  | '#' :: _ => some (none, cs)
  | '\'' :: rest =>
      let name := rest.takeWhile (· ≠ '\'')
      match rest.dropWhile (· ≠ '\'') with
      | _ :: after => if name.isEmpty then none else some (some name, after)
      | [] => none
  | _ =>
      let isName (c : Char) : Bool := !(c == '=' || c == '#' || isTrailingBlank c)
      let name := cs.takeWhile isName
      if name.isEmpty then none else some (some name, cs.dropWhile isName)

/-- The text after the comment and the end of a line, if there is nothing else on it. -/
def readLineEnd? (cs : List Char) : Option (List Char) :=
  match cs.dropWhile isInnerBlank with
  | [] => some []
  | c :: rest =>
      if c = '#' then some (skipLine rest)
      else if endsLine c then some (skipLineEnd (c :: rest))
      else none

/-- The assignment of a line, if it is one, and the text after the line. -/
def readAssignment (line : List Char) : Option (String × String) × List Char :=
  let cs := skipExport line
  match readName? cs with
  | none => (none, skipLine cs)
  | some (name, rest) =>
      match rest.dropWhile isInnerBlank with
      | '=' :: rest =>
          let rest := rest.dropWhile isInnerBlank
          match readValue? rest with
          | none => (none, skipLine rest)
          | some (value, rest) =>
              match readLineEnd? rest with
              | none => (none, skipLine rest)
              | some after => (name.map fun n => (String.ofList n, String.ofList value), after)
      | rest => (none, (readLineEnd? rest).getD (skipLine rest))

/-- The assignments of a text, with one unit of fuel for each of its lines at least. -/
def readAssignments : Nat → List Char → Variables
  | 0, _ => []
  | fuel + 1, cs =>
      match cs.dropWhile isTrailingBlank with
      | [] => []
      | line =>
          let (assignment, rest) := readAssignment line
          assignment.toList ++ readAssignments fuel rest

end Reading

section References

/-- The value of a name, or a default for a name without one. -/
def valueOr (default : String) (vars : Variables) (name : String) : String :=
  ((vars.reverse.find? fun v => v.1 == name).map Prod.snd).getD default

/-- The inside of a reference after its opening brace, and the text after its closing one. -/
def splitReference? (cs : List Char) : Option (String × String × List Char) :=
  let isName (c : Char) : Bool := c ≠ '}' && c ≠ ':'
  let name := String.ofList (cs.takeWhile isName)
  match cs.dropWhile isName with
  | '}' :: rest => some (name, "", rest)
  | ':' :: '-' :: rest =>
      match rest.dropWhile (· ≠ '}') with
      | _ :: after => some (name, String.ofList (rest.takeWhile (· ≠ '}')), after)
      | [] => none
  | _ => none

/-- A value with its references replaced. -/
def resolveReferences (vars : Variables) : Nat → List Char → List Char
  | 0, cs => cs
  | _, [] => []
  | fuel + 1, '$' :: '{' :: rest =>
      match splitReference? rest with
      | some (name, default, after) =>
          (valueOr default vars name).toList ++ resolveReferences vars fuel after
      | none => '$' :: resolveReferences vars fuel ('{' :: rest)
  | fuel + 1, c :: rest => c :: resolveReferences vars fuel rest

/-- The assignments with their references replaced, given what has a value outside the file. -/
def resolveAll (outside : Variables) (assignments : Variables) : Variables :=
  assignments.foldl
    (fun done (name, value) =>
      let vars := outside ++ done
      done ++ [(name, String.ofList (resolveReferences vars value.length value.toList))])
    []

/-- The variables that a settings file sets, given what has a value outside the file. -/
def ofFile (outside : Variables) (text : List Char) : Variables :=
  resolveAll outside (readAssignments (text.length + 1) text)

end References

end Settings
end Conformance
