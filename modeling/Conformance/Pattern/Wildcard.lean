import Conformance.Pattern.Glob
import Conformance.Pattern.Language
import Conformance.Text.Blank
import Conformance.Text.Quoted

/-!
# Patterns with wildcards

The language that pattern files are usually written in: a line says which file names it speaks of,
and whether it leaves them out or takes them back in.

**Lines.**  Blanks at the end are dropped, unless the line ends with a backslash and a space.  Blank
lines, lines that start with `#` and the line `/` hold no pattern.  A `!` in front negates the
pattern.

**Segments.**  Slashes separate segments.  A pattern without an inner slash may stand at any depth,
and `**` stands for any depth.  A pattern that asks for something below what it describes never
speaks of a bare file name.

**Selection.**  Of the patterns that speak of a name, the last one decides (`excludes`).
-/

namespace Conformance

/-- A segment between slashes. -/
inductive Segment
  /-- `**`, which stands for any number of directories. -/
  | anyDepth
  | glob (g : Glob)
deriving DecidableEq, Repr

/-- What a pattern says of bare file names. -/
structure Wildcard where
  /-- Whether the pattern takes names back in. -/
  negated : Bool
  /-- Whether the pattern speaks of directories only. -/
  directory : Bool
  segments : List Segment
deriving DecidableEq, Repr

namespace Wildcard

section Reading

/-- The text that remains of a line: blanks at its end are dropped unless one is escaped. -/
def trimLine (cs : List Char) : List Char :=
  match cs.reverse with
  | ' ' :: '\\' :: _ => cs
  | reversed => (reversed.dropWhile Text.isTrailingBlank).reverse

/-- The parts between the slashes of a text. -/
def splitSlashes : List Char → List (List Char)
  | [] => [[]]
  | '/' :: rest => [] :: splitSlashes rest
  | c :: rest =>
      match splitSlashes rest with
      | part :: parts => (c :: part) :: parts
      | [] => [[c]]

/-- The segment text that stands for any depth. -/
def anyDepthText : List Char := ['*', '*']

/-- The parts of a pattern, anchored at the root or put at any depth. -/
def anchor : List (List Char) → List (List Char)
  | [] => []
  | [] :: parts => parts
  | [part] => if part = anyDepthText then [part] else [anyDepthText, part]
  | [part, []] => if part = anyDepthText then [part, []] else [anyDepthText, part, []]
  | parts => parts

/-- The parts with an empty last one replaced by any depth. -/
def closeLast (parts : List (List Char)) : List (List Char) :=
  if parts.getLast? = some [] then parts.dropLast ++ [anyDepthText] else parts

/-- The parts with neighbouring parts of any depth made one. -/
def collapse : List (List Char) → List (List Char)
  | a :: b :: rest =>
      if a = anyDepthText ∧ b = anyDepthText then collapse (b :: rest)
      else a :: collapse (b :: rest)
  | parts => parts

/-- Reads a segment. -/
def readSegment (part : List Char) : Except Glob.Error Segment :=
  if part = anyDepthText then .ok .anyDepth else (Glob.read part).map .glob

/-- Whether a segment has a reversed range. -/
def Segment.isReversed : Segment → Bool
  | .anyDepth => false
  | .glob g => g.any Glob.isReversed

/-- The fault of a line that describes nothing. -/
def refusal (line : String) : LineFault :=
  .refused ("Invalid git pattern: " ++ Text.quoted line)

/-- The fault of a line with a range that ends before it starts. -/
def reversal : LineFault :=
  .badExpression "bad character range"

/--
Reads the pattern of a line.  The first mistake counts; a set that is not closed makes the line hold
no pattern, and a reversed range is found only when all else is right.
-/
def read (line : String) : Except LineFault (Option Wildcard) :=
  match trimLine line.toList with
  | [] => .ok none
  | '#' :: _ => .ok none
  | ['/'] => .ok none
  | cs =>
      let negated := cs.head? == some '!'
      let body := if negated then cs.drop 1 else cs
      let anchored := anchor (splitSlashes body)
      if anchored.isEmpty then .error (refusal line)
      else
        match (collapse (closeLast anchored)).mapM readSegment with
        | .error .unclosedSet => .ok none
        | .error .danglingEscape => .error (refusal line)
        | .ok segments =>
            if segments.any Segment.isReversed then .error reversal
            else .ok (some ⟨negated, body.getLast? == some '/', segments⟩)

end Reading

section Selection

/-- Whether a pattern speaks of a bare file name. -/
def speaksOf (p : Wildcard) (name : String) : Bool :=
  !p.directory &&
    match p.segments with
    | [.anyDepth] => true
    | [.glob g] => Glob.matchesAll g name.toList
    | [.anyDepth, .glob g] => Glob.matchesAll g name.toList
    | _ => false

/-- Whether the patterns leave a name out, given whether it is left out so far. -/
def excludesFrom (start : Bool) (ps : List Wildcard) (name : String) : Bool :=
  ps.foldl (fun excluded p => if p.speaksOf name then !p.negated else excluded) start

/-- Whether the patterns leave a name out. -/
def excludes (ps : List Wildcard) (name : String) : Bool :=
  excludesFrom false ps name

end Selection

/-- The language of wildcards. -/
instance language : PatternLanguage where
  Pattern := Wildcard
  read := read
  excludes := excludes

instance : DecidableEq (@Pattern language) :=
  inferInstanceAs (DecidableEq Wildcard)

end Wildcard
end Conformance
