import Conformance.Fault

/-!
# Languages of file patterns

What is left out of an analysis is said in patterns, one a line.  How a line is read and which names
patterns leave out is up to the language that they are written in; the analysis takes any
(`PatternLanguage`).

A line may hold no pattern.  A line that is at fault makes the whole reading fail, and of several
lines the first one at fault counts.  Where there are no patterns, the language is not asked.
-/

namespace Conformance

/-- A language that file patterns are written in. -/
class PatternLanguage where
  /-- What a line can hold. -/
  Pattern : Type
  /-- Reads the pattern of a line, if it holds one. -/
  read : String → Except LineFault (Option Pattern)
  /-- Whether patterns leave a file name out. -/
  excludes : List Pattern → String → Bool

/-- A file pattern. -/
abbrev Pattern [language : PatternLanguage] : Type := language.Pattern

namespace Pattern

variable [PatternLanguage]

/-- Reads the pattern of a line, if it holds one. -/
def read (line : String) : Except LineFault (Option Pattern) :=
  PatternLanguage.read line

/-- Reads the patterns of several lines. -/
def readAll (lines : List String) : Except LineFault (List Pattern) :=
  (lines.mapM read).map fun ps => ps.filterMap id

/-- Whether the patterns leave a name out. -/
def excludes (ps : List Pattern) (name : String) : Bool :=
  !ps.isEmpty && PatternLanguage.excludes ps name

@[simp]
theorem excludes_nil (name : String) : excludes [] name = false := rfl

end Pattern
end Conformance
