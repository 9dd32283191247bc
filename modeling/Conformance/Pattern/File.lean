import Conformance.Pattern.Language

/-!
# Pattern files

A pattern file is a text with one pattern a line.  A line ends with a line feed, a carriage return
or both; whichever it is, the pattern is read with one line feed at its end.

**Reading.**  The file is read in chunks, and each line as soon as the chunk that ends it has been
read.  So a chunk that is no text makes the reading fail only after the lines that have ended before
it, and one of those that is at fault comes first.
-/

namespace Conformance
namespace Pattern

section Lines

/-- The text with every line end made a line feed. -/
def unifyLineEnds : List Char → List Char
  | [] => []
  | '\r' :: '\n' :: rest => '\n' :: unifyLineEnds rest
  | '\r' :: rest => '\n' :: unifyLineEnds rest
  | c :: rest => c :: unifyLineEnds rest

/-- The lines of a text with their line feeds; the last one may lack it. -/
def splitLines : List Char → List (List Char)
  | [] => []
  | '\n' :: rest => ['\n'] :: splitLines rest
  | c :: rest =>
      match splitLines rest with
      | [] => [[c]]
      | line :: lines => (c :: line) :: lines

/-- The lines of a text. -/
def lines (text : List Char) : List String :=
  (splitLines (unifyLineEnds text)).map String.ofList

/-- Whether a line is ended. -/
def isEnded (line : String) : Bool :=
  line.endsWith "\n"

/-- The text without a carriage return at its end, after which a line feed may still come. -/
def dropOpenEnd (text : List Char) : List Char :=
  if text.getLast? = some '\r' then text.dropLast else text

end Lines

section Reading

/-- The number of bytes in a chunk. -/
def chunkSize : Nat := 8192

/-- The lines that are read from a pattern file, and the fault that ends the reading early. -/
def linesRead (bytes : List UInt8) : List String × Option Utf8.Fault :=
  match Utf8.decodeChunks [] (Utf8.chunks chunkSize bytes) with
  | (text, none) => (lines text, none)
  | (text, some fault) => ((lines (dropOpenEnd text)).filter isEnded, some fault)

/-- The patterns of a pattern file. -/
def ofFile [PatternLanguage] (bytes : List UInt8) : Except Fault (List Pattern) :=
  match readAll (linesRead bytes).1, (linesRead bytes).2 with
  | .error fault, _ => .error (.line fault)
  | .ok _, some fault => .error (.undecodable fault)
  | .ok ps, none => .ok ps

end Reading

end Pattern
end Conformance
