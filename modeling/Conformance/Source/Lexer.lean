import Conformance.Source.Token
import Conformance.Text.Identifier

/-!
# Lexical grammar of Go source

`tokens` cuts a source into tokens and comments.

**Rules.**
* Blanks, and the character NUL, separate tokens; a byte order mark may open the source.
* A comment runs from `//` to the end of the line or from `/*` to the next `*/`; without an end,
  `/*` is two marks.
* An identifier is one of Unicode (`Text.Identifier`); the reserved words are set apart.
* A string or rune ends at its quote on the same line, where a backslash takes the next character
  with it; without an end it is junk.  A raw string ends at the next back quote, and takes the rest
  of the source if there is none.
* Of the operators and marks the longest one counts.

`cut` finds the first token of a text; each token takes at least one character, and `scan` is given
one unit of fuel per character.
-/

namespace Conformance
namespace Source

open Text

section Lexemes

/-- A lexeme with its characters and the text after it. -/
structure Cut where
  lexeme : Lexeme
  taken : List Char
  rest : List Char

/-- The characters of a line, and the text from its end on. -/
def splitLine (cs : List Char) : List Char × List Char :=
  (cs.takeWhile (· ≠ '\n'), cs.dropWhile (· ≠ '\n'))

/-- The text up to and with the next `*/`, and the text after it. -/
def blockComment? : List Char → Option (List Char × List Char)
  | [] => none
  | '*' :: '/' :: rest => some (['*', '/'], rest)
  | c :: rest => (blockComment? rest).map fun (taken, after) => (c :: taken, after)

/-- The text up to and with the closing double quote, and the text after it. -/
def closeString? : List Char → Option (List Char × List Char)
  | [] => none
  | '"' :: rest => some (['"'], rest)
  | '\n' :: _ => none
  | '\\' :: c :: rest =>
      (closeString? rest).map fun (taken, after) => ('\\' :: c :: taken, after)
  | c :: rest => (closeString? rest).map fun (taken, after) => (c :: taken, after)

/-- The first `n` characters, if there are as many and all satisfy `p`. -/
def exactly? (n : Nat) (p : Char → Bool) (cs : List Char) : Option (List Char × List Char) :=
  let taken := cs.take n
  if taken.length = n ∧ taken.all p then some (taken, cs.drop n) else none

/-- A hexadecimal digit. -/
def isHexDigit (c : Char) : Bool :=
  c.isDigit || ('a' ≤ c && c ≤ 'f') || ('A' ≤ c && c ≤ 'F')

/-- An octal digit. -/
def isOctalDigit (c : Char) : Bool :=
  '0' ≤ c && c ≤ '7'

/-- The characters of an escape in a rune after its backslash. -/
def runeEscape? (cs : List Char) : Option (List Char × List Char) :=
  match cs with
  | 'x' :: rest => (exactly? 2 isHexDigit rest).map fun (ds, after) => ('x' :: ds, after)
  | 'u' :: rest => (exactly? 4 isHexDigit rest).map fun (ds, after) => ('u' :: ds, after)
  | 'U' :: rest => (exactly? 8 isHexDigit rest).map fun (ds, after) => ('U' :: ds, after)
  | c :: rest =>
      if isOctalDigit c then exactly? 3 isOctalDigit cs
      else if ['a', 'b', 'f', 'n', 'r', 't', 'v', '\\', '\'', '"'].contains c then some ([c], rest)
      else none
  | [] => none

/-- The characters of a rune after its opening quote, with the closing one. -/
def closeRune? (cs : List Char) : Option (List Char × List Char) :=
  let inside :=
    match cs with
    | '\\' :: rest => (runeEscape? rest).map fun (ds, after) => ('\\' :: ds, after)
    | '\'' :: _ => none
    | c :: rest => some ([c], rest)
    | [] => none
  match inside with
  | some (taken, '\'' :: after) => some (taken ++ ['\''], after)
  | _ => none

/-- A character inside a number. -/
def isNumberChar (c : Char) : Bool :=
  c.isAlphanum || c == '_' || c == '.'

/-- The characters of a number that go on after the character `before`; a sign follows `mark`. -/
def numberTail (mark : Char → Bool) (before : Char) : List Char → List Char × List Char
  | [] => ([], [])
  | c :: rest =>
      if isNumberChar c || ((c == '+' || c == '-') && mark before) then
        let (taken, after) := numberTail mark c rest
        (c :: taken, after)
      else ([], c :: rest)

/-- Whether a character is the letter of an exponent. -/
def isExponentMark (hexadecimal : Bool) (c : Char) : Bool :=
  if hexadecimal then c == 'p' || c == 'P' else c == 'e' || c == 'E'

/-- The operator or mark that the text starts with. -/
def symbol? (cs : List Char) : Option String :=
  symbols.find? fun s => s.toList.isPrefixOf cs

/-- The first token of a text that starts with `c`. -/
def cut (c : Char) (rest : List Char) : Cut :=
  if Identifier.isStart c then
    let taken := c :: rest.takeWhile Identifier.isContinue
    let isKeyword := keywords.contains (String.ofList taken)
    ⟨if isKeyword then .keyword else .word, taken, rest.dropWhile Identifier.isContinue⟩
  else if c.isDigit || (c == '.' && (rest.head?.any Char.isDigit)) then
    let hexadecimal := c == '0' && (rest.head?.any fun d => d == 'x' || d == 'X')
    let (taken, after) := numberTail (isExponentMark hexadecimal) c rest
    ⟨.number, c :: taken, after⟩
  else if c == '"' then
    match closeString? rest with
    | some (taken, after) => ⟨.quotation, c :: taken, after⟩
    | none => ⟨.junk, c :: (splitLine rest).1, (splitLine rest).2⟩
  else if c == '`' then
    let inside := rest.takeWhile (· ≠ '`')
    match rest.dropWhile (· ≠ '`') with
    | close :: after => ⟨.quotation, c :: inside ++ [close], after⟩
    | [] => ⟨.unclosed, c :: rest, []⟩
  else if c == '\'' then
    match closeRune? rest with
    | some (taken, after) => ⟨.quotation, c :: taken, after⟩
    | none => ⟨.junk, [c], rest⟩
  else
    match symbol? (c :: rest) with
    | some s => ⟨.symbol, s.toList, (c :: rest).drop s.length⟩
    | none => ⟨.junk, [c], rest⟩

end Lexemes

section Scan

/-- The line ends in a text. -/
def lineEndsIn (cs : List Char) : Nat :=
  cs.count '\n'

/-- A blank between tokens. -/
def isSeparator (c : Char) : Bool :=
  isBlank c || c == '\x00'

/--
The tokens of a text that starts on `line`, where `startsLine` and `comments` (last first) tell
what has been passed since the last token.
-/
def scan : Nat → Nat → Bool → List Comment → List Char → Tokens
  | 0, _, _, comments, _ => ⟨[], comments.reverse⟩
  | _ + 1, _, _, comments, [] => ⟨[], comments.reverse⟩
  | fuel + 1, line, startsLine, comments, c :: rest =>
      if isSeparator c then
        scan fuel (line + lineEndsIn [c]) (startsLine || c == '\n') comments rest
      else
        let comment? :=
          match c, rest with
          | '/', '/' :: after =>
              let (taken, after) := splitLine after
              some ('/' :: '/' :: taken, after)
          | '/', '*' :: after =>
              (blockComment? after).map fun (taken, after) => ('/' :: '*' :: taken, after)
          | _, _ => none
        match comment? with
        | some (taken, after) =>
            scan fuel (line + lineEndsIn taken) startsLine
              (⟨String.ofList taken, line⟩ :: comments) after
        | none =>
            let ⟨lexeme, taken, after⟩ := cut c rest
            let token : Token :=
              ⟨lexeme, String.ofList taken, line, startsLine, comments.reverse⟩
            let ⟨tokens, trailing⟩ := scan fuel (line + lineEndsIn taken) false [] after
            ⟨token :: tokens, trailing⟩

/-- The text without the byte order mark that may open it. -/
def skipByteOrderMark : List Char → List Char
  | '\uFEFF' :: rest => rest
  | cs => cs

/-- The tokens and comments of a source. -/
def tokens (source : List Char) : Tokens :=
  let cs := skipByteOrderMark source
  scan (cs.length + 1) 0 true [] cs

end Scan

end Source
end Conformance
