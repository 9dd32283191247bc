import Conformance.Json.Parser
import Conformance.Number.Double
import Conformance.Text.Blank

/-!
# Values of settings

How the text of a setting is read as a number, a truth value or a list of patterns.

**Numbers** may have blanks around them and single underscores between their characters.
* A number with a fraction is read as a double; `inf`, `infinity` and `nan` are numbers too.
* A whole number may have zeros in front and a fraction of zeros.

**Truth values** are one of a few words, in any case and without blanks.
-/

namespace Conformance
namespace Settings

open Text

section Doubles

/-- A sign in front of a text, and the text after it: whether it is a minus. -/
def splitSign : List Char → Bool × List Char
  | '-' :: cs => (true, cs)
  | '+' :: cs => (false, cs)
  | cs => (false, cs)

/-- The number that an exponent stands for; it needs a digit. -/
def readExponent? (cs : List Char) : Option Int :=
  let (negative, digits) := splitSign cs
  if digits.isEmpty || !digits.all Char.isDigit then none
  else
    let n : Int := Decimal.valueOfDigits digits
    some (if negative then -n else n)

/-- The number that digits with an optional point and exponent stand for. -/
def readUnsigned? (negative : Bool) (cs : List Char) : Option Double :=
  let whole := cs.takeWhile Char.isDigit
  let rest := cs.dropWhile Char.isDigit
  let (fraction, rest) :=
    match rest with
    | '.' :: rest => (rest.takeWhile Char.isDigit, rest.dropWhile Char.isDigit)
    | rest => ([], rest)
  if whole.isEmpty && fraction.isEmpty then none
  else
    match rest with
    | [] => some (.ofDecimal (.ofParts negative whole fraction 0))
    | e :: rest =>
        if e == 'e' || e == 'E' then
          (readExponent? rest).map fun power =>
            .ofDecimal (.ofParts negative whole fraction power)
        else none

/-- Reads a number without blanks and underscores. -/
def readPlainDouble? (cs : List Char) : Option Double :=
  let (negative, body) := splitSign cs
  let word := String.ofList (body.map Char.toLower)
  if word == "inf" || word == "infinity" then some (.infinite negative)
  else if word == "nan" then some .nan
  else readUnsigned? negative body

/-- Whether two underscores follow each other. -/
def hasDoubleUnderscore : List Char → Bool
  | a :: b :: rest => (a == '_' && b == '_') || hasDoubleUnderscore (b :: rest)
  | _ => false

/-- The text without its underscores, none of which may be first, last or next to another. -/
def dropUnderscores? (cs : List Char) : Option (List Char) :=
  if cs.head? == some '_' || cs.getLast? == some '_' || hasDoubleUnderscore cs then none
  else some (cs.filter (· ≠ '_'))

/-- Reads a number with a fraction. -/
def readDouble? (s : String) : Option Double :=
  let cs := trimWhere isBlank s.toList
  match readPlainDouble? cs with
  | some x => some x
  | none => (dropUnderscores? cs).bind readPlainDouble?

end Doubles

section Integers

/-- The text without the zeros, and the underscores among them, in front of its first number. -/
def dropLeadingZeros : List Char → List Char
  | '0' :: rest =>
      match rest.dropWhile fun c => c == '0' || c == '_' with
      | [] => (('0' :: rest).getLast?).toList
      | c :: more => if c.isDigit then c :: more else '0' :: c :: more
  | cs => cs

/-- The text without a fraction of zeros. -/
def dropZeroFraction (cs : List Char) : List Char :=
  match cs.dropWhile (· ≠ '.') with
  | '.' :: fraction => if fraction.all (· == '0') then cs.takeWhile (· ≠ '.') else cs
  | _ => cs

/-- Reads digits with single underscores between them. -/
def readDigits? (cs : List Char) : Option Nat :=
  (dropUnderscores? (dropZeroFraction (dropLeadingZeros cs))).bind fun digits =>
    if !digits.isEmpty && digits.all Char.isDigit then some (Decimal.valueOfDigits digits) else none

/-- Reads a whole number. -/
def readInt? (s : String) : Option Int :=
  let (negative, body) := splitSign (trimWhere isBlank s.toList)
  (readDigits? body).map fun n => if negative then -(n : Int) else n

end Integers

section TruthValues

/-- The words for true. -/
def trueWords : List String := ["1", "t", "true", "y", "yes", "on"]

/-- The words for false. -/
def falseWords : List String := ["0", "f", "false", "n", "no", "off"]

/-- Reads a truth value. -/
def readBool? (s : String) : Option Bool :=
  let word := String.ofList (s.toList.map Char.toLower)
  if trueWords.contains word then some true
  else if falseWords.contains word then some false
  else none

end TruthValues

end Settings
end Conformance
