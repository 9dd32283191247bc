import Conformance.Source.Token

/-!
# Bracket structure

Before any grammar is applied, the tokens are arranged by their brackets: a bracket pair with all
that it encloses is one unit.

**Mismatches.**  A closing bracket closes the nearest open bracket of its kind, and the brackets
opened since then stand unmatched among their contents.  A closing bracket with nothing to close
stands unmatched, and so does every bracket still open at the end.  An unmatched bracket is a plain
token, so `Bracketed.isUnmatched` tells one by its text alone.
-/

namespace Conformance
namespace Source

/-- A token, or a bracket pair and what it encloses. -/
inductive Bracketed
  | token (t : Token)
  | group (opening : Token) (body : List Bracketed) (closing : Token)
deriving Repr

namespace Bracketed

section Views

/-- The first token of a unit. -/
def first : Bracketed → Token
  | .token t => t
  | .group opening _ _ => opening

/-- Whether a line end comes before the unit. -/
def startsLine (b : Bracketed) : Bool :=
  b.first.startsLine

/-- Whether the unit is this reserved word or mark. -/
def is (b : Bracketed) (text : String) : Bool :=
  match b with
  | .token t => t.is text
  | .group .. => false

/-- Whether the unit is a token of this class. -/
def isLexeme (b : Bracketed) (lexeme : Lexeme) : Bool :=
  match b with
  | .token t => t.lexeme == lexeme
  | .group .. => false

/-- Whether the unit is a bracket pair with this opening bracket. -/
def isGroup (b : Bracketed) (bracket : String) : Bool :=
  match b with
  | .token _ => false
  | .group opening _ _ => opening.text == bracket

/-- Whether the unit is a closing bracket with nothing to close. -/
def isStrayClosing (b : Bracketed) : Bool :=
  b.is ")" || b.is "]" || b.is closeBrace

/-- Whether the unit is an opening bracket, or a raw string, that nothing closes. -/
def isUnclosed (b : Bracketed) : Bool :=
  b.is "(" || b.is "[" || b.is openBrace || b.isLexeme .unclosed

/-- Whether the unit is a bracket without its partner. -/
def isUnmatched (b : Bracketed) : Bool :=
  b.isStrayClosing || b.isUnclosed

mutual

/-- The number of tokens of a unit. -/
def size : Bracketed → Nat
  | .token _ => 1
  | .group _ body _ => 2 + sizes body

/-- The number of tokens of several units. -/
def sizes : List Bracketed → Nat
  | [] => 0
  | b :: rest => b.size + sizes rest

end

end Views

section Arrange

/-- The bracket that closes another. -/
def partner? (opening : String) : Option String :=
  if opening = "(" then some ")"
  else if opening = "[" then some "]"
  else if opening = openBrace then some closeBrace
  else none

/-- Whether a token opens a bracket pair. -/
def isOpening (t : Token) : Bool :=
  t.lexeme == .symbol && (partner? t.text).isSome

/-- Whether a token closes the pair that another opens. -/
def closes (closing opening : Token) : Bool :=
  closing.lexeme == .symbol && partner? opening.text == some closing.text

/-- An open bracket and the units before it in its own surroundings, last first. -/
abbrev Open := Token × List Bracketed

/-- The units of the innermost open bracket, last first, once a closing bracket is taken in. -/
def close (closing : Token) (units : List Bracketed) : List Open → List Bracketed × List Open
  | [] => (.token closing :: units, [])
  | (opening, before) :: outer =>
      if closes closing opening then (.group opening units.reverse closing :: before, outer)
      else close closing (units ++ .token opening :: before) outer

/-- The units of the outermost level, last first, once the open brackets are given up. -/
def giveUp (units : List Bracketed) : List Open → List Bracketed
  | [] => units
  | (opening, before) :: outer => giveUp (units ++ .token opening :: before) outer

/-- Arranges tokens, given the units and open brackets so far. -/
def arrangeFrom (units : List Bracketed) (opened : List Open) : List Token → List Bracketed
  | [] => (giveUp units opened).reverse
  | t :: rest =>
      if isOpening t then arrangeFrom [] ((t, units) :: opened) rest
      else if opened.any fun o => closes t o.1 then
        let (units', opened') := close t units opened
        arrangeFrom units' opened' rest
      else arrangeFrom (.token t :: units) opened rest

/-- The bracket structure of tokens. -/
def arrange (tokens : List Token) : List Bracketed :=
  arrangeFrom [] [] tokens

end Arrange

end Bracketed
end Source
end Conformance
