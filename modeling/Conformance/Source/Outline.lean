import Conformance.Source.Grammar
import Conformance.Source.Lexer
import Conformance.Syntax.Grammar
import Conformance.Text.Utf8

/-!
# Outline of a source file

`outline` reads a Go source and gives its syntax tree: package clauses, type declarations, method
and function declarations, and any other statement as plain tokens.

**Items.**  A file is a sequence of items; each is closed by a line end or a semicolon.

**Mistakes.**
* An item that runs into another one without its end is complete all the same, but for a package
  clause, which is lost.
* Tokens that can open no item are left out; directly after an item they take the item with them,
  unless the file ends there.
* A type declaration that does not fit the grammar is left out up to the next declaration.
* With a bracket or a raw string that is never closed, everything is lost from the item that holds
  it, up to a declaration that cannot belong inside if there is one.

No file is refused: bytes that are no text are replaced before.
-/

namespace Conformance
namespace Source

section Items

/-- What kind of item has been read, as far as its end matters. -/
inductive Item
  | package
  | other
deriving DecidableEq

/-- Whether a statement may end after the unit when a line end follows. -/
def closesStatement (b : Bracketed) : Bool :=
  isOperand b || b.is "++" || b.is "--"
    || ["break", "continue", "fallthrough", "return"].any b.is

/-- The units of a statement after its first unit `before`, and the units after the statement. -/
def statementTail (before : Bracketed) : List Bracketed → List Bracketed × List Bracketed
  | [] => ([], [])
  | b :: rest =>
      if b.is ";" || isDeclarationWord b || b.isUnmatched
          || (b.startsLine && closesStatement before) then ([], b :: rest)
      else
        let (taken, after) := statementTail b rest
        (b :: taken, after)

/-- The units of a type declaration that does not fit the grammar, and the units after it. -/
def lostDeclaration : List Bracketed → List Bracketed × List Bracketed
  | [] => ([], [])
  | b :: rest =>
      if isDeclarationWord b || b.isUnclosed || (b.is "func" && b.startsLine) then ([], b :: rest)
      else
        let (taken, after) := lostDeclaration rest
        (b :: taken, after)

/-- Whether the unit cannot belong inside what an unclosed bracket after `before` opens. -/
def escapes (before : Option Bracketed) (opening b : Bracketed) : Bool :=
  if opening.is openBrace then
    if before.any (·.is "struct") then isDeclarationWord b || b.is "func"
    else if before.any (·.is "interface") then isDeclarationWord b
    else b.is "package" || b.is "import"
  else isDeclarationWord b || (b.is "func" && b.startsLine)

/-- The body of a function, if one follows. -/
def functionBody (fuel : Nat) (units : List Bracketed) : List Node × List Bracketed :=
  match continuing true units with
  | .group opening body closing :: rest =>
      if opening.text = openBrace then
        (construct (.other "block") none (mark opening ++ block fuel body ++ mark closing), rest)
      else ([], units)
  | _ => ([], units)

/-- A function or method declaration after its first word. -/
def functionDeclaration (fuel : Nat) (t : Token) : List Bracketed → Parsed
  | .group opening receiver closing :: .token name :: .group opening' body closing' :: rest =>
      if opening.text == "(" && name.isWord && opening'.text == "(" then
        let (results, rest) := result fuel true rest
        let (statements, rest) := functionBody fuel rest
        some (construct .methodDeclaration none
          (mark t ++ parameters fuel (some .receiver) opening receiver closing
            ++ leaf (.other "field_identifier") (some .name) true name
            ++ parameters fuel (some (.other "parameters")) opening' body closing'
            ++ results ++ statements), rest)
      else none
  | .token name :: rest =>
      if name.isWord then
        let (bound, rest) :=
          match rest with
          | .group opening body closing :: after =>
              if opening.text = "[" then (plain fuel [.group opening body closing], after)
              else ([], rest)
          | _ => ([], rest)
        match rest with
        | .group opening body closing :: after =>
            if opening.text = "(" then
              let (results, after) := result fuel true after
              let (statements, after) := functionBody fuel after
              some (construct (.other "function_declaration") none
                (mark t ++ leaf (.other "identifier") (some .name) true name ++ bound
                  ++ parameters fuel (some (.other "parameters")) opening body closing
                  ++ results ++ statements), after)
            else none
        | _ => none
      else none
  | _ => none

/-- A statement that is no declaration of interest. -/
def statement (fuel : Nat) (b : Bracketed) (rest : List Bracketed) :
    List Node × List Bracketed :=
  let (taken, after) := statementTail b rest
  (construct (.other "statement") none (plain fuel (b :: taken)), after)

/-- The item that starts with `b`, with the unit that comes last in it. -/
def item (fuel : Nat) (b : Bracketed) (rest : List Bracketed) :
    Item × List Node × List Bracketed :=
  match b with
  | .group .. => (.other, statement fuel b rest)
  | .token t =>
      if t.is "package" then
        match rest with
        | .token name :: after =>
            if name.isWord then
              (.package, construct .packageClause none
                (mark t ++ leaf .packageIdentifier none true name), after)
            else (.other, mistake (mark t), rest)
        | _ => (.other, mistake (mark t), rest)
      else if t.is "type" then
        match typeDeclaration fuel t rest with
        | some parsed => (.other, parsed)
        | none =>
            let (lost, after) := lostDeclaration rest
            (.other, mistake (mark t ++ plain fuel lost), after)
      else if t.is "func" then
        match functionDeclaration fuel t rest with
        | some parsed => (.other, parsed)
        | none => (.other, statement fuel b rest)
      else (.other, statement fuel b rest)

/-- The last of the units of `all` that come before `rest`. -/
def lastBefore (all rest : List Bracketed) : Option Bracketed :=
  (all.take (all.length - rest.length)).getLast?

end Items

section File

/-- What an item `node` that runs into the unclosed `opening` loses, and the units after that. -/
def lostWith (before : Option Bracketed) (node : List Node) (opening : Bracketed)
    (rest : List Bracketed) : List Node × List Bracketed :=
  let lost := rest.takeWhile fun b => !escapes before opening b
  (mistake (node ++ bare opening.first ++ plain (Bracketed.sizes lost + 1) lost),
    rest.dropWhile fun b => !escapes before opening b)

/-- The items of a file. -/
def items : Nat → List Bracketed → List Node
  | 0, _ => []
  | _, [] => []
  | fuel + 1, b :: rest =>
      if b.is ";" then bare b.first ++ items fuel rest
      else if b.isUnclosed then
        let (lost, after) := lostWith none [] b rest
        lost ++ items fuel after
      else if isJunk b then mistake (bare b.first) ++ items fuel rest
      else
        let (kind, node, after) := item fuel b rest
        match after with
        | [] => node
        | next :: beyond =>
            if next.is ";" then node ++ bare next.first ++ items fuel beyond
            else if next.startsLine then node ++ items fuel after
            else if next.isUnclosed then
              let (lost, after) := lostWith (lastBefore (b :: rest) after) node next beyond
              lost ++ items fuel after
            else if isJunk next then
              let junk := after.takeWhile isJunk
              let beyond := after.dropWhile isJunk
              if beyond.isEmpty then node ++ mistake (plain fuel junk)
              else mistake (node ++ plain fuel junk) ++ items fuel beyond
            else if kind = .package then mistake node ++ items fuel after
            else node ++ items fuel after

/-- The syntax tree of a source. -/
def outline (source : List Char) : Node :=
  let scanned := tokens source
  let units := Bracketed.arrange scanned.tokens
  let fuel := 16 * (scanned.tokens.length + 1)
  let children := items fuel units ++ scanned.trailing.map Comment.node
  { kind := .other "source_file", text := "", line := 0, named := true,
    hasError := children.any (·.hasError), role := none, children := children }

/-- The grammar of the outlines. -/
instance grammar : Grammar where
  parse bytes := .ok (outline (Utf8.decodeLossy bytes))

end File

end Source
end Conformance
