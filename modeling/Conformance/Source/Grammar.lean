import Conformance.Source.Bracketed

/-!
# Grammar of declarations

Syntax trees for types and type declarations, read from the bracket structure of a source.  What
lies between declarations is kept as plain groups of tokens, in which type declarations and
comments are found wherever a block may hold them.

**Line ends.**  A line end closes a field, an element or a specification once it is complete, and
is a mere blank everywhere else, in particular within parentheses and brackets.  The argument
`lineEnds` says whether the surroundings let a line end close what is being read.

**Mistakes.**
* A token that can open neither a field nor an element is left out, and so are tokens after a
  complete one that can go on nothing, up to the semicolon or the end of the body.
* Any other field or element that does not fit the grammar is kept as a mistaken node up to its end.

**Ambiguity.**
* `B[K]` alone in a struct embeds a generic type, but `B[K]T` declares an array field `B`.
* `type C[P *T] struct{}` declares an array whose length is a product; with a comma, or with a
  constraint that no expression can be, the brackets hold type parameters.
* `(a, b T)` declares two parameters of one type, `(a, b)` two parameters without names.

Every function takes `fuel`; the depth of calls is bounded by a multiple of the number of tokens.
-/

namespace Conformance
namespace Source

section Nodes

/-- A token as a leaf, after the comments before it. -/
def leaf (kind : Kind) (role : Option Role) (named : Bool) (t : Token) : List Node :=
  t.comments.map Comment.node ++ [⟨kind, t.text, t.line, named, false, role, []⟩]

/-- A reserved word, an operator or a mark. -/
def mark (t : Token) : List Node :=
  leaf (.ofName t.text) none false t

/-- A token that no rule speaks of. -/
def bare (t : Token) : List Node :=
  if t.lexeme == .keyword || t.lexeme == .symbol then mark t
  else leaf (.other (if t.isWord then "identifier" else "literal")) none true t

/-- A node of the parts, after the comments before the first of them. -/
def construct (kind : Kind) (role : Option Role) (parts : List Node) (mistaken : Bool := false) :
    List Node :=
  let before := parts.takeWhile (·.kind == .comment)
  match parts.dropWhile (·.kind == .comment) with
  | [] => before
  | first :: rest =>
      before ++ [⟨kind, "", first.line, true, mistaken || (first :: rest).any (·.hasError), role,
        first :: rest⟩]

/-- The parts as a mistake. -/
def mistake (parts : List Node) : List Node :=
  construct .error none parts true

end Nodes

section Units

/-- The units that go on from here: none, if a line end comes first and closes what is read. -/
def continuing (lineEnds : Bool) : List Bracketed → List Bracketed
  | [] => []
  | b :: rest => if lineEnds && b.startsLine then [] else b :: rest

/-- Whether a field, an element or a specification may end before these units. -/
def ended : List Bracketed → Bool
  | [] => true
  | b :: _ => b.startsLine || b.is ";"

/-- Whether a token can neither go on a field or an element nor open one. -/
def isIdle (b : Bracketed) : Bool :=
  match b with
  | .group .. => false
  | .token t =>
      match t.lexeme with
      | .number | .junk => true
      | .quotation => t.text.startsWith "'"
      | .symbol =>
          !(["*", ",", ".", "|", "<-", "~", ";", "(", "[", openBrace, closeBrace].contains t.text)
      | _ => false

/-- Whether only idle tokens come before the end of a body or a semicolon. -/
def idlesOut : List Bracketed → Bool
  | [] => true
  | b :: rest => b.is ";" || (isIdle b && idlesOut rest)

/-- Reserved words that open a declaration or a statement, and no type. -/
def isDeclarationWord (b : Bracketed) : Bool :=
  b.is "type" || b.is "var" || b.is "const" || b.is "import" || b.is "package"

/-- Whether a type may start with this unit. -/
def opensType (b : Bracketed) : Bool :=
  b.isLexeme .word || b.isGroup "(" || b.isGroup "["
    || b.is "*" || b.is "<-" || b.is "map" || b.is "chan" || b.is "func" || b.is "struct"
    || b.is "interface"

/-- Whether the unit is a complete operand. -/
def isOperand (b : Bracketed) : Bool :=
  match b with
  | .group .. => true
  | .token t => t.isWord || t.lexeme == .number || t.lexeme == .quotation

/-- Whether the unit is a token that no statement can start with and no operand can follow. -/
def isJunk (b : Bracketed) : Bool :=
  match b with
  | .group .. => false
  | .token t =>
      b.isStrayClosing || t.lexeme == .junk
        || (t.lexeme == .symbol
          && !(["+", "-", "*", "&", "^", "!", "<-", "~", ";", "(", "[", openBrace].contains t.text))
        || ["else", "case", "default", "range"].any t.is

/-- Whether neither a field nor an element starts with the unit, which is then left out. -/
def opensNothing (b : Bracketed) : Bool :=
  b.is ";" || isDeclarationWord b || isJunk b || isIdle b || b.isLexeme .quotation

/-- Whether operands and operators take turns, as they do in an expression. -/
def takeTurns : List Bracketed → Bool
  | [] => false
  | [b] => isOperand b
  | b :: b' :: rest =>
      !(isOperand b && isOperand b' && !(b'.isGroup "(" || b'.isGroup "[" || b'.isGroup openBrace))
        && takeTurns (b' :: rest)

/-- Whether the units can be the length of an array. -/
def isLength (units : List Bracketed) : Bool :=
  takeTurns units && !units.any fun b =>
    b.is "," || b.is ";" || b.is "..." || b.is "=" || b.is ":=" || b.is ":" || b.isUnmatched
      || b.isLexeme .junk

/-- Whether the units, which do read as type parameters, read as an array length first. -/
def isProduct : List Bracketed → Bool
  | b :: b' :: rest =>
      b.isLexeme .word && (b'.is "*" || b'.isGroup "(") && isLength (b :: b' :: rest)
        && !rest.any fun c => ["interface", "struct", "func", "map", "chan", "~"].any c.is
  | _ => false

/-- Whether the unit stands for a parameter given by a single word. -/
def isSingleWord : List Bracketed → Bool
  | [b] => b.isLexeme .word
  | _ => false

/-- A segment between commas, with the comma after it if there is one. -/
abbrev Segment := List Bracketed × Option Token

/-- The segments between the commas. -/
def segments : List Bracketed → List Segment
  | [] => [([], none)]
  | .token t :: rest =>
      if t.is "," then ([], some t) :: segments rest
      else
        match segments rest with
        | (units, comma) :: more => (.token t :: units, comma) :: more
        | [] => [([.token t], none)]
  | b :: rest =>
      match segments rest with
      | (units, comma) :: more => (b :: units, comma) :: more
      | [] => [([b], none)]

/-- The comma after a segment. -/
def commaOf (s : Segment) : List Node :=
  (s.2.map mark).getD []

/-- The units of a mistaken field or element, and the units after it. -/
def takeMistaken : List Bracketed → List Bracketed × List Bracketed
  | [] => ([], [])
  | b :: rest =>
      match rest with
      | [] => ([b], [])
      | next :: _ =>
          if next.is ";" || (next.startsLine && !skipsLineEnd b) then ([b], rest)
          else
            let (taken, after) := takeMistaken rest
            (b :: taken, after)
where
  /-- Whether a line end after the unit is passed over together with it. -/
  skipsLineEnd (b : Bracketed) : Bool :=
    match b with
    | .group .. => false
    | .token t =>
        b.isUnmatched || t.lexeme == .junk || t.lexeme == .number
          || (t.lexeme == .symbol && !(["*", ",", ".", "|"].contains t.text))

/-- The tag after a field's type, if there is one. -/
def tag : List Bracketed → List Node × List Bracketed
  | .token t :: rest =>
      if t.lexeme == .quotation && !t.startsLine && !t.text.startsWith "'" then (bare t, rest)
      else ([], .token t :: rest)
  | units => ([], units)

/-- The nodes that have been read and the units after them. -/
abbrev Parsed := Option (List Node × List Bracketed)

/-- The semicolon that the units start with, if they do, and the units after it. -/
def passEnd : List Bracketed → List Node × List Bracketed
  | .token t :: rest => if t.is ";" then (mark t, rest) else ([], .token t :: rest)
  | units => ([], units)

/-- The names of a field with commas between them. -/
def fieldNames : List Bracketed → Parsed
  | .token name :: .token comma :: rest =>
      if name.isWord then
        if comma.is "," then
          (fieldNames rest).map fun (names, rest') =>
            (leaf (.other "field_identifier") (some .name) true name ++ mark comma ++ names, rest')
        else some (leaf (.other "field_identifier") (some .name) true name, .token comma :: rest)
      else none
  | .token name :: rest =>
      if name.isWord then
        some (leaf (.other "field_identifier") (some .name) true name, rest)
      else none
  | _ => none

end Units

section Declarations

mutual

/-- A type. -/
def typeExpr : Nat → Option Role → Bool → List Bracketed → Parsed
  | 0, _, _, _ => none
  | _, _, _, [] => none
  | fuel + 1, role, lineEnds, .group opening body closing :: rest =>
      if opening.text = "(" then
        match typeExpr fuel none false body with
        | some (inner, []) =>
            some (construct .parenthesizedType role (mark opening ++ inner ++ mark closing), rest)
        | _ => none
      else if opening.text = "[" then
        match typeExpr fuel (some (.other "element")) lineEnds rest with
        | none => none
        | some (element, after) =>
            if body.isEmpty then
              some (construct (.other "slice_type") role
                (mark opening ++ mark closing ++ element), after)
            else if isLength body then
              some (construct (.other "array_type") role
                (mark opening ++ plain fuel body ++ mark closing ++ element), after)
            else none
      else none
  | fuel + 1, role, lineEnds, .token t :: rest =>
      if t.isWord then some (namedType fuel role lineEnds t rest)
      else if t.is "*" then
        (typeExpr fuel none lineEnds rest).map fun (inner, after) =>
          (construct .pointerType role (mark t ++ inner), after)
      else if t.is "~" then
        (typeExpr fuel none lineEnds rest).map fun (inner, after) =>
          (construct (.other "negated_type") role (mark t ++ inner), after)
      else if t.is "<-" then
        match rest with
        | .token channel :: rest' =>
            if channel.is "chan" then
              (typeExpr fuel none lineEnds rest').map fun (value, after) =>
                (construct (.other "channel_type") role (mark t ++ mark channel ++ value), after)
            else none
        | _ => none
      else if t.is "chan" then
        match rest with
        | .token arrow :: rest' =>
            if arrow.is "<-" && !(rest'.head?.any (·.is "chan")
                && (typeExpr fuel none lineEnds rest').isNone) then
              (typeExpr fuel none lineEnds rest').map fun (value, after) =>
                (construct (.other "channel_type") role (mark t ++ mark arrow ++ value), after)
            else
              (typeExpr fuel none lineEnds rest).map fun (value, after) =>
                (construct (.other "channel_type") role (mark t ++ value), after)
        | _ =>
            (typeExpr fuel none lineEnds rest).map fun (value, after) =>
              (construct (.other "channel_type") role (mark t ++ value), after)
      else if t.is "map" then
        match rest with
        | .group opening body closing :: rest' =>
            if opening.text = "[" then
              match typeExpr fuel none false body, typeExpr fuel none lineEnds rest' with
              | some (key, []), some (value, after) =>
                  some (construct (.other "map_type") role
                    (mark t ++ mark opening ++ key ++ mark closing ++ value), after)
              | _, _ => none
            else none
        | _ => none
      else if t.is "func" then
        match rest with
        | .group opening body closing :: rest' =>
            if opening.text = "(" then
              let (results, after) := result fuel lineEnds rest'
              some (construct (.other "function_type") role
                (mark t ++ parameters fuel none opening body closing ++ results), after)
            else none
        | _ => none
      else if t.is "struct" then
        match rest with
        | .group opening body closing :: rest' =>
            if opening.text = openBrace then
              some (construct .structType role
                (mark t ++ construct .fieldDeclarationList none
                  (mark opening ++ structBody fuel body ++ mark closing)), rest')
            else none
        | _ => none
      else if t.is "interface" then
        match rest with
        | .group opening body closing :: rest' =>
            if opening.text = openBrace then
              some (construct .interfaceType role
                (mark t ++ mark opening ++ interfaceBody fuel body ++ mark closing), rest')
            else none
        | _ => none
      else none

/-- A type that starts with the word `t`: a plain, qualified or generic name. -/
def namedType : Nat → Option Role → Bool → Token → List Bracketed → List Node × List Bracketed
  | 0, role, _, t, rest => (leaf .typeIdentifier role true t, rest)
  | fuel + 1, role, lineEnds, t, rest =>
      let plainName : (Option Role → List Node) × List Bracketed :=
        (fun role => leaf .typeIdentifier role true t, rest)
      let (base, rest) :=
        match continuing lineEnds rest with
        | .token dot :: .token name :: after =>
            if dot.is "." && name.isWord then
              (fun role => construct .qualifiedType role
                (leaf .packageIdentifier (some .package) true t ++ mark dot
                  ++ leaf .typeIdentifier (some .name) true name), after)
            else plainName
        | _ => plainName
      match continuing lineEnds rest with
      | .group opening body closing :: after =>
          if opening.text = "[" then
            match typeArguments fuel body with
            | some arguments =>
                (construct .genericType role (base (some .type)
                  ++ construct (.other "type_arguments") none
                    (mark opening ++ arguments ++ mark closing)), after)
            | none => (base role, rest)
          else (base role, rest)
      | _ => (base role, rest)

/-- The types between the brackets of a generic type, at least one. -/
def typeArguments : Nat → List Bracketed → Option (List Node)
  | 0, _ => none
  | fuel + 1, units =>
      match union fuel false units with
      | some (type, []) => some type
      | some (type, .token comma :: rest) =>
          if comma.is "," then
            if rest.isEmpty then some (type ++ mark comma)
            else (typeArguments fuel rest).map fun more => type ++ mark comma ++ more
          else none
      | _ => none

/-- Types with bars between them, as parts of one element. -/
def union : Nat → Bool → List Bracketed → Parsed
  | 0, _, _ => none
  | fuel + 1, lineEnds, units =>
      match typeExpr fuel none lineEnds units with
      | none => none
      | some (type, rest) =>
          match continuing lineEnds rest with
          | .token bar :: after =>
              if bar.is "|" then
                (union fuel lineEnds after).map fun (more, after') =>
                  (type ++ mark bar ++ more, after')
              else some (type, rest)
          | _ => some (type, rest)

/-- A parameter list. -/
def parameters : Nat → Option Role → Token → List Bracketed → Token → List Node
  | 0, role, opening, _, closing =>
      construct (.other "parameter_list") role (mark opening ++ mark closing) true
  | fuel + 1, role, opening, body, closing =>
      construct (.other "parameter_list") role
        (mark opening ++ parameterDeclarations fuel (segments body) ++ mark closing)

/-- The parameters in the segments between commas. -/
def parameterDeclarations : Nat → List Segment → List Node
  | 0, _ => []
  | _, [] => []
  | _, ([], none) :: _ => []
  | fuel + 1, ([], some comma) :: rest =>
      mistake (mark comma) ++ parameterDeclarations fuel rest
  | fuel + 1, (units, comma) :: rest =>
      let after := commaOf (units, comma)
      match sharedNames fuel ((units, comma) :: rest) with
      | some (declaration, rest') => declaration ++ parameterDeclarations fuel rest'
      | none =>
          match typeExpr fuel (some .type) false units with
          | some (type, []) =>
              construct .parameterDeclaration none type ++ after
                ++ parameterDeclarations fuel rest
          | _ =>
              match variadic fuel units with
              | some declaration => declaration ++ after ++ parameterDeclarations fuel rest
              | none =>
                  mistake (plain fuel units) ++ after ++ parameterDeclarations fuel rest

/-- Names that share a type: words between commas, the last of them followed by the type. -/
def sharedNames : Nat → List Segment → Option (List Node × List Segment)
  | 0, _ => none
  | fuel + 1, segs =>
      let words := segs.takeWhile fun s => isSingleWord s.1
      match segs.dropWhile fun s => isSingleWord s.1 with
      | (.token name :: units, comma) :: rest =>
          if name.isWord
              && (match typeExpr fuel none false (.token name :: units) with
                | some (_, []) => false
                | _ => true) then
            match typeExpr fuel (some .type) false units with
            | some (type, []) =>
                let names := words.flatMap fun s =>
                  (s.1.flatMap fun b => leaf (.other "identifier") (some .name) true b.first)
                    ++ commaOf s
                some (construct .parameterDeclaration none
                  (names ++ leaf (.other "identifier") (some .name) true name ++ type)
                    ++ commaOf ([], comma), rest)
            | _ => none
          else none
      | _ => none

/-- A parameter that takes any number of values. -/
def variadic : Nat → List Bracketed → Option (List Node)
  | 0, _ => none
  | fuel + 1, .token dots :: rest =>
      if dots.is "..." then
        match typeExpr fuel (some .type) false rest with
        | some (type, []) =>
            some (construct (.other "variadic_parameter_declaration") none (mark dots ++ type))
        | _ => none
      else
        match rest with
        | .token dots' :: rest' =>
            if dots.isWord && dots'.is "..." then
              match typeExpr fuel (some .type) false rest' with
              | some (type, []) =>
                  some (construct (.other "variadic_parameter_declaration") none
                    (leaf (.other "identifier") (some .name) true dots ++ mark dots' ++ type))
              | _ => none
            else none
        | _ => none
  | _, _ => none

/-- The result of a function, if one is given. -/
def result : Nat → Bool → List Bracketed → List Node × List Bracketed
  | 0, _, units => ([], units)
  | fuel + 1, lineEnds, units =>
      match continuing lineEnds units with
      | .group opening body closing :: rest =>
          if opening.text = "(" then
            (parameters fuel (some (.other "result")) opening body closing, rest)
          else if opening.text = "[" then
            (typeExpr fuel (some (.other "result")) lineEnds units).getD ([], units)
          else ([], units)
      | b :: _ =>
          if opensType b then
            (typeExpr fuel (some (.other "result")) lineEnds units).getD ([], units)
          else ([], units)
      | [] => ([], units)

/-- The fields of a struct. -/
def structBody : Nat → List Bracketed → List Node
  | 0, _ => []
  | _, [] => []
  | fuel + 1, b :: rest =>
      match (field fuel ended (b :: rest)).or (field fuel idlesOut (b :: rest)) with
      | some (parts, after) =>
          let idle := if ended after then [] else after.takeWhile isIdle
          let (separator, after) := passEnd (after.drop idle.length)
          construct .fieldDeclaration none parts ++ mistake (plain fuel idle) ++ separator
            ++ structBody fuel after
      | none =>
          if opensNothing b || b.is "func" || b.is "<-" || b.is "~" then
            mistake (bare b.first) ++ structBody fuel rest
          else
            match b with
            | .group opening body closing =>
                if opening.text = openBrace then
                  mistake (plain fuel [b]) ++ structBody fuel rest
                else
                  mistake (bare opening) ++ structBody fuel (body ++ .token closing :: rest)
            | .token _ =>
                let (taken, after) := takeMistaken (b :: rest)
                let (separator, after) := passEnd after
                construct .fieldDeclaration none (plain fuel taken) true ++ separator
                  ++ structBody fuel after

/-- A field before units that satisfy `closes`. -/
def field : Nat → (List Bracketed → Bool) → List Bracketed → Parsed
  | 0, _, _ => none
  | fuel + 1, closes, units =>
      match embeddedField fuel closes units with
      | some parsed => some parsed
      | none =>
          match fieldNames units with
          | none => none
          | some (names, rest) =>
              match typeExpr fuel (some .type) true rest with
              | none => none
              | some (type, rest) =>
                  let (tagged, rest) := tag rest
                  if closes rest then some (names ++ type ++ tagged, rest) else none

/-- An embedded field: a named type, after a star if it is a pointer. -/
def embeddedField : Nat → (List Bracketed → Bool) → List Bracketed → Parsed
  | 0, _, _ => none
  | fuel + 1, closes, units =>
      let (star, rest) :=
        match units with
        | .token t :: rest => if t.is "*" then (mark t, rest) else ([], units)
        | _ => ([], units)
      match rest with
      | .token t :: rest =>
          if t.isWord then
            let (type, rest) := namedType fuel (some .type) true t rest
            let (tagged, rest) := tag rest
            if closes rest then some (star ++ type ++ tagged, rest) else none
          else none
      | _ => none

/-- The elements of an interface. -/
def interfaceBody : Nat → List Bracketed → List Node
  | 0, _ => []
  | _, [] => []
  | fuel + 1, b :: rest =>
      match (element fuel ended (b :: rest)).or (element fuel idlesOut (b :: rest)) with
      | some (node, after) =>
          let idle := if ended after then [] else after.takeWhile isIdle
          let (separator, after) := passEnd (after.drop idle.length)
          node ++ mistake (plain fuel idle) ++ separator ++ interfaceBody fuel after
      | none =>
          if opensNothing b then
            mistake (bare b.first) ++ interfaceBody fuel rest
          else
            let (taken, after) := takeMistaken (b :: rest)
            let (separator, after) := passEnd after
            construct .typeElem none (plain fuel taken) true ++ separator
              ++ interfaceBody fuel after

/-- A method or a union of types before units that satisfy `closes`. -/
def element : Nat → (List Bracketed → Bool) → List Bracketed → Parsed
  | 0, _, _ => none
  | fuel + 1, closes, units =>
      let method : Parsed :=
        match units with
        | .token name :: .group opening body closing :: rest =>
            if name.isWord && opening.text == "(" && !opening.startsLine then
              let (results, rest) := result fuel true rest
              some (construct .methodElem none
                (leaf (.other "field_identifier") (some .name) true name
                  ++ parameters fuel (some (.other "parameters")) opening body closing
                  ++ results), rest)
            else none
        | _ => none
      let parsed :=
        match method with
        | some parsed => some parsed
        | none =>
            (union fuel true units).map fun (parts, rest) =>
              (construct .typeElem none parts, rest)
      match parsed with
      | some (node, rest) => if closes rest then some (node, rest) else none
      | none => none

/-- The type parameters between brackets. -/
def typeParameters : Nat → List Bracketed → Option (List Node)
  | 0, _ => none
  | fuel + 1, units =>
      match fieldNames units with
      | none => none
      | some (names, rest) =>
          match union fuel false rest with
          | none => none
          | some (bound, rest) =>
              let parameter := construct (.other "type_parameter_declaration") none
                (names ++ construct .typeElem (some .type) bound)
              match rest with
              | [] => some parameter
              | .token comma :: rest =>
                  if comma.is "," then
                    if rest.isEmpty then some (parameter ++ mark comma)
                    else (typeParameters fuel rest).map fun more =>
                      parameter ++ mark comma ++ more
                  else none
              | _ => none

/-- A type specification or an alias. -/
def typeSpec : Nat → List Bracketed → Parsed
  | 0, _ => none
  | fuel + 1, .token name :: rest =>
      if name.isWord then
        let named := leaf .typeIdentifier (some .name) true name
        let (bound, rest) :=
          match rest with
          | .group opening body closing :: after =>
              if opening.text = "[" && !isProduct body then
                match typeParameters fuel body with
                | some inner =>
                    (construct (.other "type_parameter_list") none
                      (mark opening ++ inner ++ mark closing), after)
                | none => ([], rest)
              else ([], rest)
          | _ => ([], rest)
        match rest with
        | .token t :: after =>
            if t.is "=" then
              (typeExpr fuel (some .type) true after).map fun (type, after) =>
                (construct (.other "type_alias") none (named ++ bound ++ mark t ++ type), after)
            else
              (typeExpr fuel (some .type) true rest).map fun (type, after) =>
                (construct .typeSpec none (named ++ bound ++ type), after)
        | _ =>
            (typeExpr fuel (some .type) true rest).map fun (type, after) =>
              (construct .typeSpec none (named ++ bound ++ type), after)
      else none
  | _, _ => none

/-- The specifications between the parentheses of a type declaration. -/
def typeSpecs : Nat → List Bracketed → List Node
  | 0, _ => []
  | _, [] => []
  | fuel + 1, b :: rest =>
      match typeSpec fuel (b :: rest) with
      | some (node, after) =>
          let (separator, after) := passEnd after
          node ++ separator ++ typeSpecs fuel after
      | none =>
          let (taken, after) := takeMistaken (b :: rest)
          let (separator, after) := passEnd after
          mistake (plain fuel taken) ++ separator ++ typeSpecs fuel after

/-- What follows the word `type` in a type declaration. -/
def typeDeclaration : Nat → Token → List Bracketed → Parsed
  | 0, _, _ => none
  | fuel + 1, t, .group opening body closing :: rest =>
      if opening.text = "(" then
        some (construct .typeDeclaration none
          (mark t ++ mark opening ++ typeSpecs fuel body ++ mark closing), rest)
      else none
  | fuel + 1, t, units =>
      (typeSpec fuel units).map fun (spec, rest) =>
        (construct .typeDeclaration none (mark t ++ spec), rest)

/-- Units that are not taken apart any further, but for the blocks among them. -/
def plain : Nat → List Bracketed → List Node
  | 0, _ => []
  | _, [] => []
  | fuel + 1, .token t :: rest => bare t ++ plain fuel rest
  | fuel + 1, .group opening body closing :: rest =>
      let inside := if opening.text = openBrace then block fuel body else plain fuel body
      construct (.other "group") none (mark opening ++ inside ++ mark closing) ++ plain fuel rest

/-- The statements of a block: its type declarations, and the units between them. -/
def block : Nat → List Bracketed → List Node
  | 0, _ => []
  | _, [] => []
  | fuel + 1, .token t :: rest =>
      if t.is "type" then
        match typeDeclaration fuel t rest with
        | none => mistake (mark t) ++ block fuel rest
        | some (node, after) =>
            let skipped := after.takeWhile isJunk
            let beyond := after.dropWhile isJunk
            if ended after then node ++ block fuel after
            else if beyond.isEmpty then node ++ mistake (plain fuel skipped)
            else mistake node ++ block fuel after
      else bare t ++ block fuel rest
  | fuel + 1, .group opening body closing :: rest =>
      let inside := if opening.text = openBrace then block fuel body else plain fuel body
      construct (.other "group") none (mark opening ++ inside ++ mark closing) ++ block fuel rest

end

end Declarations

end Source
end Conformance
