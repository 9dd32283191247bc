import Conformance.Directive
import Conformance.Syntax.Node

/-!
# Facts from a syntax tree

Which facts a source file states is read off its syntax tree.

**Type names.**  `typeName` looks through pointers, parentheses and type arguments and says under
which name a type is known, and whether a pointer was passed on the way.

**Contributions.**  `nodeFindings` gives what a single node states: a type declaration its
interfaces and structs, a method declaration its method, a comment its directives.

**Walk.**  `walk` visits the nodes in source order from an explicit stack and leaves out whatever
lies under a node of kind `error`; `findings` brings together what the visited nodes state.  A file
without a package clause states nothing.

**Depth.**  `typeName` goes one level down for each wrapper around a type, and trees may be nested
to any depth: that a machine has only so much room for nested calls is left out.
-/

namespace Conformance
namespace Extraction

section TypeNames

mutual

/-- The name of a type and whether it is a pointer; the name is empty where the type has none. -/
def typeName : Node → String × Bool
  | ⟨kind, text, _, _, _, _, children⟩ =>
      match kind with
      | .typeIdentifier => (text, false)
      | .pointerType =>
          let inner := (firstTypeName (·.named) children).1
          (inner, !inner.isEmpty)
      | .qualifiedType =>
          match children.find? fun c => c.role == some .package,
              children.find? fun c => c.role == some .name with
          | some package, some name => (package.text ++ "." ++ name.text, false)
          | _, _ => ("", false)
      | .genericType => firstTypeName (fun c => c.role == some .type) children
      | .parenthesizedType => firstTypeName (·.named) children
      | _ => ("", false)

/-- The type name of the first node that satisfies `p`, and no name if there is none. -/
def firstTypeName (p : Node → Bool) : List Node → String × Bool
  | [] => ("", false)
  | c :: rest => if p c then typeName c else firstTypeName p rest

end

/-- The type name of a node, by its kind. -/
theorem typeName_eq (n : Node) :
    typeName n =
      match n.kind with
      | .typeIdentifier => (n.text, false)
      | .pointerType =>
          let inner := (firstTypeName (·.named) n.children).1
          (inner, !inner.isEmpty)
      | .qualifiedType =>
          match n.child? .package, n.child? .name with
          | some package, some name => (package.text ++ "." ++ name.text, false)
          | _, _ => ("", false)
      | .genericType => firstTypeName (fun c => c.role == some .type) n.children
      | .parenthesizedType => firstTypeName (·.named) n.children
      | _ => ("", false) := by
  cases n
  unfold typeName
  rfl

/-- The type name of a node that may be missing. -/
def typeName? : Option Node → String × Bool
  | none => ("", false)
  | some n => typeName n

end TypeNames

section Contributions

variable (file : String)

/-- The place of a node. -/
def locationOf (n : Node) : Location :=
  ⟨n.line, file⟩

/-- The method that an element of an interface lists. -/
def methodSpec? (n : Node) : Option MethodSpec :=
  if n.hasError then none
  else
    match n.kind with
    | .methodElem | .methodSpec =>
        (n.child? .name).map fun name => ⟨name.text, locationOf file n⟩
    | _ => none

/-- The interface that an element of an interface embeds; a union of types embeds none. -/
def embedded? (n : Node) : Option String :=
  let name :=
    if n.hasError then ""
    else
      match n.kind with
      | .typeElem | .interfaceTypeName | .constraintElem =>
          match n.namedChildren with
          | [single] => (typeName single).1
          | _ => ""
      | .typeIdentifier | .qualifiedType => (typeName n).1
      | _ => ""
  if name.isEmpty then none else some name

/-- The interface that a type specification declares with an interface type. -/
def interfaceOf (name : String) (spec type : Node) : Interface where
  name := name
  location := locationOf file spec
  methods := type.namedChildren.filterMap (methodSpec? file)
  embedded := (type.namedChildren.filterMap embedded?).getLast?

/-- The fields that a field declaration declares: one embedded field, or one for each name. -/
def fieldsOf (n : Node) : List Field :=
  let (typeName, pointer) := typeName? (n.child? .type)
  match n.childrenInRole .name with
  | [] =>
      if typeName.isEmpty then []
      else
        [{ name := typeName, typeName, location := locationOf file n, embedded := true,
           pointer := pointer || n.children.any (·.kind == .star) }]
  | names =>
      names.map fun name =>
        { name := name.text, typeName, location := locationOf file n, embedded := false, pointer }

/-- The field declarations without mistakes of a struct type. -/
def fieldDeclarations (type : Node) : List Node :=
  (type.namedChildren.filter (·.kind == .fieldDeclarationList)).flatMap fun list =>
    list.namedChildren.filter fun n => n.kind == .fieldDeclaration && !n.hasError

/-- The struct that a type specification declares with a struct type. -/
def structOf (name : String) (spec type : Node) : Struct where
  name := name
  location := locationOf file spec
  fields := (fieldDeclarations type).flatMap (fieldsOf file)

/-- What a type specification states. -/
def specFindings (spec : Node) : Findings :=
  match spec.child? .name, spec.child? .type with
  | some name, some type =>
      match type.kind with
      | .interfaceType => { interfaces := [interfaceOf file name.text spec type] }
      | .structType => { structs := [structOf file name.text spec type] }
      | _ => {}
  | _, _ => {}

/-- The method that a method declaration declares, if its receiver is a type with a name. -/
def methodOf? (n : Node) : Option Method :=
  match n.child? .receiver, n.child? .name with
  | some receiver, some name =>
      if receiver.hasError then none
      else
        match receiver.namedChildren.filter (·.kind == .parameterDeclaration) with
        | [] => none
        | parameter :: _ =>
            let (typeName, pointer) := typeName? (parameter.child? .type)
            if typeName.isEmpty then none
            else some ⟨typeName, name.text, locationOf file n, pointer⟩
  | _, _ => none

/-- What a node states by itself, apart from what is below it. -/
def nodeFindings (n : Node) : Findings :=
  match n.kind with
  | .typeDeclaration =>
      .concat ((n.namedChildren.filter (·.kind == .typeSpec)).map (specFindings file))
  | .methodDeclaration => { methods := (methodOf? file n).toList }
  | .comment => { directives := Directive.scan (locationOf file n) n.text }
  | _ => {}

end Contributions

section Walk

/-- The package that a tree names: the first identifier in one of its package clauses. -/
def packageName? (root : Node) : Option String :=
  ((root.namedChildren.filter (·.kind == .packageClause)).flatMap fun clause =>
    (clause.namedChildren.filter (·.kind == .packageIdentifier)).map (·.text)).head?

/--
The nodes that a walk visits in source order, given those visited before, last first, and a stack of
nodes still to be visited.  A mistake and all that is below it is left out.
-/
def walk (visited : List Node) : List Node → List Node
  | [] => visited.reverse
  | n :: stack =>
      if n.kind = .error then walk visited stack else walk (n :: visited) (n.children ++ stack)
termination_by stack => Node.sizes stack
decreasing_by
  · simp only [Node.sizes, Node.size_eq]
    omega
  · simp only [Node.sizes, Node.sizes_append, Node.size_eq]
    omega

/-- What the nodes of a tree state, in the order in which a walk visits them. -/
def findings (file : String) (root : Node) : Findings :=
  .concat ((walk [] [root]).map (nodeFindings file))

/-- The facts of a source file, read off its syntax tree. -/
def factsOfTree (file : String) (root : Node) : FileFacts :=
  match packageName? root with
  | none => { file }
  | some package => { file, package := some package, findings := findings file root }

end Walk

end Extraction
end Conformance
