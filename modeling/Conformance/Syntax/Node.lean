/-!
# Syntax trees

The concrete syntax tree of a source file.  A node has a kind, the line it starts on, the role it
plays in its parent and its children in source order; leaves and comments carry their text.

**Views.**
* `Node.namedChildren`: the children that stand for a construct and not for a token;
* `Node.child?` and `Node.childrenInRole`: the children that play a given role;
* `Node.size`: the number of nodes of a tree, the measure of every walk.

**Results.** A child is smaller than its parent (`size_lt_of_mem`), so what passes from the children
of a node to the node holds of every node (`induction`).
-/

namespace Conformance

/-- What a node stands for; the kinds that carry no facts are told apart by name only. -/
inductive Kind
  | error
  | comment
  | packageClause
  | packageIdentifier
  | typeDeclaration
  | typeSpec
  | methodDeclaration
  | interfaceType
  | structType
  | fieldDeclarationList
  | fieldDeclaration
  | methodElem
  | methodSpec
  | typeElem
  | interfaceTypeName
  | constraintElem
  | typeIdentifier
  | qualifiedType
  | pointerType
  | genericType
  | parenthesizedType
  | parameterDeclaration
  | star
  | other (name : String)
deriving DecidableEq, Repr, Inhabited

namespace Kind

/-- The kinds that carry facts, with the names that a grammar gives them. -/
def table : List (String × Kind) := [
  ("ERROR", .error), ("comment", .comment),
  ("package_clause", .packageClause), ("package_identifier", .packageIdentifier),
  ("type_declaration", .typeDeclaration), ("type_spec", .typeSpec),
  ("method_declaration", .methodDeclaration),
  ("interface_type", .interfaceType), ("struct_type", .structType),
  ("field_declaration_list", .fieldDeclarationList), ("field_declaration", .fieldDeclaration),
  ("method_elem", .methodElem), ("method_spec", .methodSpec),
  ("type_elem", .typeElem), ("interface_type_name", .interfaceTypeName),
  ("constraint_elem", .constraintElem),
  ("type_identifier", .typeIdentifier), ("qualified_type", .qualifiedType),
  ("pointer_type", .pointerType), ("generic_type", .genericType),
  ("parenthesized_type", .parenthesizedType), ("parameter_declaration", .parameterDeclaration),
  ("*", .star)]

/-- The kind of this name. -/
def ofName (name : String) : Kind :=
  ((table.find? fun entry => entry.1 == name).map Prod.snd).getD (.other name)

end Kind

/-- The part that a child plays in its parent. -/
inductive Role
  | name
  | type
  | package
  | receiver
  | other (name : String)
deriving DecidableEq, Repr

namespace Role

/-- The role of this name. -/
def ofName (name : String) : Role :=
  if name = "name" then .name
  else if name = "type" then .type
  else if name = "package" then .package
  else if name = "receiver" then .receiver
  else .other name

end Role

/-- A node of a syntax tree with all that is below it. -/
structure Node where
  kind : Kind
  /-- The source text, of leaves and comments. -/
  text : String
  /-- The line the node starts on, counted from zero. -/
  line : Int
  /-- Whether the node stands for a construct and not for a mere token. -/
  named : Bool
  /-- Whether there is a mistake somewhere in the node. -/
  hasError : Bool
  role : Option Role
  children : List Node
deriving Repr, Inhabited

namespace Node

section Views

/-- The children that stand for a construct. -/
def namedChildren (n : Node) : List Node :=
  n.children.filter (·.named)

/-- The first child in a role. -/
def child? (n : Node) (role : Role) : Option Node :=
  n.children.find? fun c => c.role == some role

/-- The children in a role. -/
def childrenInRole (n : Node) (role : Role) : List Node :=
  n.children.filter fun c => c.role == some role

end Views

section Size

mutual

/-- The number of nodes of a tree. -/
def size : Node → Nat
  | ⟨_, _, _, _, _, _, children⟩ => 1 + sizes children

/-- The number of nodes of several trees. -/
def sizes : List Node → Nat
  | [] => 0
  | n :: rest => n.size + sizes rest

end

theorem size_eq (n : Node) : n.size = 1 + sizes n.children := by
  cases n; simp [size]

theorem sizes_append (ns ms : List Node) : sizes (ns ++ ms) = sizes ns + sizes ms := by
  induction ns with
  | nil => simp [sizes]
  | cons n ns ih => simp [sizes, ih, Nat.add_assoc]

theorem size_le_sizes {n : Node} {ns : List Node} (h : n ∈ ns) : n.size ≤ sizes ns := by
  induction ns with
  | nil => cases h
  | cons m ns ih =>
      rw [sizes]
      rcases List.mem_cons.1 h with rfl | h
      · omega
      · have := ih h
        omega

/-- A child is smaller than its parent. -/
theorem size_lt_of_mem {c n : Node} (h : c ∈ n.children) : c.size < n.size := by
  have := size_le_sizes h
  rw [size_eq n]
  omega

/-- What holds of a node if it holds of its children holds of every node. -/
@[elab_as_elim]
theorem induction {P : Node → Prop} (h : ∀ n, (∀ c ∈ n.children, P c) → P n) (n : Node) : P n :=
  h n fun c _ => induction h c
termination_by n.size
decreasing_by exact size_lt_of_mem (by assumption)

end Size

end Node
end Conformance
