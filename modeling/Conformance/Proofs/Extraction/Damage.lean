import Conformance.Proofs.Extraction.Walk

/-!
# Mistakes hide what is below them

What a mistake in a source file holds can have been read in many ways.  This module says that the
facts of the file do not depend on it.

**Pruning.**  `pruned` takes away what is below the mistakes in a tree.  Kept are the mistakes
themselves, those that play a role in their parent, and the root, whatever it is.  Trees differ in
what their mistakes hold if they are the same after pruning.

**Views.**  A child in a role, or of a kind that is no mistake, is pruned like a tree of its own
(`child?_pruned`, `filter_namedChildren_pruned`); other children are asked for their kind and their
type name only, and a mistake has no type name.

**Results.**
* `typeName_pruned`, `nodeFindings_pruned`, `visible_pruned`: type names, contributions and the walk
  do not look below a mistake;
* `factsOfTree_eq_of_pruned_eq`: so the facts do not either.
-/

namespace Conformance
namespace Extraction

section Pruning

mutual

/-- The tree with nothing left below the mistakes in it that play no role in their parent. -/
def pruned : Node → Node
  | ⟨kind, text, line, named, hasError, role, children⟩ =>
      ⟨kind, text, line, named, hasError, role, prunedAll children⟩

/-- The children of a node, pruned. -/
def prunedAll : List Node → List Node
  | [] => []
  | c :: rest =>
      (if c.kind = .error ∧ c.role = none then { c with children := [] } else pruned c)
        :: prunedAll rest

end

/-- A child, pruned: nothing is left below a mistake that plays no role. -/
def pruneChild (c : Node) : Node :=
  if c.kind = .error ∧ c.role = none then { c with children := [] } else pruned c

theorem prunedAll_eq (cs : List Node) : prunedAll cs = cs.map pruneChild := by
  induction cs with
  | nil => rfl
  | cons c cs ih => rw [prunedAll, ih, List.map_cons, pruneChild]

theorem pruned_eq (n : Node) : pruned n = { n with children := n.children.map pruneChild } := by
  cases n
  rw [pruned, prunedAll_eq]

/-- Pruning a child leaves everything but its children as it is. -/
theorem pruneChild_eq (c : Node) :
    pruneChild c = { c with children := (pruneChild c).children } := by
  rw [pruneChild]
  split
  next => rfl
  next => rw [pruned_eq]

@[simp]
theorem kind_pruneChild (c : Node) : (pruneChild c).kind = c.kind := by
  rw [pruneChild_eq]

@[simp]
theorem named_pruneChild (c : Node) : (pruneChild c).named = c.named := by
  rw [pruneChild_eq]

@[simp]
theorem hasError_pruneChild (c : Node) : (pruneChild c).hasError = c.hasError := by
  rw [pruneChild_eq]

@[simp]
theorem role_pruneChild (c : Node) : (pruneChild c).role = c.role := by
  rw [pruneChild_eq]

@[simp]
theorem kind_pruned (n : Node) : (pruned n).kind = n.kind := by
  rw [pruned_eq]

@[simp]
theorem text_pruned (n : Node) : (pruned n).text = n.text := by
  rw [pruned_eq]

@[simp]
theorem hasError_pruned (n : Node) : (pruned n).hasError = n.hasError := by
  rw [pruned_eq]

@[simp]
theorem locationOf_pruned (file : String) (n : Node) :
    locationOf file (pruned n) = locationOf file n := by
  rw [pruned_eq, locationOf, locationOf]

@[simp]
theorem children_pruned (n : Node) : (pruned n).children = n.children.map pruneChild := by
  rw [pruned_eq]

theorem pruneChild_of_role {c : Node} {role : Role} (h : c.role = some role) :
    pruneChild c = pruned c := by
  have hrole : ¬ (c.kind = .error ∧ c.role = none) := by simp [h]
  rw [pruneChild, if_neg hrole]

theorem pruneChild_of_kind {c : Node} (h : c.kind ≠ .error) : pruneChild c = pruned c := by
  rw [pruneChild, if_neg fun hdamage => h hdamage.1]

/-- A view that neither pruning nor what is below a mistake changes is the same for a child. -/
theorem pruneChild_congr {α : Type} {g : Node → α} {c : Node} (hpruned : g (pruned c) = g c)
    (herror : c.kind = .error → g { c with children := [] } = g c) : g (pruneChild c) = g c := by
  rw [pruneChild]
  split
  next hdamage => exact herror hdamage.1
  next => exact hpruned

end Pruning

section Views

theorem child?_pruned (n : Node) (role : Role) :
    (pruned n).child? role = (n.child? role).map pruned := by
  rw [Node.child?, Node.child?, children_pruned, List.find?_map]
  simp only [Function.comp_def, role_pruneChild]
  cases h : n.children.find? fun c => c.role == some role with
  | none => rfl
  | some c =>
      have hrole : c.role = some role := by simpa using List.find?_some h
      rw [Option.map_some, Option.map_some, pruneChild_of_role hrole]

theorem childrenInRole_pruned (n : Node) (role : Role) :
    (pruned n).childrenInRole role = (n.childrenInRole role).map pruned := by
  rw [Node.childrenInRole, Node.childrenInRole, children_pruned, List.filter_map]
  simp only [Function.comp_def, role_pruneChild]
  refine List.map_congr_left fun c hc => ?_
  have hrole : c.role = some role := by simpa using (List.mem_filter.1 hc).2
  exact pruneChild_of_role hrole

theorem namedChildren_pruned (n : Node) :
    (pruned n).namedChildren = n.namedChildren.map pruneChild := by
  rw [Node.namedChildren, Node.namedChildren, children_pruned, List.filter_map]
  simp only [Function.comp_def, named_pruneChild]

/-- Named children that are no mistakes are pruned like trees of their own. -/
theorem filter_namedChildren_pruned {p : Node → Bool} (hp : ∀ c, p (pruneChild c) = p c)
    (hkind : ∀ c, p c = true → c.kind ≠ .error) (n : Node) :
    (pruned n).namedChildren.filter p = (n.namedChildren.filter p).map pruned := by
  rw [namedChildren_pruned, List.filter_map]
  simp only [Function.comp_def, hp]
  refine List.map_congr_left fun c hc => ?_
  exact pruneChild_of_kind (hkind c (List.mem_filter.1 hc).2)

theorem ofKind_pruned {kind : Kind} (h : kind ≠ .error) (n : Node) :
    (pruned n).namedChildren.filter (·.kind == kind)
      = (n.namedChildren.filter (·.kind == kind)).map pruned := by
  refine filter_namedChildren_pruned (by simp) (fun c hc => ?_) n
  rw [beq_iff_eq.1 hc]
  exact h

end Views

section TypeNames

theorem firstTypeName_map {f : Node → Node} {p : Node → Bool} (hp : ∀ c, p (f c) = p c)
    {cs : List Node} (h : ∀ c ∈ cs, typeName (f c) = typeName c) :
    firstTypeName p (cs.map f) = firstTypeName p cs := by
  induction cs with
  | nil => rfl
  | cons c cs ih =>
      rw [List.map_cons, firstTypeName, firstTypeName, hp, h c List.mem_cons_self,
        ih fun c hc => h c (List.mem_cons_of_mem _ hc)]

theorem typeName_of_error {n : Node} (h : n.kind = .error) : typeName n = ("", false) := by
  rw [typeName_eq, h]

/-- A type name does not depend on what is below a mistake. -/
theorem typeName_pruned (n : Node) : typeName (pruned n) = typeName n := by
  induction n using Node.induction with
  | h n ih =>
      have hchild : ∀ c ∈ n.children, typeName (pruneChild c) = typeName c := by
        intro c hc
        refine pruneChild_congr (ih c hc) fun herror => ?_
        rw [typeName_of_error herror, typeName_of_error]
        exact herror
      have hnamed : firstTypeName (·.named) (n.children.map pruneChild)
          = firstTypeName (·.named) n.children := firstTypeName_map named_pruneChild hchild
      have hrole : firstTypeName (fun c => c.role == some .type) (n.children.map pruneChild)
          = firstTypeName (fun c => c.role == some .type) n.children :=
        firstTypeName_map (by simp) hchild
      rw [typeName_eq, typeName_eq]
      simp only [kind_pruned, text_pruned, children_pruned, child?_pruned, hnamed, hrole]
      cases n.child? .package with
      | none => rfl
      | some package =>
          cases n.child? .name with
          | none => rfl
          | some name => simp only [Option.map_some, text_pruned]

theorem typeName_pruneChild (c : Node) : typeName (pruneChild c) = typeName c := by
  refine pruneChild_congr (typeName_pruned c) fun herror => ?_
  rw [typeName_of_error herror, typeName_of_error]
  exact herror

theorem typeName?_map_pruned (n : Option Node) : typeName? (n.map pruned) = typeName? n := by
  cases n with
  | none => rfl
  | some n => exact typeName_pruned n

end TypeNames

section Contributions

variable (file : String)

theorem methodSpec?_pruneChild (c : Node) :
    methodSpec? file (pruneChild c) = methodSpec? file c := by
  refine pruneChild_congr ?_ fun herror => ?_
  · simp only [methodSpec?, hasError_pruned, kind_pruned, child?_pruned, locationOf_pruned,
      Option.map_map, Function.comp_def, text_pruned]
  · simp only [methodSpec?, herror]

theorem embedded?_pruneChild (c : Node) : embedded? (pruneChild c) = embedded? c := by
  refine pruneChild_congr ?_ fun herror => ?_
  · simp only [embedded?, hasError_pruned, kind_pruned, typeName_pruned, namedChildren_pruned]
    match c.namedChildren with
    | [] => rfl
    | [single] => simp only [List.map_cons, List.map_nil, typeName_pruneChild]
    | _ :: _ :: _ => rfl
  · simp only [embedded?, herror]

theorem interfaceOf_pruned (name : String) (spec type : Node) :
    interfaceOf file name (pruned spec) (pruned type) = interfaceOf file name spec type := by
  simp only [interfaceOf, locationOf_pruned, namedChildren_pruned, List.filterMap_map,
    Function.comp_def, methodSpec?_pruneChild, embedded?_pruneChild]

theorem fieldsOf_pruned (n : Node) : fieldsOf file (pruned n) = fieldsOf file n := by
  have hstar : ((pruned n).children.any fun c => c.kind == .star)
      = n.children.any fun c => c.kind == .star := by
    simp [List.any_map, Function.comp_def]
  simp only [fieldsOf, child?_pruned, typeName?_map_pruned, childrenInRole_pruned, hstar,
    locationOf_pruned]
  cases n.childrenInRole .name with
  | nil => rfl
  | cons name names => simp

theorem fieldDeclarations_pruned (type : Node) :
    fieldDeclarations (pruned type) = (fieldDeclarations type).map pruned := by
  have hfields : ∀ list : Node,
      ((pruned list).namedChildren.filter fun n => n.kind == .fieldDeclaration && !n.hasError)
        = (list.namedChildren.filter fun n => n.kind == .fieldDeclaration && !n.hasError).map
            pruned := by
    refine filter_namedChildren_pruned (by simp) fun c hc => ?_
    rw [Bool.and_eq_true, beq_iff_eq] at hc
    rw [hc.1]
    decide
  rw [fieldDeclarations, fieldDeclarations, ofKind_pruned (by decide), List.flatMap_map,
    List.map_flatMap]
  simp only [hfields]

theorem structOf_pruned (name : String) (spec type : Node) :
    structOf file name (pruned spec) (pruned type) = structOf file name spec type := by
  simp only [structOf, locationOf_pruned, fieldDeclarations_pruned, List.flatMap_map,
    fieldsOf_pruned]

theorem specFindings_pruned (spec : Node) :
    specFindings file (pruned spec) = specFindings file spec := by
  rw [specFindings, specFindings, child?_pruned, child?_pruned]
  cases spec.child? .name with
  | none => rfl
  | some name =>
      cases spec.child? .type with
      | none => rfl
      | some type =>
          simp only [Option.map_some, kind_pruned, text_pruned, interfaceOf_pruned,
            structOf_pruned]

theorem methodOf?_pruned (n : Node) : methodOf? file (pruned n) = methodOf? file n := by
  rw [methodOf?, methodOf?, child?_pruned, child?_pruned]
  cases n.child? .receiver with
  | none => rfl
  | some receiver =>
      cases n.child? .name with
      | none => rfl
      | some name =>
          simp only [Option.map_some, hasError_pruned, text_pruned, locationOf_pruned,
            ofKind_pruned (show Kind.parameterDeclaration ≠ .error by decide)]
          cases receiver.namedChildren.filter (·.kind == .parameterDeclaration) with
          | nil => rfl
          | cons parameter rest =>
              simp only [List.map_cons, child?_pruned, typeName?_map_pruned]

/-- What a node states does not depend on what is below a mistake. -/
theorem nodeFindings_pruned (n : Node) : nodeFindings file (pruned n) = nodeFindings file n := by
  simp only [nodeFindings, kind_pruned, text_pruned, locationOf_pruned, methodOf?_pruned,
    ofKind_pruned (show Kind.typeSpec ≠ .error by decide), List.map_map, Function.comp_def,
    specFindings_pruned]

end Contributions

section Walk

/-- The nodes that are visible after pruning are those visible before, pruned. -/
theorem visible_pruned (n : Node) : visible (pruned n) = (visible n).map pruned := by
  induction n using Node.induction with
  | h n ih =>
      rw [visible_eq, visible_eq n, kind_pruned]
      split
      next => rfl
      next =>
        have hchild : ∀ c ∈ n.children, visible (pruneChild c) = (visible c).map pruned := by
          intro c hc
          -- A mistake in a role is pruned like any other child, but not visible either.
          by_cases herror : c.kind = .error
          · rw [visible_eq, visible_eq c, kind_pruneChild, if_pos herror, if_pos herror]
            rfl
          · rw [pruneChild_of_kind herror]
            exact ih c hc
        rw [children_pruned, List.flatMap_map, List.map_cons, List.map_flatMap,
          List.flatMap_congr hchild]

theorem packageName?_pruned (root : Node) : packageName? (pruned root) = packageName? root := by
  simp only [packageName?, ofKind_pruned (show Kind.packageClause ≠ .error by decide),
    ofKind_pruned (show Kind.packageIdentifier ≠ .error by decide), List.flatMap_map,
    List.map_map, Function.comp_def, text_pruned]

theorem findings_pruned (file : String) (root : Node) :
    findings file (pruned root) = findings file root := by
  rw [findings, findings, walk_eq, walk_eq]
  simp only [List.reverse_nil, List.nil_append, List.flatMap_singleton, visible_pruned,
    List.map_map, Function.comp_def, nodeFindings_pruned]

theorem factsOfTree_pruned (file : String) (root : Node) :
    factsOfTree file (pruned root) = factsOfTree file root := by
  rw [factsOfTree, factsOfTree, packageName?_pruned, findings_pruned]

end Walk

section Main

/--
**Mistakes hide what is below them.**  Trees that differ only in what is below mistakes which play
no role in their parent give the same facts, the package and its name included.
-/
theorem factsOfTree_eq_of_pruned_eq (file : String) {t t' : Node} (h : pruned t = pruned t') :
    factsOfTree file t = factsOfTree file t' := by
  rw [← factsOfTree_pruned file t, h, factsOfTree_pruned]

/-- It does not matter whether a mistake holds a directive and a method or a package clause. -/
theorem factsOfTree_eq_damagedFile :
    let otherPackage :=
      [construct .packageClause "" none [construct .packageIdentifier "b" none []]]
    pruned (damagedFile leftovers) = pruned (damagedFile otherPackage)
    ∧
    factsOfTree "a.go" (damagedFile leftovers) = factsOfTree "a.go" (damagedFile otherPackage) := by
  intro otherPackage
  have hpruned : pruned (damagedFile leftovers) = pruned (damagedFile otherPackage) := rfl
  exact ⟨hpruned, factsOfTree_eq_of_pruned_eq "a.go" hpruned⟩

end Main

end Extraction
end Conformance
