import Conformance.Extraction
import Mathlib.Data.List.Basic

/-!
# The walk is the pre-order walk

`walk` takes nodes from a stack and puts their children on top of it.  This module says what it
visits without a stack.

**Visible nodes.**  `visible` lists a node and then what is visible of its children, one after the
other; of a mistake nothing is visible.  A stack is a list of trees still to be visited, so a walk
goes on with what is visible of each of them (`walk_eq`).

**Places.**  Equal nodes may stand at several places of a tree, so that a node is told apart by the
positions of the children that lead to it.  `placed` gives the visible nodes with their places; the
relation `SeenAt` says on its own which places those are.

**Results.**
* `walk_eq`: a walk visits what is visible;
* `placed_pairwise`, `mem_placed`: each visible place is visited once, and in the order of the
  source;
* `factsOfTree_preorder`: the facts of a file are put together from what its visible nodes state.
-/

namespace Conformance
namespace Extraction

section Specification

mutual

/-- A node and what is visible below it, in source order; nothing, if the node is a mistake. -/
def visible : Node → List Node
  | n@⟨kind, _, _, _, _, _, children⟩ =>
      if kind = .error then [] else n :: visibleAll children

/-- What is visible of several nodes. -/
def visibleAll : List Node → List Node
  | [] => []
  | n :: rest => visible n ++ visibleAll rest

end

mutual

/-- The visible nodes of a tree with their places. -/
def placed : Node → List (List Nat × Node)
  | n@⟨kind, _, _, _, _, _, children⟩ =>
      if kind = .error then [] else ([], n) :: placedFrom 0 children

/-- The visible nodes of several trees, the first of which stands at position `k`. -/
def placedFrom (k : Nat) : List Node → List (List Nat × Node)
  | [] => []
  | n :: rest => (placed n).map (fun p => (k :: p.1, p.2)) ++ placedFrom (k + 1) rest

end

/-- A place leads to a node, and neither the node nor any node on the way is a mistake. -/
inductive SeenAt : Node → List Nat → Node → Prop
  | here {n : Node} (h : n.kind ≠ .error) : SeenAt n [] n
  | child {n c m : Node} {k : Nat} {path : List Nat} (h : n.kind ≠ .error)
      (hchild : n.children[k]? = some c) (hseen : SeenAt c path m) : SeenAt n (k :: path) m

/-- A tree has a package clause that holds an identifier. -/
def NamesPackage (root : Node) : Prop :=
  ∃ clause ∈ root.namedChildren, clause.kind = .packageClause ∧
    ∃ name ∈ clause.namedChildren, name.kind = .packageIdentifier

end Specification

section Visible

theorem visibleAll_eq (ns : List Node) : visibleAll ns = ns.flatMap visible := by
  induction ns with
  | nil => rfl
  | cons n ns ih => rw [visibleAll, ih, List.flatMap_cons]

/-- What is visible of a node. -/
theorem visible_eq (n : Node) :
    visible n = if n.kind = .error then [] else n :: n.children.flatMap visible := by
  cases n
  rw [visible, visibleAll_eq]

/-- A walk visits what is visible of its stack, one tree after the other. -/
theorem walk_eq (visited stack : List Node) :
    walk visited stack = visited.reverse ++ stack.flatMap visible := by
  induction visited, stack using walk.induct with
  | case1 visited => rw [walk, List.flatMap_nil, List.append_nil]
  | case2 visited n stack herror ih =>
      rw [walk, if_pos herror, ih, List.flatMap_cons, visible_eq, if_pos herror, List.nil_append]
  | case3 visited n stack hgood ih =>
      rw [walk, if_neg hgood, ih, List.flatMap_cons, visible_eq n, if_neg hgood,
        List.reverse_cons, List.flatMap_append]
      simp only [List.append_assoc, List.cons_append, List.nil_append]

end Visible

section Places

theorem placed_eq (n : Node) :
    placed n = if n.kind = .error then [] else ([], n) :: placedFrom 0 n.children := by
  cases n
  rw [placed]

/-- A place below several trees is one below a single of them. -/
theorem mem_placedFrom {ns : List Node} {k : Nat} {path : List Nat} {m : Node} :
    (path, m) ∈ placedFrom k ns ↔
      ∃ j c rest, ns[j]? = some c ∧ path = (k + j) :: rest ∧ (rest, m) ∈ placed c := by
  induction ns generalizing k with
  | nil => simp [placedFrom]
  | cons n ns ih =>
      rw [placedFrom, List.mem_append, ih]
      constructor
      · rintro (h | ⟨j, c, rest, hc, rfl, hm⟩)
        · obtain ⟨⟨rest, m'⟩, hm, heq⟩ := List.mem_map.1 h
          obtain ⟨rfl, rfl⟩ := Prod.mk.inj heq
          exact ⟨0, n, rest, rfl, rfl, hm⟩
        · exact ⟨j + 1, c, rest, hc, by rw [Nat.add_assoc, Nat.add_comm 1], hm⟩
      · rintro ⟨j, c, rest, hc, rfl, hm⟩
        cases j with
        | zero =>
            obtain rfl : n = c := Option.some.inj hc
            exact .inl (List.mem_map.2 ⟨(rest, m), hm, rfl⟩)
        | succ j => exact .inr ⟨j, c, rest, hc, by rw [Nat.add_assoc, Nat.add_comm 1], hm⟩

/-- The visible places are those that no mistake is on the way to. -/
theorem mem_placed {n m : Node} {path : List Nat} : (path, m) ∈ placed n ↔ SeenAt n path m := by
  induction path generalizing n with
  | nil =>
      rw [placed_eq]
      constructor
      · intro h
        split at h
        next => cases h
        next hgood =>
          rcases List.mem_cons.1 h with heq | h
          · obtain ⟨-, rfl⟩ := Prod.mk.inj heq
            exact .here hgood
          · obtain ⟨j, c, rest, -, hpath, -⟩ := mem_placedFrom.1 h
            cases hpath
      · rintro (⟨hgood⟩)
        rw [if_neg hgood]
        exact List.mem_cons_self
  | cons k path ih =>
      rw [placed_eq]
      constructor
      · intro h
        split at h
        next => cases h
        next hgood =>
          rcases List.mem_cons.1 h with heq | h
          · cases (Prod.mk.inj heq).1
          · obtain ⟨j, c, rest, hc, hpath, hm⟩ := mem_placedFrom.1 h
            obtain ⟨rfl, rfl⟩ := List.cons.inj hpath
            rw [Nat.zero_add]
            exact .child hgood hc (ih.1 hm)
      · rintro (⟨⟩ | ⟨hgood, hc, hseen⟩)
        rw [if_neg hgood]
        refine List.mem_cons_of_mem _ (mem_placedFrom.2 ?_)
        exact ⟨k, _, path, hc, by rw [Nat.zero_add], ih.2 hseen⟩

theorem placedFrom_pairwise {ns : List Node}
    (h : ∀ n ∈ ns, (placed n).Pairwise fun p q => p.1 < q.1) (k : Nat) :
    (placedFrom k ns).Pairwise fun p q => p.1 < q.1 := by
  induction ns generalizing k with
  | nil => exact .nil
  | cons n ns ih =>
      rw [placedFrom, List.pairwise_append, List.pairwise_map]
      refine ⟨?_, ih (fun c hc => h c (List.mem_cons_of_mem n hc)) (k + 1), ?_⟩
      · refine (h n List.mem_cons_self).imp fun hlt => ?_
        exact List.cons_lt_cons_iff.2 (.inr ⟨rfl, hlt⟩)
      · rintro p hp ⟨path, m⟩ hq
        obtain ⟨p', -, rfl⟩ := List.mem_map.1 hp
        obtain ⟨j, c, rest, -, rfl, -⟩ := mem_placedFrom.1 hq
        exact List.cons_lt_cons_iff.2 (.inl (by omega))

/-- A place is listed before those below it and before those of later children. -/
theorem placed_pairwise (n : Node) : (placed n).Pairwise fun p q => p.1 < q.1 := by
  induction n using Node.induction with
  | h n ih =>
      rw [placed_eq]
      split
      next => exact .nil
      next =>
        refine .cons ?_ (placedFrom_pairwise ih 0)
        rintro ⟨path, m⟩ hq
        obtain ⟨j, c, rest, -, rfl, -⟩ := mem_placedFrom.1 hq
        exact List.nil_lt_cons _ _

theorem map_snd_placedFrom {ns : List Node} (h : ∀ n ∈ ns, (placed n).map Prod.snd = visible n)
    (k : Nat) : (placedFrom k ns).map Prod.snd = ns.flatMap visible := by
  induction ns generalizing k with
  | nil => rfl
  | cons n ns ih =>
      rw [placedFrom, List.map_append, List.map_map, List.flatMap_cons,
        ih (fun c hc => h c (List.mem_cons_of_mem n hc)), ← h n List.mem_cons_self]
      rfl

/-- The visible nodes are those at the visible places. -/
theorem map_snd_placed (n : Node) : (placed n).map Prod.snd = visible n := by
  induction n using Node.induction with
  | h n ih =>
      rw [placed_eq, visible_eq]
      split
      next => rfl
      next => rw [List.map_cons, map_snd_placedFrom ih]

end Places

section Contributions

variable (file : String)

/-- The type specifications that stand directly in a type declaration. -/
def typeSpecs (n : Node) : List Node :=
  n.namedChildren.filter (·.kind == .typeSpec)

theorem flatMap_ite {α β : Type} (p : α → Bool) (f : α → List β) (xs : List α) :
    (xs.flatMap fun x => if p x then f x else []) = (xs.filter p).flatMap f := by
  induction xs with
  | nil => rfl
  | cons x xs ih =>
      rw [List.flatMap_cons, List.filter_cons, ih]
      split
      next => rw [List.flatMap_cons]
      next => rw [List.nil_append]

/-- A type specification states interfaces and structs only. -/
theorem specFindings_eq (spec : Node) :
    specFindings file spec =
      { interfaces := (specFindings file spec).interfaces
        structs := (specFindings file spec).structs } := by
  rw [specFindings]
  split
  next => split <;> rfl
  next => rfl

/-- What a node states, sort by sort. -/
theorem nodeFindings_eq (n : Node) :
    nodeFindings file n =
      { interfaces :=
          if n.kind == .typeDeclaration then
            (typeSpecs n).flatMap fun spec => (specFindings file spec).interfaces
          else []
        structs :=
          if n.kind == .typeDeclaration then
            (typeSpecs n).flatMap fun spec => (specFindings file spec).structs
          else []
        methods := if n.kind == .methodDeclaration then (methodOf? file n).toList else []
        directives :=
          if n.kind == .comment then Directive.scan (locationOf file n) n.text else [] } := by
  rw [nodeFindings]
  split
  next h =>
    have hmethods : ∀ spec, (specFindings file spec).methods = [] := by
      intro spec
      rw [specFindings_eq]
    have hdirectives : ∀ spec, (specFindings file spec).directives = [] := by
      intro spec
      rw [specFindings_eq]
    simp [h, Findings.concat_eq, List.flatMap_map, hmethods, hdirectives, typeSpecs]
  next h => simp [h]
  next h => simp [h]
  next hdecl hmethod hcomment =>
    simp [show n.kind ≠ _ from hdecl, show n.kind ≠ _ from hmethod, show n.kind ≠ _ from hcomment]

/-- What a tree states, put together from its visible nodes. -/
theorem findings_eq (root : Node) :
    findings file root =
      { interfaces := ((visible root).filter (·.kind == .typeDeclaration)).flatMap fun n =>
          (typeSpecs n).flatMap fun spec => (specFindings file spec).interfaces
        structs := ((visible root).filter (·.kind == .typeDeclaration)).flatMap fun n =>
          (typeSpecs n).flatMap fun spec => (specFindings file spec).structs
        methods := ((visible root).filter (·.kind == .methodDeclaration)).filterMap (methodOf? file)
        directives := ((visible root).filter (·.kind == .comment)).flatMap fun n =>
          Directive.scan (locationOf file n) n.text } := by
  rw [findings, walk_eq, List.reverse_nil, List.nil_append, List.flatMap_singleton,
    Findings.concat_eq]
  simp only [List.flatMap_map, nodeFindings_eq, flatMap_ite, List.filterMap_eq_flatMap_toList]

end Contributions

section Main

/-- A tree names a package exactly if it has a package clause with an identifier. -/
theorem packageName?_eq_none_iff {root : Node} :
    packageName? root = none ↔ ¬ NamesPackage root := by
  simp [packageName?, NamesPackage]

/--
**Facts in source order.**  The facts of a file that names a package are what its visible nodes
state, each sort in the order of the source; a file that names none has no facts.  Visible are the
nodes at the places that no mistake is on the way to: each such place is visited once, before those
below it and before those of later siblings.
-/
theorem factsOfTree_preorder (file : String) (root : Node) :
    let seen := visible root
    (NamesPackage root →
      ∃ package, packageName? root = some package ∧ factsOfTree file root =
        { file
          package := some package
          findings :=
            { interfaces := (seen.filter (·.kind == .typeDeclaration)).flatMap fun n =>
                (typeSpecs n).flatMap fun spec => (specFindings file spec).interfaces
              structs := (seen.filter (·.kind == .typeDeclaration)).flatMap fun n =>
                (typeSpecs n).flatMap fun spec => (specFindings file spec).structs
              methods := (seen.filter (·.kind == .methodDeclaration)).filterMap (methodOf? file)
              directives := (seen.filter (·.kind == .comment)).flatMap fun n =>
                Directive.scan (locationOf file n) n.text } })
    ∧
    (¬ NamesPackage root →
      factsOfTree file root =
        { file
          package := none
          findings := { interfaces := [], structs := [], methods := [], directives := [] } })
    ∧
    seen = (placed root).map Prod.snd
    ∧
    (placed root).Pairwise (fun p q => p.1 < q.1)
    ∧
    ∀ path n, (path, n) ∈ placed root ↔ SeenAt root path n := by
  intro seen
  refine ⟨?_, ?_, (map_snd_placed root).symm, placed_pairwise root, fun path n => mem_placed⟩
  · intro hnames
    obtain ⟨package, hpackage⟩ : ∃ package, packageName? root = some package := by
      rw [← Option.ne_none_iff_exists']
      exact fun hnone => packageName?_eq_none_iff.1 hnone hnames
    refine ⟨package, hpackage, ?_⟩
    rw [factsOfTree, hpackage, findings_eq]
  · intro hnames
    rw [factsOfTree, packageName?_eq_none_iff.2 hnames]

/-- A named node without mistakes. -/
def construct (kind : Kind) (text : String) (role : Option Role) (children : List Node) : Node :=
  { kind, text, line := 0, named := true, hasError := false, role, children }

/-- A directive and a method. -/
def leftovers : List Node :=
  [construct .comment "// ensure File implements Reader" none [],
    construct .methodDeclaration "" none []]

/-- A file with a mistake between two declarations, in which these nodes stand. -/
def damagedFile (inside : List Node) : Node :=
  construct (.other "source_file") "" none [
    construct .packageClause "" none [construct .packageIdentifier "streams" none []],
    construct .typeDeclaration "" none [
      construct .typeSpec "" none [
        construct .typeIdentifier "Reader" (some .name) [],
        construct .interfaceType "" (some .type) []]],
    construct .error "" none inside,
    construct .methodDeclaration "" none [
      construct (.other "parameter_list") "" (some .receiver) [
        construct .parameterDeclaration "" none [
          construct .typeIdentifier "File" (some .type) []]],
      construct (.other "field_identifier") "Close" (some .name) []]]

/--
What stands before and after the mistake counts, and nothing in it does; without a package clause
nothing counts.
-/
theorem factsOfTree_preorder_damagedFile :
    let place : Location := ⟨0, "a.go"⟩
    let nameless := construct (.other "source_file") "" none leftovers
    NamesPackage (damagedFile leftovers)
    ∧
    factsOfTree "a.go" (damagedFile leftovers) =
      { file := "a.go"
        package := some "streams"
        findings :=
          { interfaces := [{ name := "Reader", location := place }]
            structs := []
            methods := [{ receiver := "File", name := "Close", location := place }]
            directives := [] } }
    ∧
    (placed (damagedFile leftovers)).map Prod.fst =
      [[], [0], [0, 0], [1], [1, 0], [1, 0, 0], [1, 0, 1], [3], [3, 0], [3, 0, 0], [3, 0, 0, 0],
        [3, 1]]
    ∧
    ¬ NamesPackage nameless
    ∧
    factsOfTree "a.go" nameless = { file := "a.go" } := by
  intro place nameless
  have hnames : NamesPackage (damagedFile leftovers) :=
    ⟨_, List.mem_cons_self, rfl, _, List.mem_cons_self, rfl⟩
  obtain ⟨package, hpackage, hfacts⟩ :=
    (factsOfTree_preorder "a.go" (damagedFile leftovers)).1 hnames
  obtain rfl : "streams" = package := Option.some.inj hpackage
  have hnameless : ¬ NamesPackage nameless := packageName?_eq_none_iff.1 rfl
  refine ⟨hnames, hfacts.trans rfl, rfl, hnameless, ?_⟩
  exact (factsOfTree_preorder "a.go" nameless).2.1 hnameless

end Main

end Extraction
end Conformance
