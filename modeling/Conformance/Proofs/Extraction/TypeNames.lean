import Conformance.Extraction
import Mathlib.Data.List.Basic

/-!
# Type names see through wrappers

**Wrappers.**  A pointer, parentheses that hold something, and a type with arguments are wrappers.
What a wrapper is around is its first child that stands for a construct, or, of a type with
arguments, the child in the role of the type (`core?`).

**Ways.**  From a type there is one way through the wrappers (`Way`).  It ends at a node that is no
wrapper, or nowhere if a wrapper is around nothing.  The name of the type is that of the node at the
end, and the type is a pointer if the way passes one.

**Rewrapping.**  A type is rewrapped by putting parentheses or type arguments around it, or around
what is deeper in it, any number of times (`Rewrapped`).  The way then passes more wrappers, but no
other pointers, and ends where it ended.

**Results.**
* `exists_way`, `Way.unique`: there is exactly one way;
* `typeName_of_way`: the name and the pointer mark of a type are told by its way;
* `typeName_of_rewrapped`: rewrapping changes neither;
* `fieldsOf_retyped`, `methodOf?_retyped`: nor the fields and methods that are declared with it.
-/

namespace Conformance
namespace Extraction

section Wrappers

variable {n c : Node}

/-- A pointer, parentheses that hold something, or a type with arguments. -/
def IsWrapper (n : Node) : Prop :=
  n.kind = .pointerType ∨ (n.kind = .parenthesizedType ∧ n.namedChildren ≠ []) ∨
    n.kind = .genericType

/-- The node that a wrapper is around. -/
def core? (n : Node) : Option Node :=
  if n.kind = .genericType then n.child? .type else n.namedChildren.head?

/--
The way from a type through wrappers: the kinds of the wrappers that it passes, and the node where it
ends, if it ends at one.
-/
inductive Way : Node → List Kind → Option Node → Prop
  | here {n : Node} (h : ¬ IsWrapper n) : Way n [] (some n)
  | nowhere {n : Node} (h : IsWrapper n) (hcore : core? n = none) : Way n [n.kind] none
  | through {n c : Node} {passed : List Kind} {last : Option Node} (h : IsWrapper n)
      (hcore : core? n = some c) (hway : Way c passed last) : Way n (n.kind :: passed) last

/-- The name of the node at the end of a way. -/
def baseName : Option Node → String
  | none => ""
  | some n =>
      match n.kind with
      | .typeIdentifier => n.text
      | .qualifiedType =>
          match n.child? .package, n.child? .name with
          | some package, some name => package.text ++ "." ++ name.text
          | _, _ => ""
      | _ => ""

theorem mem_children_of_core? (h : core? n = some c) : c ∈ n.children := by
  rw [core?] at h
  split at h
  next => exact List.mem_of_find?_eq_some h
  next => exact List.mem_of_mem_filter (List.mem_of_mem_head? h)

/-- From every type there is a way. -/
theorem exists_way (n : Node) : ∃ passed last, Way n passed last := by
  induction n using Node.induction with
  | h n ih =>
      by_cases h : IsWrapper n
      · cases hcore : core? n with
        | none => exact ⟨_, _, .nowhere h hcore⟩
        | some c =>
            obtain ⟨passed, last, hway⟩ := ih c (mem_children_of_core? hcore)
            exact ⟨_, _, .through h hcore hway⟩
      · exact ⟨_, _, .here h⟩

/-- From every type there is one way only. -/
theorem Way.unique {passed passed' : List Kind} {last last' : Option Node} (h : Way n passed last)
    (h' : Way n passed' last') : passed' = passed ∧ last' = last := by
  induction h generalizing passed' last' with
  | here hwrapper =>
      cases h' with
      | here => exact ⟨rfl, rfl⟩
      | nowhere hwrapper' => exact absurd hwrapper' hwrapper
      | through hwrapper' => exact absurd hwrapper' hwrapper
  | nowhere hwrapper hcore =>
      cases h' with
      | here hwrapper' => exact absurd hwrapper hwrapper'
      | nowhere => exact ⟨rfl, rfl⟩
      | through _ hcore' =>
          rw [hcore] at hcore'
          cases hcore'
  | through hwrapper hcore _ ih =>
      cases h' with
      | here hwrapper' => exact absurd hwrapper hwrapper'
      | nowhere _ hcore' =>
          rw [hcore] at hcore'
          cases hcore'
      | through _ hcore' hway' =>
          rw [hcore] at hcore'
          cases hcore'
          obtain ⟨rfl, rfl⟩ := ih hway'
          exact ⟨rfl, rfl⟩

end Wrappers

section Names

variable {n m c : Node}

theorem firstTypeName_eq (p : Node → Bool) (cs : List Node) :
    firstTypeName p cs = typeName? (cs.find? p) := by
  induction cs with
  | nil => rfl
  | cons c cs ih =>
      rw [firstTypeName, ih]
      cases hp : p c with
      | false => simp [hp]
      | true => simp [hp, typeName?]

/-- The name of a wrapper is that of what it is around, and a pointer is marked as one. -/
theorem typeName_of_isWrapper (h : IsWrapper n) :
    typeName n
      = if n.kind = .pointerType then
          ((typeName? (core? n)).1, !(typeName? (core? n)).1.isEmpty)
        else typeName? (core? n) := by
  have hnamed : n.children.find? (·.named) = n.namedChildren.head? := List.head?_filter.symm
  rw [typeName_eq, firstTypeName_eq, firstTypeName_eq, hnamed, core?]
  rcases h with h | ⟨h, -⟩ | h
  · simp [h]
  · simp [h]
  · simp [h, Node.child?]

/-- Any other type has its own name, and is no pointer. -/
theorem typeName_of_not_isWrapper (h : ¬ IsWrapper n) :
    typeName n = (baseName (some n), false) := by
  rw [typeName_eq, baseName]
  cases hkind : n.kind with
  | pointerType => exact absurd (.inl hkind) h
  | genericType => exact absurd (.inr (.inr hkind)) h
  | parenthesizedType =>
      have hnone : n.namedChildren = [] := by
        by_contra hne
        exact h (.inr (.inl ⟨hkind, hne⟩))
      have hnamed : n.children.find? (·.named) = n.namedChildren.head? := List.head?_filter.symm
      rw [firstTypeName_eq, hnamed, hnone]
      rfl
  | qualifiedType =>
      cases n.child? .package with
      | none => rfl
      | some package =>
          cases n.child? .name with
          | none => rfl
          | some name => rfl
  | _ => rfl

/-- The name and the pointer mark of a type are told by its way. -/
theorem typeName_of_way {passed : List Kind} {last : Option Node} (h : Way n passed last) :
    (typeName n).1 = baseName last ∧
      ((typeName n).2 = true ↔ baseName last ≠ "" ∧ .pointerType ∈ passed) := by
  induction h with
  | here hwrapper =>
      rw [typeName_of_not_isWrapper hwrapper]
      exact ⟨rfl, by simp⟩
  | nowhere hwrapper hcore =>
      rw [typeName_of_isWrapper hwrapper, hcore]
      split
      next => exact ⟨rfl, by simp [typeName?, baseName]⟩
      next => exact ⟨rfl, by simp [typeName?, baseName]⟩
  | @through n c passed last hwrapper hcore _ ih =>
      obtain ⟨hname, hpointer⟩ := ih
      rw [typeName_of_isWrapper hwrapper, hcore]
      split
      next hkind =>
        refine ⟨hname, ?_⟩
        rw [hkind, show typeName? (some c) = typeName c from rfl, hname]
        simp
      next hkind =>
        refine ⟨hname, hpointer.trans ?_⟩
        rw [List.mem_cons, or_iff_right fun h => hkind h.symm]

end Names

section Rewrapping

/--
A type with parentheses or type arguments put around it, or around what is deeper in it, any number
of times.  What is put in another place may play another role there.
-/
inductive Rewrapped : Node → Node → Prop
  | same (n : Node) (role : Option Role) : Rewrapped n { n with role }
  | around {n m p : Node} (h : Rewrapped n m)
      (hkind : p.kind = .parenthesizedType ∨ p.kind = .genericType) (hcore : core? p = some m) :
      Rewrapped n p
  | within {n m c d : Node} (h : Rewrapped c d) (hn : IsWrapper n) (hkind : m.kind = n.kind)
      (hcore : core? n = some c) (hcore' : core? m = some d) : Rewrapped n m

variable {n m c : Node}

theorem typeName_withRole (n : Node) (role : Option Role) :
    typeName { n with role } = typeName n := by
  rw [typeName_eq, typeName_eq]
  rfl

theorem isWrapper_of_core? (hkind : n.kind = .parenthesizedType ∨ n.kind = .genericType)
    (hcore : core? n = some c) : IsWrapper n := by
  rcases hkind with hkind | hkind
  · refine .inr (.inl ⟨hkind, fun hnil => ?_⟩)
    rw [core?, hkind, hnil] at hcore
    cases hcore
  · exact .inr (.inr hkind)

/-- Rewrapping a type changes neither its name nor its pointer mark. -/
theorem typeName_of_rewrapped (h : Rewrapped n m) : typeName m = typeName n := by
  induction h with
  | same n role => exact typeName_withRole n role
  | @around n m p _ hkind hcore ih =>
      have hpointer : p.kind ≠ .pointerType := by
        rcases hkind with hkind | hkind <;> rw [hkind] <;> decide
      rw [typeName_of_isWrapper (isWrapper_of_core? hkind hcore), if_neg hpointer, hcore]
      exact ih
  | @within n m c d _ hn hkind hcore hcore' ih =>
      have hm : IsWrapper m := by
        rcases hn with hn | ⟨hn, -⟩ | hn
        · exact .inl (hkind.trans hn)
        · exact isWrapper_of_core? (.inl (hkind.trans hn)) hcore'
        · exact .inr (.inr (hkind.trans hn))
      have hname : typeName? (core? m) = typeName? (core? n) := by
        rw [hcore, hcore']
        exact ih
      rw [typeName_of_isWrapper hm, typeName_of_isWrapper hn, hkind, hname]

/-- A rewrapped type is a star only if it was one. -/
theorem kind_ne_star_of_rewrapped (h : Rewrapped n m) (hn : n.kind ≠ .star) : m.kind ≠ .star := by
  cases h with
  | same => exact hn
  | around _ hkind _ =>
      rcases hkind with hkind | hkind <;> rw [hkind] <;> decide
  | within _ _ hkind _ _ =>
      rw [hkind]
      exact hn

end Rewrapping

section Contributions

variable {n m a b : Node} {file : String}

/-- `b` is `a` with the child `m` in the place of the child `n`. -/
def Replaces (n m a b : Node) : Prop :=
  ∃ before after, a.children = before ++ n :: after ∧
    b = { a with children := before ++ m :: after }

/-- `b` is the declaration `a` with its type `n` rewrapped as `m`. -/
structure Retyped (n m a b : Node) : Prop where
  rewrapped : Rewrapped n m
  replaces : Replaces n m a b
  isType : a.child? .type = some n
  staysType : b.child? .type = some m

/-- Nothing but a child is replaced. -/
theorem Replaces.eq_withChildren (h : Replaces n m a b) : b = { a with children := b.children } := by
  obtain ⟨before, after, -, rfl⟩ := h
  rfl

theorem Replaces.locationOf_eq (h : Replaces n m a b) : locationOf file b = locationOf file a := by
  rw [h.eq_withChildren]
  rfl

/-- What a search finds looks as before, if the child that is replaced does. -/
theorem Replaces.map_find?_eq {α : Type} (h : Replaces n m a b) {p : Node → Bool} {g : Node → α}
    (hp : p m = p n) (hg : g m = g n) :
    (b.children.find? p).map g = (a.children.find? p).map g := by
  obtain ⟨before, after, hchildren, rfl⟩ := h
  rw [hchildren, List.find?_append, List.find?_append, List.find?_cons, List.find?_cons, hp]
  cases before.find? p with
  | some c => rfl
  | none =>
      cases p n with
      | false => rfl
      | true => exact congrArg some hg

theorem Replaces.filter_eq (h : Replaces n m a b) {p : Node → Bool} (hn : p n = false)
    (hm : p m = false) : b.children.filter p = a.children.filter p := by
  obtain ⟨before, after, hchildren, rfl⟩ := h
  simp [hchildren, hn, hm]

theorem Replaces.any_eq (h : Replaces n m a b) {p : Node → Bool} (hp : p m = p n) :
    b.children.any p = a.children.any p := by
  obtain ⟨before, after, hchildren, rfl⟩ := h
  simp [hchildren, hp]

theorem role_of_child? {role : Role} (h : a.child? role = some n) : n.role = some role := by
  simpa using List.find?_some h

/-- The type name of a declaration does not depend on how its type is wrapped. -/
theorem Retyped.typeName?_eq (h : Retyped n m a b) :
    typeName? (b.child? .type) = typeName? (a.child? .type) := by
  rw [h.isType, h.staysType]
  exact typeName_of_rewrapped h.rewrapped

/-- The fields of a declaration do not depend on how its type is wrapped. -/
theorem fieldsOf_retyped (h : Retyped n m a b) : fieldsOf file b = fieldsOf file a := by
  have hn : (n.role == some .name) = false := by
    rw [role_of_child? h.isType]
    decide
  have hm : (m.role == some .name) = false := by
    rw [role_of_child? h.staysType]
    decide
  have hnames : b.childrenInRole .name = a.childrenInRole .name := h.replaces.filter_eq hn hm
  rw [fieldsOf, fieldsOf, h.typeName?_eq, hnames, h.replaces.locationOf_eq]
  cases a.childrenInRole .name with
  | cons name names => rfl
  | nil =>
      by_cases hstar : n.kind = .star
      · -- a star has no name, so there is no field
        have hnone : typeName? (a.child? .type) = ("", false) := by
          rw [h.isType, typeName?, typeName_eq, hstar]
        rw [hnone]
        rfl
      · have hkind : (m.kind == .star) = (n.kind == .star) := by
          rw [beq_false_of_ne hstar, beq_false_of_ne (kind_ne_star_of_rewrapped h.rewrapped hstar)]
        have hstars : (b.children.any fun c => c.kind == .star)
            = a.children.any fun c => c.kind == .star := h.replaces.any_eq hkind
        rw [hstars]

/-- The type of the first parameter of a receiver. -/
def receiverType (receiver : Node) : String × Bool :=
  ((receiver.children.find? fun c => c.named && c.kind == .parameterDeclaration).map fun c =>
    typeName? (c.child? .type)).getD ("", false)

theorem methodOf?_eq (n : Node) :
    methodOf? file n
      = ((n.child? .receiver).map fun c => (c.hasError, receiverType c)).bind fun r =>
          ((n.child? .name).map (·.text)).bind fun name =>
            if r.1 || r.2.1.isEmpty then none
            else some ⟨r.2.1, name, locationOf file n, r.2.2⟩ := by
  rw [methodOf?]
  cases n.child? .receiver with
  | none => rfl
  | some receiver =>
      cases n.child? .name with
      | none => rfl
      | some name =>
          have hparameter : (receiver.namedChildren.filter (·.kind == .parameterDeclaration)).head?
              = receiver.children.find? fun c => c.named && c.kind == .parameterDeclaration := by
            rw [List.head?_filter, Node.namedChildren, List.find?_filter]
            simp only [Bool.decide_and, Bool.decide_eq_true]
          simp only [Option.map_some, Option.bind_some, receiverType, ← hparameter]
          cases receiver.namedChildren.filter (·.kind == .parameterDeclaration) with
          | nil => simp
          | cons parameter rest =>
              cases receiver.hasError with
              | true => rfl
              | false => rfl

/-- A method does not depend on how the type of its receiver is wrapped. -/
theorem methodOf?_retyped {receiver receiver' method method' : Node} (h : Retyped n m a b)
    (hreceiver : Replaces a b receiver receiver')
    (hmethod : Replaces receiver receiver' method method') :
    methodOf? file method' = methodOf? file method := by
  have htype : receiverType receiver' = receiverType receiver := by
    have hsame : (b.named && b.kind == .parameterDeclaration)
        = (a.named && a.kind == .parameterDeclaration) := by rw [h.replaces.eq_withChildren]
    rw [receiverType, receiverType, hreceiver.map_find?_eq hsame h.typeName?_eq]
  have hrole : receiver'.role = receiver.role := by rw [hreceiver.eq_withChildren]
  have herror : receiver'.hasError = receiver.hasError := by rw [hreceiver.eq_withChildren]
  have htext : receiver'.text = receiver.text := by rw [hreceiver.eq_withChildren]
  have hparts : ((method'.child? .receiver).map fun c => (c.hasError, receiverType c))
      = (method.child? .receiver).map fun c => (c.hasError, receiverType c) :=
    hmethod.map_find?_eq (by rw [hrole]) (by rw [herror, htype])
  have hname : (method'.child? .name).map (·.text) = (method.child? .name).map (·.text) :=
    hmethod.map_find?_eq (by rw [hrole]) htext
  rw [methodOf?_eq, methodOf?_eq, hparts, hname, hmethod.locationOf_eq]

end Contributions

section Main

/--
**Type names see through wrappers.**  From every type there is exactly one way through its wrappers.
The name of the type is that of the node at the end of the way: its text, or the package and the name
of a qualified type, or nothing if it is another node or there is none.  The type is a pointer if
the name is not empty and the way passes a pointer.

However parentheses and type arguments are put around a type, or around what is deeper in it, its
name and pointer mark stay the same, and so do the fields of a declaration of this type, and a
method with a receiver of this type.
-/
theorem typeName_sees_through (n : Node) :
    (∃! way : List Kind × Option Node, Way n way.1 way.2)
    ∧
    (∀ passed last, Way n passed last →
      (typeName n).1 = baseName last ∧
        ((typeName n).2 = true ↔ baseName last ≠ "" ∧ .pointerType ∈ passed))
    ∧
    ∀ m, Rewrapped n m →
      typeName m = typeName n
      ∧
      (∀ file declaration declaration', Retyped n m declaration declaration' →
        fieldsOf file declaration' = fieldsOf file declaration)
      ∧
      ∀ file parameter parameter' receiver receiver' method method',
        Retyped n m parameter parameter' → Replaces parameter parameter' receiver receiver' →
          Replaces receiver receiver' method method' →
            methodOf? file method' = methodOf? file method := by
  refine ⟨?_, fun passed last => typeName_of_way, fun m h => ⟨typeName_of_rewrapped h, ?_, ?_⟩⟩
  · obtain ⟨passed, last, hway⟩ := exists_way n
    refine ⟨(passed, last), hway, ?_⟩
    rintro ⟨passed', last'⟩ hway'
    exact Prod.ext_iff.2 (hway.unique hway')
  · exact fun file declaration declaration' hretyped => fieldsOf_retyped hretyped
  · intro file parameter parameter' receiver receiver' method method' hretyped
    exact methodOf?_retyped hretyped

/-- A pointer to a type with arguments, all in parentheses. -/
example :
    let node (kind : Kind) (role : Option Role) (text : String) (children : List Node) : Node :=
      ⟨kind, text, 0, true, false, role, children⟩
    let stack := node .typeIdentifier (some .type) "Stack" []
    let generic := node .genericType none "" [stack, node (.other "type_arguments") none "" []]
    let pointer := node .pointerType none "" [node .parenthesizedType none "" [generic]]
    typeName (node .parenthesizedType (some .type) "" [pointer]) = ("Stack", true) := by
  rfl

end Main

end Extraction
end Conformance
