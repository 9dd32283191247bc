import Conformance.Number.Double
import Conformance.OrderedMap
import Conformance.Text.Order

/-!
# Resolutions

Which struct implements which interface, and why.  A resolution is a map from pairs of an interface
and a struct to edges; who implements an interface, and which interfaces are satisfied, are views of
that map.

**Operations.**  `add` writes an edge only where there is none, so the first reason for an edge is
the one that stays.

**Results.**
* `has_add`, `edge?_add`: what a resolution holds after an addition;
* `mem_implementationsOf`: the implementations of an interface are the structs with an edge to it.
-/

namespace Conformance

/-- Why a struct implements an interface. -/
inductive Reason
  /-- A directive says so. -/
  | explicit
  /-- The struct has all the methods. -/
  | full
  /-- The type has enough of the methods. -/
  | partly
  /-- A type without a struct declaration has all the methods. -/
  | receiver
  /-- The struct embeds the interface, or a type that implements it. -/
  | embedded
  /-- A reason that no rule of the library gives. -/
  | other (name : String)
deriving DecidableEq, Repr

/-- The name of a reason in a report. -/
def Reason.name : Reason → String
  | .explicit => "explicit"
  | .full => "full"
  | .partly => "partial"
  | .receiver => "receiver"
  | .embedded => "embedded"
  | .other name => name

/-- The reason of this name. -/
def Reason.ofName (name : String) : Reason :=
  (([.explicit, .full, .partly, .receiver, .embedded] : List Reason).find?
    fun reason => reason.name == name).getD (.other name)

/-- A reason, and the part of the methods that was found if methods were compared. -/
structure Edge where
  reason : Reason
  rate : Option Double := none
deriving DecidableEq, Repr

/-- An interface and a struct. -/
abbrev EdgeKey := String × String

/-- The edges by interface and struct, in the order in which they were found. -/
structure Resolution where
  edges : OrderedMap EdgeKey Edge

namespace Resolution

section Defs

/-- The resolution without edges. -/
def empty : Resolution := ⟨.empty⟩

instance : Inhabited Resolution := ⟨empty⟩

/-- The number of edges. -/
def size (r : Resolution) : Nat := r.edges.size

/-- The edge from a struct to an interface. -/
def edge? (r : Resolution) (interfaceName structName : String) : Option Edge :=
  r.edges.get? (interfaceName, structName)

/-- Whether there is an edge from a struct to an interface. -/
def has (r : Resolution) (interfaceName structName : String) : Bool :=
  r.edges.contains (interfaceName, structName)

/-- Adds an edge where there is none. -/
def add (r : Resolution) (interfaceName structName : String) (e : Edge) : Resolution :=
  if r.has interfaceName structName then r else ⟨r.edges.insert (interfaceName, structName) e⟩

/-- The structs that implement an interface. -/
def implementationsOf (r : Resolution) (interfaceName : String) : List String :=
  (r.edges.keys.filter fun key => key.1 == interfaceName).map Prod.snd

/-- The interfaces that some struct implements. -/
def satisfied (r : Resolution) : List String :=
  (r.edges.keys.map Prod.fst).eraseDups

/-- The interfaces that a struct implements. -/
def interfacesOf (r : Resolution) (structName : String) : List String :=
  (r.edges.keys.filter fun key => key.2 == structName).map Prod.fst

/-- The satisfied interfaces with their implementations, both in order. -/
def implementations (r : Resolution) : List (String × List String) :=
  (Text.sortedSet r.satisfied).map fun i => (i, Text.sorted (r.implementationsOf i))

/-- The edges, by interface and then by struct. -/
def sortedEdges (r : Resolution) : List (EdgeKey × Edge) :=
  r.edges.entries.mergeSort fun a b => Text.pairLe a.1 b.1

end Defs

section Lemmas

variable {r : Resolution} {i s j t : String} {e : Edge}

theorem has_iff : r.has i s = true ↔ (i, s) ∈ r.edges.keys :=
  OrderedMap.contains_iff

theorem has_eq_isSome : r.has i s = (r.edge? i s).isSome := rfl

theorem edge?_add :
    (r.add i s e).edge? j t =
      if r.has i s = false ∧ i = j ∧ s = t then some e else r.edge? j t := by
  by_cases h : r.has i s = true
  · simp [add, h]
  · have h' : r.has i s = false := by simpa using h
    simp [add, h', edge?, Prod.ext_iff]

theorem has_add : (r.add i s e).has j t = true ↔ r.has j t = true ∨ (i = j ∧ s = t) := by
  rw [has_eq_isSome, edge?_add]
  by_cases h : r.has i s = true
  · by_cases hk : i = j ∧ s = t
    · obtain ⟨rfl, rfl⟩ := hk
      simp [h, ← has_eq_isSome]
    · simp [h, hk, ← has_eq_isSome]
  · have h' : r.has i s = false := by simpa using h
    by_cases hk : i = j ∧ s = t
    · obtain ⟨rfl, rfl⟩ := hk
      simp [h']
    · simp [h', hk, ← has_eq_isSome]

/-- The implementations of an interface are the structs with an edge to it. -/
theorem mem_implementationsOf : s ∈ r.implementationsOf i ↔ r.has i s = true := by
  rw [has_iff]
  simp [implementationsOf]

/-- The interfaces of a struct are those with an edge from it. -/
theorem mem_interfacesOf : i ∈ r.interfacesOf s ↔ r.has i s = true := by
  rw [has_iff]
  simp [interfacesOf]

theorem mem_satisfied : i ∈ r.satisfied ↔ ∃ s, r.has i s = true := by
  simp [satisfied, has_iff]

end Lemmas

end Resolution
end Conformance
