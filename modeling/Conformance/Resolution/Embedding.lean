import Conformance.Query
import Conformance.Resolution.Basic

/-!
# Closure over embedding

A struct with an embedded field of type `T` implements an interface if `T` is that interface or
implements it.  The closure adds such edges in passes over all structs until a pass adds none, or
until a limit on the number of passes is reached.

Edges that a pass has added count for the rest of the same pass.  The closure also tells how many
edges it has added.

**Results.**
* `grow_of_pass_eq`: the closure stands still where a pass changes nothing.
-/

namespace Conformance
namespace Resolution

/-- An embedded field: the struct that has it, and its type. -/
structure Embedding where
  structName : String
  typeName : String
deriving DecidableEq, Repr

section Defs

/-- The embedded fields of the structs, struct by struct. -/
def embeddings (structs : OrderedMap String StructSummary) : List Embedding :=
  structs.entries.flatMap fun (structName, s) =>
    (s.fields.values.filter (·.embedded)).map fun f => ⟨structName, f.typeName⟩

/-- A resolution that a closure lets grow, and the number of edges added so far. -/
structure Growth where
  resolution : Resolution
  added : Nat := 0

/-- Adds an edge for embedding where there is none, and counts it. -/
def Growth.add (g : Growth) (interfaceName structName : String) : Growth :=
  if g.resolution.has interfaceName structName then g
  else ⟨g.resolution.add interfaceName structName { reason := .embedded }, g.added + 1⟩

/-- Hands an interface on to a struct if what the struct embeds is it or implements it. -/
def inherit (e : Embedding) (g : Growth) (interfaceName : String) : Growth :=
  if e.typeName = interfaceName ∨ g.resolution.has interfaceName e.typeName then
    g.add interfaceName e.structName
  else g

/-- One pass over all embedded fields and, for each of them, over all interfaces. -/
def pass (interfaces : List String) (structs : OrderedMap String StructSummary) (g : Growth) :
    Growth :=
  (embeddings structs).foldl (fun g e => interfaces.foldl (inherit e) g) g

/-- What grows in passes until one adds nothing, of which there are at most `limit`. -/
def grow (interfaces : List String) (structs : OrderedMap String StructSummary) :
    Nat → Growth → Growth
  | 0, g => g
  | limit + 1, g =>
      let g' := pass interfaces structs g
      if g'.added = g.added then g' else grow interfaces structs limit g'

/-- The closure of a resolution in at most `limit` passes, with the number of edges added. -/
def close (interfaces : List String) (structs : OrderedMap String StructSummary) (limit : Nat)
    (r : Resolution) : Growth :=
  grow interfaces structs limit ⟨r, 0⟩

/-- Whether one of the first `limit` passes adds nothing. -/
def settles (interfaces : List String) (structs : OrderedMap String StructSummary) :
    Nat → Growth → Bool
  | 0, _ => false
  | limit + 1, g =>
      let g' := pass interfaces structs g
      g'.added == g.added || settles interfaces structs limit g'

end Defs

section Lemmas

variable {interfaces : List String} {structs : OrderedMap String StructSummary}

/-- Where a pass changes nothing, further passes do not either. -/
theorem grow_of_pass_eq {g : Growth} (h : pass interfaces structs g = g) (limit : Nat) :
    grow interfaces structs limit g = g := by
  cases limit with
  | zero => rfl
  | succ limit => simp [grow, h]

end Lemmas

end Resolution
end Conformance
