import Conformance.Event
import Conformance.Text.Order

/-!
# Queries

What a consumer asks of a result: the declared interfaces with their methods and places, the methods
of each type with theirs, and a summary of each struct.

**Marks.**  In a map from methods to places, the place of the declaration itself stands under a mark
(`interfaceMark`, `structMark`), which is no identifier.

**Repetition.**  A name may be declared more than once.  The last declaration counts, in the place
of the first; the places of the methods of all declarations come together in one map.

**Results.**
* `mem_interfaceNames`: the names are those of the declared interfaces;
* `summaries_keys`: a struct has a summary exactly if it is declared.
-/

namespace Conformance

/-- What is known of a struct: where it is, its fields by name, and what it is said to implement. -/
structure StructSummary where
  name : String
  location : Location
  fields : OrderedMap String Field := .empty
  /-- The interfaces that directives claim for the struct. -/
  implements : List String := []

/-- Places of methods, and of declarations under their mark, by the name of the type. -/
abbrev Places := OrderedMap String (OrderedMap String Location)

namespace Query

section Marks

/-- The mark under which the place of an interface declaration is kept. -/
def interfaceMark : String := "<interface_def>"

/-- The mark under which the place of a struct declaration is kept. -/
def structMark : String := "<struct_def>"

/-- Whether a key is a mark and not the name of a method. -/
def isMark (key : String) : Bool :=
  key == interfaceMark || key == structMark

end Marks

section Records

variable (r : Result)

/-- The interface declarations of all packages. -/
def interfaces : List Interface := r.findings.flatMap (·.interfaces)

/-- The struct declarations of all packages. -/
def structs : List Struct := r.findings.flatMap (·.structs)

/-- The directives of all packages. -/
def directives : List Directive := r.findings.flatMap (·.directives)

end Records

section Defs

/-- The places given for types and keys; of several for the same key the last one counts. -/
def gather (entries : List (String × String × Location)) : Places :=
  entries.foldl
    (fun places (type, key, place) =>
      places.adjust type fun known => (known.getD .empty).insert key place)
    .empty

/-- The names of all interfaces. -/
def interfaceNames (r : Result) : List String :=
  ((interfaces r).map (·.name)).eraseDups

/-- The methods that each interface lists itself. -/
def interfaceMethods (r : Result) : OrderedMap String (List String) :=
  .ofList ((interfaces r).map fun i => (i.name, i.methods.map (·.name)))

/-- The places that an interface declaration gives: its own and those of its methods. -/
def interfacePlaces (i : Interface) : List (String × String × Location) :=
  (i.name, interfaceMark, i.location) :: i.methods.map fun m => (i.name, m.name, m.location)

/-- The places of all interfaces and of their methods. -/
def interfaceLocations (r : Result) : Places :=
  gather ((interfaces r).flatMap interfacePlaces)

/-- The places that a package gives: those of the methods, then those of the structs. -/
def receiverPlaces (f : Findings) : List (String × String × Location) :=
  (f.methods.map fun m => (m.receiver, m.name, m.location))
    ++ f.structs.map fun s => (s.name, structMark, s.location)

/-- The places of the methods of each type, whatever its receivers, and of each struct. -/
def receivers (r : Result) : Places :=
  gather (r.findings.flatMap receiverPlaces)

/-- The interfaces that directives of any package claim for a struct. -/
def claimed (r : Result) (structName : String) : List String :=
  (((directives r).filter fun d => d.structName == structName).map (·.interfaceName)).eraseDups

/-- The summary of a struct declaration. -/
def summary (r : Result) (s : Struct) : StructSummary where
  name := s.name
  location := s.location
  fields := .ofList (s.fields.map fun f => (f.name, f))
  implements := claimed r s.name

/-- The summaries of all structs. -/
def summaries (r : Result) : OrderedMap String StructSummary :=
  .ofList ((structs r).map fun s => (s.name, summary r s))

/-- What is told about directives for structs that are not declared. -/
def summaryEvents (r : Result) : List Event :=
  ((directives r).filter fun d => !(summaries r).contains d.structName).map fun d =>
    .unknownStruct d.structName d.location.file d.location.line

end Defs

section Lemmas

theorem mem_interfaceNames {r : Result} {name : String} :
    name ∈ interfaceNames r ↔ ∃ i ∈ interfaces r, i.name = name := by
  simp [interfaceNames]

/-- A struct has a summary exactly if it is declared. -/
theorem summaries_keys {r : Result} {name : String} :
    name ∈ (summaries r).keys ↔ ∃ s ∈ structs r, s.name = name := by
  simp [summaries, OrderedMap.mem_keys_ofList]

end Lemmas

end Query
end Conformance
