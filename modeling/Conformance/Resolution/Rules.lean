import Conformance.Options
import Conformance.Resolution.Coverage
import Conformance.Resolution.Embedding

/-!
# Resolving implementations

Three rules say which struct implements which interface.

1. **Directives.**  A struct implements a declared interface if a directive says so.
2. **Methods.**  A type implements an interface that lists methods if it has all of them, or a part
   that reaches the threshold.  The methods of `Name` and `*Name` are taken together.  A type with
   methods but without a struct declaration counts too, unless no struct is declared at all: then
   every type is taken for a struct.  That a type has all methods is told by their numbers, not by
   the rate, which is rounded; for up to `2 ^ precision` methods a rate of one says the same.
3. **Embedding.**  `Resolution.close` hands interfaces on through embedded fields.

An earlier rule wins over a later one, since `Resolution.add` never replaces an edge.
-/

namespace Conformance
namespace Resolution

section Defs

/-- The type that a receiver stands for: its name without the star in front. -/
def baseName (receiver : String) : String :=
  match receiver.toList with
  | '*' :: cs => String.ofList cs
  | _ => receiver

/-- The methods of each type: those of its receivers, without the marks of declarations. -/
def methodSets (receivers : OrderedMap String (List String)) : OrderedMap String (List String) :=
  receivers.entries.foldl
    (fun sets (receiver, methods) =>
      sets.adjust (baseName receiver) fun known =>
        known.getD [] ++ methods.filter fun m => !Query.isMark m)
    .empty

/-- The directives for structs: struct and claimed interface, struct by struct. -/
def claims (structs : OrderedMap String StructSummary) : List (String × String) :=
  structs.entries.flatMap fun (structName, s) =>
    (Text.sortedSet s.implements).map fun interfaceName => (structName, interfaceName)

/-- First rule: the claims about declared interfaces. -/
def addClaims (interfaces : OrderedMap String (List String))
    (structs : OrderedMap String StructSummary) (r : Resolution) : Resolution :=
  ((claims structs).filter fun c => interfaces.contains c.2).foldl
    (fun r (structName, interfaceName) =>
      r.add interfaceName structName { reason := .explicit }) r

/-- The edge that a coverage is worth. -/
def edgeOf (threshold : Double) (fullReason : Reason) (c : Coverage) : Option Edge :=
  if c.isFull then some ⟨fullReason, some c.rate⟩
  else if threshold.le c.rate then some ⟨.partly, some c.rate⟩
  else none

/-- Compares the methods of a type with those of an interface. -/
def compare (threshold : Double) (fullReason : Reason) (interfaceName : String)
    (required : List String) (r : Resolution) (candidate : String × List String) : Resolution :=
  match edgeOf threshold fullReason (.of required candidate.2) with
  | some e => r.add interfaceName candidate.1 e
  | none => r

/-- Second rule, for some of the types: interfaces without methods are passed over. -/
def addMatches (threshold : Double) (fullReason : Reason)
    (interfaces : OrderedMap String (List String)) (candidates : List (String × List String))
    (r : Resolution) : Resolution :=
  (interfaces.entries.filter fun e => !e.2.isEmpty).foldl
    (fun r (interfaceName, required) =>
      candidates.foldl (compare threshold fullReason interfaceName required) r) r

/-- Whether a type is taken for a struct. -/
def isStruct (structs : OrderedMap String StructSummary) (name : String) : Bool :=
  structs.isEmpty || structs.contains name

/-- The resolution by the first two rules. -/
def direct (o : Options) (interfaces receivers : OrderedMap String (List String))
    (structs : OrderedMap String StructSummary) : Resolution :=
  let types := (methodSets receivers).entries
  let withClaims := addClaims interfaces structs empty
  let withStructs :=
    addMatches o.threshold .full interfaces (types.filter fun t => isStruct structs t.1) withClaims
  addMatches o.threshold .receiver interfaces (types.filter fun t => !isStruct structs t.1)
    withStructs

/-- The resolution by all three rules. -/
def resolve (o : Options) (interfaces receivers : OrderedMap String (List String))
    (structs : OrderedMap String StructSummary) : Resolution :=
  (close interfaces.keys structs o.maxPasses.toNat
    (direct o interfaces receivers structs)).resolution

/-- What is told about a resolution. -/
def resolveEvents (o : Options) (interfaces receivers : OrderedMap String (List String))
    (structs : OrderedMap String StructSummary) : List Event :=
  let unknown := (claims structs).filter fun c => !interfaces.contains c.2
  let start := direct o interfaces receivers structs
  let limit := o.maxPasses.toNat
  let stopped := !structs.isEmpty && !settles interfaces.keys structs limit ⟨start, 0⟩
  let final := (close interfaces.keys structs limit start).resolution
  unknown.map (fun c => .unknownInterface c.1 c.2)
    ++ (if stopped then [.closureStopped limit] else [])
    ++ [.resolved final.size final.satisfied.length interfaces.size]

end Defs

section Results

/-- The names of the methods of each type, and the marks of declarations. -/
def receiverNames (r : Result) : OrderedMap String (List String) :=
  (Query.receivers r).mapValues OrderedMap.keys

/-- The resolution of a result. -/
def ofResult (o : Options) (r : Result) : Resolution :=
  resolve o (Query.interfaceMethods r) (receiverNames r) (Query.summaries r)

/-- The resolution of a result, with what is told about it. -/
def logged (o : Options) (r : Result) : Logged Resolution where
  value := ofResult o r
  events := Query.summaryEvents r
    ++ resolveEvents o (Query.interfaceMethods r) (receiverNames r) (Query.summaries r)

/-- The implementations of an interface in order, with the places of their struct declarations. -/
def implementationPlaces (resolution : Resolution) (r : Result) (interfaceName : String) :
    List (String × Option Location) :=
  (Text.sorted (resolution.implementationsOf interfaceName)).map fun name =>
    (name, ((Query.receivers r).get? name).bind fun places => places.get? Query.structMark)

end Results

end Resolution
end Conformance
