import Conformance.Proofs.Resolution.Views

/-!
# Where methods and directives stand does not matter

Methods and directives may stand in any file and package, in any order, and more than once.  All
that a resolution takes from them is which type has which methods and which struct is said to
implement which interface.

**Methods of a type.**  A type has the methods of the receivers that stand for it, whatever else is
known of them (`mem_methodsOf_receiverNames`); the marks of declarations drop out.

**Two resolutions.**  Facts that are the same as sets grow into each other, so neither resolution
has a pair that the other has not (`resolve_within`), even when the closure is stopped by its limit.
A pair of the first two rules has an edge that depends on claims and on the number of covered
methods (`edge?_direct_congr`), and any other edge is for embedding (`edge?_resolve`).

**Results.**
* `edge?_resolve_congr`: types with the same methods and structs with the same embedded fields and
  claims have the same edges;
* `ofResult_congr`: the resolution of a result depends on its methods and directives as sets.
-/

namespace Conformance
namespace Resolution

section Specification

/-- The receivers and names of all methods. -/
def methodPairs (r : Result) : List (String × String) :=
  (Query.methods r).map fun m => (m.receiver, m.name)

/-- The structs and interfaces of all directives. -/
def claimPairs (r : Result) : List (String × String) :=
  (Query.directives r).map fun d => (d.structName, d.interfaceName)

/--
Two results declare the same interfaces and structs, in the same order, and the same methods and
claims, in any order and however often.
-/
structure SameFacts (r r' : Result) : Prop where
  interfaces : Query.interfaces r = Query.interfaces r'
  structs : Query.structs r = Query.structs r'
  methods : ∀ p, p ∈ methodPairs r ↔ p ∈ methodPairs r'
  claims : ∀ p, p ∈ claimPairs r ↔ p ∈ claimPairs r'

theorem SameFacts.symm {r r' : Result} (h : SameFacts r r') : SameFacts r' r :=
  ⟨h.interfaces.symm, h.structs.symm, fun p => (h.methods p).symm, fun p => (h.claims p).symm⟩

end Specification

section Methods

variable {r : Result} {x m : String}

theorem exists_names_iff {receiver : String} :
    (∃ names, (receiverNames r).get? receiver = some names ∧ m ∈ names) ↔
      ∃ place, Query.place? (Query.receivers r) receiver m = some place := by
  rw [receiverNames, OrderedMap.get?_mapValues, Query.place?]
  simp only [Option.map_eq_some_iff, Option.bind_eq_some_iff]
  constructor
  · rintro ⟨-, ⟨known, hknown, rfl⟩, hmem⟩
    obtain ⟨place, hplace⟩ := OrderedMap.mem_keys_iff.1 hmem
    exact ⟨place, known, hknown, hplace⟩
  · rintro ⟨place, known, hknown, hplace⟩
    exact ⟨known.keys, ⟨known, hknown, rfl⟩, OrderedMap.mem_keys_iff.2 ⟨place, hplace⟩⟩

/-- A type has the methods of the receivers that stand for it. -/
theorem mem_methodsOf_receiverNames :
    m ∈ methodsOf (receiverNames r) x ↔
      Query.isMark m = false ∧
        ∃ receiver, (receiver, m) ∈ methodPairs r ∧ baseName receiver = x := by
  simp only [mem_methodsOf, methodPairs, List.mem_map, Prod.mk.injEq]
  constructor
  · rintro ⟨receiver, names, hget, hbase, hmem, hmark⟩
    refine ⟨hmark, receiver, ?_, hbase⟩
    rcases Query.exists_place_receivers.1 (exists_names_iff.1 ⟨names, hget, hmem⟩) with
      hmethod | ⟨rfl, -⟩
    · exact hmethod
    · exact absurd hmark (by decide)
  · rintro ⟨hmark, receiver, hmethod, hbase⟩
    obtain ⟨names, hget, hmem⟩ :=
      exists_names_iff.2 (Query.exists_place_receivers.2 (.inl hmethod))
    exact ⟨receiver, names, hget, hbase, hmem, hmark⟩

/-- The receivers are those of methods, and the declared structs. -/
theorem isReceived_receiverNames :
    IsReceived (receiverNames r) x ↔
      ∃ receiver, baseName receiver = x ∧
        ((∃ m, (receiver, m) ∈ methodPairs r) ∨ ∃ s ∈ Query.structs r, s.name = receiver) := by
  simp only [IsReceived, receiverNames, OrderedMap.keys_mapValues, Query.mem_keys_receivers,
    methodPairs, List.mem_map, Prod.mk.injEq]
  constructor
  · rintro ⟨receiver, ⟨d, hd, hreceiver⟩ | hstruct, hbase⟩
    · exact ⟨receiver, hbase, .inl ⟨d.name, d, hd, hreceiver, rfl⟩⟩
    · exact ⟨receiver, hbase, .inr hstruct⟩
  · rintro ⟨receiver, hbase, ⟨-, d, hd, hreceiver, -⟩ | hstruct⟩
    · exact ⟨receiver, .inl ⟨d, hd, hreceiver⟩, hbase⟩
    · exact ⟨receiver, .inr hstruct, hbase⟩

end Methods

section SameFacts

variable {r r' : Result}

theorem SameFacts.receiversGrow (h : SameFacts r r') :
    ReceiversGrow (receiverNames r) (receiverNames r') := by
  intro x hreceived
  constructor
  · rw [isReceived_receiverNames] at hreceived ⊢
    obtain ⟨receiver, hbase, ⟨m, hm⟩ | hstruct⟩ := hreceived
    · exact ⟨receiver, hbase, .inl ⟨m, (h.methods _).1 hm⟩⟩
    · exact ⟨receiver, hbase, .inr (h.structs ▸ hstruct)⟩
  · intro m hm
    obtain ⟨hmark, receiver, hmethod, hbase⟩ := mem_methodsOf_receiverNames.1 hm
    exact mem_methodsOf_receiverNames.2 ⟨hmark, receiver, (h.methods _).1 hmethod, hbase⟩

theorem mem_claimed_iff {x i : String} : i ∈ Query.claimed r x ↔ (x, i) ∈ claimPairs r := by
  simp [Query.mem_claimed, claimPairs]

theorem SameFacts.structsGrow (h : SameFacts r r') :
    StructsGrow (Query.summaries r) (Query.summaries r') := by
  have hdeclared : Query.declaredStructs r = Query.declaredStructs r' := by
    rw [Query.declaredStructs, Query.declaredStructs, h.structs]
  have hsummary : ∀ s, SummaryGrows (Query.summary r s) (Query.summary r' s) := by
    refine fun s => ⟨List.Subset.refl _, fun i hi => ?_⟩
    exact mem_claimed_iff.2 ((h.claims _).1 (mem_claimed_iff.1 hi))
  refine List.sublistForall₂_iff.2 ⟨_, ?_, List.Sublist.refl _⟩
  rw [Query.summaries_eq, Query.summaries_eq, ← hdeclared, OrderedMap.entries_mapValues,
    OrderedMap.entries_mapValues, List.forall₂_map_left_iff, List.forall₂_map_right_iff,
    List.forall₂_same]
  exact fun e _ => ⟨rfl, hsummary e.2⟩

end SameFacts

section Edges

variable {o : Options} {interfaces receivers receivers' : OrderedMap String (List String)}
  {structs structs' : OrderedMap String StructSummary} {i x : String}

/-- A coverage depends on the available names as a set. -/
theorem coverage_congr {required available available' : List String}
    (h : ∀ m, m ∈ available ↔ m ∈ available') :
    Coverage.of required available = Coverage.of required available' := by
  have hcontains : ∀ m, available.contains m = available'.contains m := by
    intro m
    rw [Bool.eq_iff_iff, List.contains_iff_mem, List.contains_iff_mem, h]
  simp only [Coverage.of, hcontains]

theorem isStruct_congr (h : ∀ x, x ∈ structs.keys ↔ x ∈ structs'.keys) (x : String) :
    isStruct structs x = isStruct structs' x := by
  have hempty : ∀ structs : OrderedMap String StructSummary,
      structs.isEmpty = true ↔ ∀ x, x ∉ structs.keys := by
    intro structs
    rw [OrderedMap.isEmpty, List.isEmpty_iff, OrderedMap.keys, ← List.eq_nil_iff_forall_not_mem,
      List.map_eq_nil_iff]
  rw [Bool.eq_iff_iff, isStruct, isStruct, Bool.or_eq_true, Bool.or_eq_true, hempty, hempty,
    OrderedMap.contains_iff, OrderedMap.contains_iff]
  simp only [h]

theorem mem_keys_of_structsGrow (h : StructsGrow structs structs') (hx : x ∈ structs.keys) :
    x ∈ structs'.keys := by
  obtain ⟨s, hs⟩ := OrderedMap.mem_keys_iff.1 hx
  obtain ⟨s', hs', -⟩ := exists_grown_of_mem h (OrderedMap.get?_eq_some_iff.1 hs)
  exact OrderedMap.mem_keys_iff.2 ⟨s', OrderedMap.get?_eq_some_iff.2 hs'⟩

/-- The first two rules give the same edges. -/
theorem edge?_direct_congr (hreceivers : ReceiversGrow receivers receivers')
    (hreceivers' : ReceiversGrow receivers' receivers) (hstructs : StructsGrow structs structs')
    (hstructs' : StructsGrow structs' structs) (i x : String) :
    (direct o interfaces receivers structs).edge? i x
      = (direct o interfaces receivers' structs').edge? i x := by
  have hclaims : (addClaims interfaces structs empty).edge? i x
      = (addClaims interfaces structs' empty).edge? i x := by
    by_cases hclaimed : Claimed interfaces structs i x
    · rw [(edge?_addClaims i x).1 hclaimed, (edge?_addClaims i x).1 (hclaimed.mono hstructs)]
    · have hclaimed' : ¬ Claimed interfaces structs' i x := fun h => hclaimed (h.mono hstructs')
      rw [(edge?_addClaims i x).2 hclaimed, (edge?_addClaims i x).2 hclaimed']
  have hkeys : ∀ x, x ∈ structs.keys ↔ x ∈ structs'.keys :=
    fun _ => ⟨mem_keys_of_structsGrow hstructs, mem_keys_of_structsGrow hstructs'⟩
  have hstruct : isStruct structs x = isStruct structs' x := isStruct_congr hkeys x
  rw [edge?_direct, edge?_direct, hclaims, hstruct]
  congr 1
  by_cases hcompared : ∃ required, Compared interfaces receivers i x required
  · obtain ⟨required, hget, hne, hreceived⟩ := hcompared
    obtain ⟨hreceived', hsub⟩ := hreceivers x hreceived
    rw [matchEdge?_of_compared ⟨hget, hne, hreceived⟩,
      matchEdge?_of_compared ⟨hget, hne, hreceived'⟩]
    rw [coverage_congr fun m => ⟨@hsub m, @(hreceivers' x hreceived').2 m⟩]
  · have hcompared' : ∀ required, ¬ Compared interfaces receivers' i x required :=
      fun required h => hcompared ⟨required, h.1, h.2.1, (hreceivers' x h.2.2).1⟩
    rw [matchEdge?_of_not_compared fun required h => hcompared ⟨required, h⟩,
      matchEdge?_of_not_compared hcompared']

/-- An edge is one of the first two rules, or else for embedding. -/
theorem edge?_resolve (i x : String) :
    (resolve o interfaces receivers structs).edge? i x
      = ((direct o interfaces receivers structs).edge? i x).or
          (if (resolve o interfaces receivers structs).has i x then
            some { reason := .embedded } else none) := by
  cases hdirect : (direct o interfaces receivers structs).edge? i x with
  | some e => exact edge?_resolve_of_direct hdirect
  | none =>
      cases hfound : (resolve o interfaces receivers structs).edge? i x with
      | none => simp [has_eq_isSome, hfound]
      | some e => simp [has_eq_isSome, hfound, eq_embedded_of_direct_eq_none hdirect hfound]

/-- Facts that grow into each other have the same edges. -/
theorem edge?_resolve_congr (hreceivers : ReceiversGrow receivers receivers')
    (hreceivers' : ReceiversGrow receivers' receivers) (hstructs : StructsGrow structs structs')
    (hstructs' : StructsGrow structs' structs) (i x : String) :
    (resolve o interfaces receivers structs).edge? i x
      = (resolve o interfaces receivers' structs').edge? i x := by
  have hhas : (resolve o interfaces receivers structs).has i x
      = (resolve o interfaces receivers' structs').has i x := by
    rw [Bool.eq_iff_iff]
    exact ⟨resolve_within hreceivers hstructs i x, resolve_within hreceivers' hstructs' i x⟩
  rw [edge?_resolve, edge?_resolve, hhas,
    edge?_direct_congr hreceivers hreceivers' hstructs hstructs' i x]

end Edges

section Main

/--
**Methods and directives count as sets.**  Two results with the same interfaces and structs, in the
same order, whose methods have the same receivers and names and whose directives make the same
claims, have the same edges, with their reasons and rates, and so look the same; this holds for all
options.  The places of methods and directives, their order, their repetition and the kind of a
receiver do not matter.
-/
theorem ofResult_congr (o : Options) {r r' : Result} (h : SameFacts r r') :
    let found := ofResult o r
    let found' := ofResult o r'
    (∀ i x, found.edge? i x = found'.edge? i x)
    ∧
    found.sortedEdges = found'.sortedEdges
    ∧
    found.implementations = found'.implementations
    ∧
    ∀ i, i ∈ found.satisfied ↔ i ∈ found'.satisfied := by
  intro found found'
  have hinterfaces : Query.interfaceMethods r = Query.interfaceMethods r' := by
    rw [Query.interfaceMethods, Query.interfaceMethods, h.interfaces]
  have hedges : ∀ i x, found.edge? i x = found'.edge? i x := by
    intro i x
    show (ofResult o r).edge? i x = (ofResult o r').edge? i x
    rw [ofResult, ofResult, hinterfaces]
    exact edge?_resolve_congr h.receiversGrow h.symm.receiversGrow h.structsGrow
      h.symm.structsGrow i x
  exact ⟨hedges, sortedEdges_congr hedges, implementations_congr hedges,
    fun i => mem_satisfied_congr hedges⟩

/-- A directive in this file. -/
def directiveIn (file structName interfaceName : String) : Directive :=
  ⟨structName, interfaceName, ⟨1, file⟩⟩

/-- Two packages, all methods and directives of which stand in the first one. -/
def gathered : Result :=
  ⟨⟨[("/w", ⟨"/w", "w", {
      interfaces := [reader]
      structs := [structIn "w.go" "Pool" "Buffer", structIn "w.go" "File" "Lock"]
      methods := [methodIn "w.go" "File" "Read" false, methodIn "w.go" "File" "Close" false,
        methodIn "w.go" "Handler" "Read" false]
      directives := [directiveIn "w.go" "Pool" "Reader", directiveIn "w.go" "Buffer" "Writer"] }⟩),
    ("/v", ⟨"/v", "v", { structs := [structIn "v.go" "Buffer" "File"] }⟩)], by decide⟩⟩

/-- The same packages, with most of the methods and directives in the second one. -/
def scattered : Result :=
  ⟨⟨[("/w", ⟨"/w", "w", {
      interfaces := [reader]
      structs := [structIn "w.go" "Pool" "Buffer", structIn "w.go" "File" "Lock"]
      methods := [methodIn "x.go" "Handler" "Read" true]
      directives := [directiveIn "x.go" "Buffer" "Writer"] }⟩),
    ("/v", ⟨"/v", "v", {
      structs := [structIn "v.go" "Buffer" "File"]
      methods := [methodIn "v.go" "File" "Close" true, methodIn "v.go" "File" "Read" true,
        methodIn "y.go" "File" "Close" false]
      directives := [directiveIn "v.go" "Pool" "Reader", directiveIn "y.go" "Pool" "Reader"] }⟩)],
    by decide⟩⟩

/-- Both have edges for a directive, for all methods, for a part of them, and for embedding. -/
theorem ofResult_scattered :
    let o : Options := { threshold := .ofRatio false 1 2, maxPasses := 1 }
    let found := ofResult o gathered
    let found' := ofResult o scattered
    SameFacts gathered scattered
    ∧
    ((∀ i x, found.edge? i x = found'.edge? i x)
      ∧
      found.sortedEdges = found'.sortedEdges
      ∧
      found.implementations = found'.implementations
      ∧
      ∀ i, i ∈ found.satisfied ↔ i ∈ found'.satisfied)
    ∧
    found'.edge? "Reader" "Pool" = some ⟨.explicit, none⟩
    ∧
    found'.edge? "Reader" "File" = some ⟨.full, some 1⟩
    ∧
    found'.edge? "Reader" "Handler" = some ⟨.partly, some (.ofRatio false 1 2)⟩
    ∧
    found'.edge? "Reader" "Buffer" = some ⟨.embedded, none⟩ := by
  intro o found found'
  have hmethods : methodPairs gathered ⊆ methodPairs scattered := by decide
  have hmethods' : methodPairs scattered ⊆ methodPairs gathered := by decide
  have hclaims : claimPairs gathered ⊆ claimPairs scattered := by decide
  have hclaims' : claimPairs scattered ⊆ claimPairs gathered := by decide
  have hsame : SameFacts gathered scattered :=
    ⟨rfl, rfl, fun _ => ⟨@hmethods _, @hmethods' _⟩, fun _ => ⟨@hclaims _, @hclaims' _⟩⟩
  refine ⟨hsame, ofResult_congr o hsame, ?_, ?_, ?_, ?_⟩
  · decide +kernel
  · decide +kernel
  · decide +kernel
  · decide +kernel

end Main

end Resolution
end Conformance
