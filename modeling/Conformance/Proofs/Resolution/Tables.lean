import Conformance.Proofs.Resolution.Closure
import Conformance.Resolution.Rules
import Mathlib.Data.Finset.Insert
import Mathlib.Logic.Relation

/-!
# Resolutions in three tables

A resolution is a map of edges, and who implements an interface, and which interfaces are satisfied,
is read off it.  The same can be kept in tables of its own beside the edges, which then have to be
kept in agreement.

**Tables.**  `Tables` holds the edges with the names of their ends, the structs of each interface,
and the satisfied interfaces.  `Tables.add` writes a new edge to all three and tells whether the
edge was new; `Filling.close` is the closure over embedding on the tables.

**Runs.**  A run is any sequence of additions and closures.  It keeps count of the edges that the
additions and the closures say they have added.

**Additions.**  All that a run does to the tables it does by single additions (`additions_run`).  So
what holds of the empty tables and is kept by an addition holds after every run.

**Resolutions.**  A run on the tables and the same run on a resolution go in step (`growth_run`),
and the three rules are such a run (`isRun_resolve`).

**Results.**
* `Agrees.add`: an addition keeps the tables in agreement;
* `tables_agree`: after every run the tables agree with each other and with the resolution, no edge
  has been replaced, and the count is the number of edges.
-/

namespace Conformance
namespace Resolution

section Definitions

/-- An edge with the names of its ends. -/
structure NamedEdge where
  interfaceName : String
  structName : String
  edge : Edge

/-- The names of the ends of an edge. -/
def NamedEdge.key (e : NamedEdge) : EdgeKey := (e.interfaceName, e.structName)

/-- The edges, and beside them the structs of each interface and the satisfied interfaces. -/
structure Tables where
  edges : OrderedMap EdgeKey NamedEdge := .empty
  implementations : OrderedMap String (Finset String) := .empty
  satisfied : Finset String := ∅

/-- Adds an edge to all three tables where there is none, and tells whether it was new. -/
def Tables.add (t : Tables) (e : NamedEdge) : Tables × Bool :=
  if t.edges.contains e.key then (t, false)
  else
    ({ edges := t.edges.insert e.key e
       satisfied := insert e.interfaceName t.satisfied
       implementations := t.implementations.adjust e.interfaceName fun known =>
         insert e.structName (known.getD ∅) }, true)

/-- Tables that are being filled, and the number of edges that were new so far. -/
structure Filling where
  tables : Tables := {}
  added : Nat := 0

namespace Filling

/-- Adds an edge, and counts it if it is new. -/
def add (f : Filling) (e : NamedEdge) : Filling :=
  ⟨(f.tables.add e).1, f.added + (f.tables.add e).2.toNat⟩

/-- Hands an interface on to a struct if what the struct embeds is it or implements it. -/
def inherit (e : Embedding) (f : Filling) (interfaceName : String) : Filling :=
  if e.typeName = interfaceName ∨ f.tables.edges.contains (interfaceName, e.typeName) = true then
    f.add ⟨interfaceName, e.structName, { reason := .embedded }⟩
  else f

/-- One pass over all embedded fields and, for each of them, over all interfaces. -/
def pass (interfaces : List String) (structs : OrderedMap String StructSummary) (f : Filling) :
    Filling :=
  (embeddings structs).foldl (fun f e => interfaces.foldl (inherit e) f) f

/-- What is filled in passes until one adds nothing, of which there are at most `limit`. -/
def grow (interfaces : List String) (structs : OrderedMap String StructSummary) :
    Nat → Filling → Filling
  | 0, f => f
  | limit + 1, f =>
      let f' := pass interfaces structs f
      if f'.added = f.added then f' else grow interfaces structs limit f'

/-- The closure of the tables in at most `limit` passes, with the number of edges added. -/
def close (interfaces : List String) (structs : OrderedMap String StructSummary) (limit : Nat)
    (t : Tables) : Filling :=
  grow interfaces structs limit ⟨t, 0⟩

end Filling

/-- What may be done to a resolution. -/
inductive Operation
  | add (e : NamedEdge)
  | close (interfaces : List String) (structs : OrderedMap String StructSummary) (limit : Nat)

/-- The tables after an operation, and the count with what the operation says it has added. -/
def Filling.after (f : Filling) : Operation → Filling
  | .add e => f.add e
  | .close interfaces structs limit =>
      let closed := Filling.close interfaces structs limit f.tables
      ⟨closed.tables, f.added + closed.added⟩

/-- The tables after several operations. -/
def Filling.run (operations : List Operation) (f : Filling) : Filling :=
  operations.foldl Filling.after f

/-- The resolution after an operation, and the count with what the operation has added. -/
def Growth.after (g : Growth) : Operation → Growth
  | .add e =>
      ⟨g.resolution.add e.interfaceName e.structName e.edge,
        g.added + (!g.resolution.has e.interfaceName e.structName).toNat⟩
  | .close interfaces structs limit =>
      let closed := close interfaces structs limit g.resolution
      ⟨closed.resolution, g.added + closed.added⟩

/-- The resolution after several operations. -/
def Growth.run (operations : List Operation) (g : Growth) : Growth :=
  operations.foldl Growth.after g

end Definitions

section Additions

/-- One addition leads from these tables to those. -/
def Adds (f f' : Filling) : Prop :=
  ∃ e, f' = f.add e

/-- Additions lead from these tables to those. -/
abbrev Additions : Filling → Filling → Prop :=
  Relation.ReflTransGen Adds

variable {interfaces : List String} {structs : OrderedMap String StructSummary} {f f' : Filling}

theorem additions_inherit (e : Embedding) (f : Filling) (i : String) :
    Additions f (Filling.inherit e f i) := by
  rw [Filling.inherit]
  split
  next => exact .single ⟨_, rfl⟩
  next => exact .refl

theorem additions_pass (f : Filling) : Additions f (Filling.pass interfaces structs f) := by
  refine List.foldlRecOn (motive := Additions f) _ _ .refl fun f' hf' e _ => ?_
  refine List.foldlRecOn (motive := Additions f) _ _ hf' fun f'' hf'' i _ => ?_
  exact hf''.trans (additions_inherit e f'' i)

theorem additions_grow (limit : Nat) (f : Filling) :
    Additions f (Filling.grow interfaces structs limit f) := by
  induction limit generalizing f with
  | zero => exact .refl
  | succ limit ih =>
      rw [Filling.grow]
      split
      next => exact additions_pass f
      next => exact (additions_pass f).trans (ih _)

/-- The same edges are added whatever has been counted before. -/
theorem Additions.counted (n : Nat) (h : Additions f f') :
    Additions ⟨f.tables, n + f.added⟩ ⟨f'.tables, n + f'.added⟩ := by
  induction h with
  | refl => exact .refl
  | tail _ hstep ih =>
      obtain ⟨e, rfl⟩ := hstep
      refine ih.tail ⟨e, ?_⟩
      rw [Filling.add, Filling.add, Nat.add_assoc]

theorem additions_after (f : Filling) (operation : Operation) :
    Additions f (f.after operation) := by
  cases operation with
  | add e => exact .single ⟨e, rfl⟩
  | close interfaces structs limit =>
      exact Additions.counted f.added (additions_grow limit ⟨f.tables, 0⟩)

/-- All that a run does it does by additions. -/
theorem additions_run (operations : List Operation) (f : Filling) :
    Additions f (f.run operations) :=
  List.foldlRecOn (motive := Additions f) operations _ .refl fun f' hf' operation _ =>
    hf'.trans (additions_after f' operation)

end Additions

section Agreement

variable {t : Tables} {f f' : Filling} {key : EdgeKey} {e e' : NamedEdge} {i s : String}

/--
The tables agree: every edge stands under the names of its ends, the structs of an interface are
those with an edge to it, no interface is listed without structs, and the satisfied interfaces are
the listed ones.
-/
structure Agrees (t : Tables) : Prop where
  keyed : ∀ key e, t.edges.get? key = some e → key = e.key
  listed : ∀ i s, s ∈ t.implementations.getD i ∅ ↔ t.edges.contains (i, s) = true
  inhabited : ∀ i structs, t.implementations.get? i = some structs → structs.Nonempty
  satisfied : ∀ i, i ∈ t.satisfied ↔ i ∈ t.implementations.keys

theorem agrees_empty : Agrees {} where
  keyed := by rintro key e ⟨⟩
  listed i s := by simp [OrderedMap.getD, OrderedMap.contains]
  inhabited := by rintro i structs ⟨⟩
  satisfied i := by simp [OrderedMap.empty, OrderedMap.keys]

/-- An addition keeps the tables in agreement. -/
theorem Agrees.add (h : Agrees t) (e : NamedEdge) : Agrees (t.add e).1 := by
  rw [Tables.add]
  split
  next => exact h
  next =>
    refine ⟨fun key e' he' => ?_, fun i s => ?_, fun i structs hstructs => ?_, fun i => ?_⟩
    · rw [OrderedMap.get?_insert] at he'
      split at he'
      next hkey =>
        cases he'
        exact hkey.symm
      next => exact h.keyed key e' he'
    · rw [OrderedMap.contains_iff, OrderedMap.mem_keys_insert, ← OrderedMap.contains_iff,
        ← h.listed i s, OrderedMap.getD, OrderedMap.getD, OrderedMap.get?_adjust]
      by_cases hi : e.interfaceName = i
      · rw [if_pos hi, Option.getD_some, Finset.mem_insert, or_comm, NamedEdge.key, hi,
          Prod.mk.injEq]
        simp
      · have hkey : (i, s) ≠ e.key := fun heq => hi (congrArg Prod.fst heq).symm
        rw [if_neg hi, or_iff_left hkey]
    · rw [OrderedMap.get?_adjust] at hstructs
      split at hstructs
      next =>
        cases hstructs
        exact Finset.insert_nonempty _ _
      next => exact h.inhabited i structs hstructs
    · rw [Finset.mem_insert, OrderedMap.mem_keys_adjust, h.satisfied, or_comm]

/-- The satisfied interfaces are those with an edge to them. -/
theorem Agrees.mem_satisfied_iff (h : Agrees t) :
    i ∈ t.satisfied ↔ ∃ s, t.edges.contains (i, s) = true := by
  rw [h.satisfied, OrderedMap.mem_keys_iff]
  constructor
  · rintro ⟨structs, hstructs⟩
    obtain ⟨s, hs⟩ := h.inhabited i structs hstructs
    refine ⟨s, (h.listed i s).1 ?_⟩
    rw [OrderedMap.getD, hstructs]
    exact hs
  · rintro ⟨s, hs⟩
    rw [← h.listed i s, OrderedMap.getD] at hs
    cases hstructs : t.implementations.get? i with
    | none =>
        rw [hstructs] at hs
        cases hs
    | some structs => exact ⟨structs, rfl⟩

theorem Additions.agrees (h : Additions f f') (hf : Agrees f.tables) : Agrees f'.tables := by
  induction h with
  | refl => exact hf
  | tail _ hstep ih =>
      obtain ⟨e, rfl⟩ := hstep
      exact ih.add e

/-- An edge that is there is never replaced. -/
theorem Tables.get?_add (h : t.edges.get? key = some e) (e' : NamedEdge) :
    (t.add e').1.edges.get? key = some e := by
  rw [Tables.add]
  split
  next => exact h
  next habsent =>
    have hkey : e'.key ≠ key := by
      rintro rfl
      rw [OrderedMap.contains, h] at habsent
      exact habsent rfl
    rw [OrderedMap.get?_insert, if_neg hkey, h]

theorem Additions.get?_edges (h : Additions f f') (he : f.tables.edges.get? key = some e) :
    f'.tables.edges.get? key = some e := by
  induction h with
  | refl => exact he
  | tail _ hstep ih =>
      obtain ⟨e', rfl⟩ := hstep
      exact Tables.get?_add ih e'

/-- A new edge is written as it is. -/
theorem Tables.get?_add_self (h : t.edges.get? e.key = none) :
    (t.add e).1.edges.get? e.key = some e := by
  have habsent : ¬ t.edges.contains e.key = true := by
    rw [OrderedMap.contains, h]
    decide
  rw [Tables.add, if_neg habsent, OrderedMap.get?_insert, if_pos rfl]

/-- An addition counts the edges that it adds. -/
theorem Tables.size_add (t : Tables) (e : NamedEdge) :
    (t.add e).1.edges.size = t.edges.size + (t.add e).2.toNat := by
  rw [Tables.add]
  split
  next => rfl
  next habsent =>
    have hkey : e.key ∉ t.edges.keys := fun hmem => habsent (OrderedMap.contains_iff.2 hmem)
    rw [OrderedMap.size, OrderedMap.entries_insert_of_not_mem hkey, List.length_append]
    rfl

theorem Additions.added_eq (h : Additions f f') (hf : f.added = f.tables.edges.size) :
    f'.added = f'.tables.edges.size := by
  induction h with
  | refl => exact hf
  | tail _ hstep ih =>
      obtain ⟨e, rfl⟩ := hstep
      rw [Filling.add, Tables.size_add, ih]

theorem Filling.run_append (before after : List Operation) (f : Filling) :
    f.run (before ++ after) = (f.run before).run after :=
  List.foldl_append

end Agreement

section Steps

variable {interfaces : List String} {structs : OrderedMap String StructSummary}

/-- The resolution that tables keep. -/
def Tables.resolution (t : Tables) : Resolution :=
  ⟨t.edges.mapValues (·.edge)⟩

/-- The growing resolution that tables keep while they are being filled. -/
def Filling.growth (f : Filling) : Growth :=
  ⟨f.tables.resolution, f.added⟩

theorem Tables.has_resolution (t : Tables) (i s : String) :
    t.resolution.has i s = t.edges.contains (i, s) := by
  rw [Resolution.has, Tables.resolution, OrderedMap.contains, OrderedMap.get?_mapValues,
    Option.isSome_map, OrderedMap.contains]

theorem Tables.resolution_add (t : Tables) (e : NamedEdge) :
    (t.add e).1.resolution = t.resolution.add e.interfaceName e.structName e.edge := by
  have hhas : t.resolution.has e.interfaceName e.structName = t.edges.contains e.key :=
    t.has_resolution e.interfaceName e.structName
  rw [Tables.add, Resolution.add, hhas]
  by_cases h : t.edges.contains e.key = true
  · rw [if_pos h, if_pos h]
  · rw [if_neg h, if_neg h, Tables.resolution, OrderedMap.mapValues_insert]
    rfl

theorem Tables.isNew_add (t : Tables) (e : NamedEdge) :
    (t.add e).2 = !t.resolution.has e.interfaceName e.structName := by
  have hhas : t.resolution.has e.interfaceName e.structName = t.edges.contains e.key :=
    t.has_resolution e.interfaceName e.structName
  rw [Tables.add, hhas]
  cases h : t.edges.contains e.key with
  | false => rfl
  | true => rfl

theorem growth_add (f : Filling) (e : NamedEdge) :
    (f.add e).growth = f.growth.after (.add e) := by
  rw [Filling.growth, Filling.add, Tables.resolution_add, Tables.isNew_add]
  rfl

theorem growth_inherit (e : Embedding) (f : Filling) (i : String) :
    (Filling.inherit e f i).growth = inherit e f.growth i := by
  have hhas : f.growth.resolution.has i e.typeName = f.tables.edges.contains (i, e.typeName) :=
    f.tables.has_resolution i e.typeName
  rw [Filling.inherit, inherit, hhas]
  split
  next =>
    rw [growth_add, Growth.add, Growth.after]
    cases h : f.growth.resolution.has i e.structName with
    | false => rfl
    | true =>
        rw [Resolution.add, if_pos h]
        rfl
  next => rfl

theorem growth_pass (f : Filling) :
    (Filling.pass interfaces structs f).growth = pass interfaces structs f.growth := by
  refine (List.foldl_hom Filling.growth fun f e => ?_).symm
  exact List.foldl_hom Filling.growth fun f i => (growth_inherit e f i).symm

theorem growth_grow (limit : Nat) (f : Filling) :
    (Filling.grow interfaces structs limit f).growth = grow interfaces structs limit f.growth := by
  induction limit generalizing f with
  | zero => rfl
  | succ limit ih =>
      rw [Filling.grow, grow, ← growth_pass]
      show (ite _ _ _ : Filling).growth = ite ((Filling.pass interfaces structs f).added = f.added) _ _
      split
      next => rfl
      next => exact ih _

theorem growth_after (f : Filling) (operation : Operation) :
    (f.after operation).growth = f.growth.after operation := by
  cases operation with
  | add e => exact growth_add f e
  | close interfaces structs limit =>
      have hclosed : (Filling.close interfaces structs limit f.tables).growth
          = close interfaces structs limit f.growth.resolution :=
        growth_grow limit ⟨f.tables, 0⟩
      rw [Growth.after, ← hclosed]
      rfl

/-- A run on the tables and the same run on a resolution go in step. -/
theorem growth_run (operations : List Operation) (f : Filling) :
    (f.run operations).growth = f.growth.run operations :=
  (List.foldl_hom Filling.growth fun f operation => (growth_after f operation).symm).symm

end Steps

section Rules

/-- Additions and closures lead from no edges to the resolution. -/
def IsRun (r : Resolution) : Prop :=
  ∃ operations, ((Growth.mk empty 0).run operations).resolution = r

variable {r : Resolution}

theorem isRun_empty : IsRun empty :=
  ⟨[], rfl⟩

theorem IsRun.after (h : IsRun r) (operation : Operation) :
    IsRun ((Growth.mk r 0).after operation).resolution := by
  obtain ⟨operations, rfl⟩ := h
  refine ⟨operations ++ [operation], ?_⟩
  rw [Growth.run, List.foldl_append]
  cases operation with
  | add e => rfl
  | close interfaces structs limit => rfl

theorem IsRun.add (h : IsRun r) (i s : String) (e : Edge) : IsRun (r.add i s e) :=
  h.after (.add ⟨i, s, e⟩)

theorem IsRun.addClaims (h : IsRun r) (interfaces : OrderedMap String (List String))
    (structs : OrderedMap String StructSummary) : IsRun (addClaims interfaces structs r) :=
  List.foldlRecOn (motive := IsRun) _ _ h fun _ hr c _ => hr.add c.2 c.1 _

theorem IsRun.addMatches (h : IsRun r) (threshold : Double) (fullReason : Reason)
    (interfaces : OrderedMap String (List String)) (candidates : List (String × List String)) :
    IsRun (addMatches threshold fullReason interfaces candidates r) := by
  refine List.foldlRecOn (motive := IsRun) _ _ h fun r hr i _ => ?_
  refine List.foldlRecOn (motive := IsRun) _ _ hr fun r hr candidate _ => ?_
  rw [compare]
  split
  next e _ => exact hr.add i.1 candidate.1 e
  next => exact hr

/-- The three rules are such a run. -/
theorem isRun_resolve (o : Options) (interfaces receivers : OrderedMap String (List String))
    (structs : OrderedMap String StructSummary) :
    IsRun (resolve o interfaces receivers structs) := by
  have hdirect : IsRun (direct o interfaces receivers structs) :=
    ((isRun_empty.addClaims interfaces structs).addMatches _ _ interfaces _).addMatches _ _
      interfaces _
  exact hdirect.after (.close interfaces.keys structs o.maxPasses.toNat)

end Rules

section Main

/--
**The tables agree.**  After every sequence of additions and closures that starts from empty tables:
* every edge stands under the names of its ends;
* the structs of an interface are those with an edge to it, and no interface is listed without any;
* the satisfied interfaces are the listed ones;
* an edge that was there at some time is there unchanged, and the first addition that finds none
  between its ends is the one that gives it;
* the additions that were new and the counts of the closures sum up to the number of edges.

The same operations lead from the empty resolution to the resolution with these edges, with the same
count, and its views are what the tables hold.  What the three rules lead to is such a resolution.
-/
theorem tables_agree (operations : List Operation) :
    let filled := (Filling.mk {} 0).run operations
    let t := filled.tables
    let grown := (Growth.mk empty 0).run operations
    let r := grown.resolution
    (∀ key e, t.edges.get? key = some e → key = (e.interfaceName, e.structName))
    ∧
    (∀ i s, s ∈ t.implementations.getD i ∅ ↔ ∃ e, t.edges.get? (i, s) = some e)
    ∧
    (∀ i structs, t.implementations.get? i = some structs → structs.Nonempty)
    ∧
    (∀ i, i ∈ t.satisfied ↔ i ∈ t.implementations.keys)
    ∧
    (∀ before after, operations = before ++ after →
      let t' := ((Filling.mk {} 0).run before).tables
      (∀ key e, t'.edges.get? key = some e → t.edges.get? key = some e)
      ∧
      ∀ e rest, after = .add e :: rest → t'.edges.get? e.key = none →
        t.edges.get? e.key = some e)
    ∧
    filled.added = t.edges.size
    ∧
    (r.edges = t.edges.mapValues (·.edge)
      ∧ grown.added = filled.added
      ∧ (∀ i s, s ∈ r.implementationsOf i ↔ s ∈ t.implementations.getD i ∅)
      ∧ ∀ i, i ∈ r.satisfied ↔ i ∈ t.satisfied)
    ∧
    ∀ o interfaces receivers structs, ∃ operations',
      ((Growth.mk empty 0).run operations').resolution = resolve o interfaces receivers structs := by
  intro filled t grown r
  have hreached : Additions ⟨{}, 0⟩ filled := additions_run operations ⟨{}, 0⟩
  have hagrees : Agrees t := hreached.agrees agrees_empty
  have hgrown : filled.growth = grown := growth_run operations ⟨{}, 0⟩
  have hresolution : t.resolution = r := congrArg Growth.resolution hgrown
  have hhas : ∀ i s, r.has i s = t.edges.contains (i, s) := by
    intro i s
    rw [← hresolution, Tables.has_resolution]
  refine ⟨hagrees.keyed, fun i s => ?_, hagrees.inhabited, hagrees.satisfied, ?_, ?_, ?_, ?_⟩
  · rw [hagrees.listed, OrderedMap.contains, Option.isSome_iff_exists]
  · rintro before after rfl t'
    have hlater : Additions ((Filling.mk {} 0).run before) filled := by
      rw [show filled = _ from Filling.run_append before after ⟨{}, 0⟩]
      exact additions_run after _
    refine ⟨fun key e he => hlater.get?_edges he, ?_⟩
    rintro e rest rfl hnew
    have hwritten : Additions (((Filling.mk {} 0).run before).add e) filled := by
      rw [show filled = _ from Filling.run_append before (.add e :: rest) ⟨{}, 0⟩]
      exact additions_run rest _
    exact hwritten.get?_edges (Tables.get?_add_self hnew)
  · exact hreached.added_eq rfl
  · refine ⟨congrArg Resolution.edges hresolution.symm, congrArg Growth.added hgrown.symm,
      fun i s => ?_, fun i => ?_⟩
    · rw [mem_implementationsOf, hhas, hagrees.listed]
    · rw [mem_satisfied, hagrees.mem_satisfied_iff]
      simp only [hhas]
  · exact isRun_resolve

end Main

end Resolution
end Conformance
