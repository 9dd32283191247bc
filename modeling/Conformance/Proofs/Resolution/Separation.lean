import Conformance.Proofs.Resolution.Priority

/-!
# Interfaces are resolved apart from each other

All interfaces share one resolution, one loop of passes and one limit on them.  This module says
that an interface fares as if it were alone.

**View.**  `only i r` keeps the edges of an interface, in their order.  Every step of the three rules
is for some interface; seen through `only i` it is the same step if it is for `i`, and nothing
otherwise (`only_add`, `only_compare`, `only_handOn`).  A loop over interfaces is then the loop over
those that are `i`.

**Passes.**  The other interfaces can keep the closure going when `i` is complete, and a pass more
adds nothing to `i` then.  `resolution_close` has accounted for that: the closure is so many rounds
as the limit allows, whether or not they add anything.

**Results.**
* `resolve_filterKeys`: resolving an interface alone gives its edges of the whole resolution;
* `resolve_separately`: so they depend on no other interface.
-/

namespace Conformance
namespace Resolution

variable {i j x : String} {r : Resolution} {structs : OrderedMap String StructSummary}
  {interfaces : OrderedMap String (List String)}

/-- The edges of an interface, in their order. -/
def only (i : String) (r : Resolution) : Resolution :=
  ⟨r.edges.filterKeys fun key => key.1 == i⟩

section Steps

@[simp]
theorem edge?_only : (only i r).edge? j x = if j = i then r.edge? j x else none := by
  simp [only, edge?]

theorem has_only : (only i r).has j x = (j == i && r.has j x) := by
  by_cases h : j = i <;> simp [has_eq_isSome, h]

/-- The implementations of an interface are those among its own edges. -/
theorem implementationsOf_only : (only i r).implementationsOf i = r.implementationsOf i := by
  simp [implementationsOf, only, OrderedMap.keys_filterKeys]

theorem eq_of_entries {r r' : Resolution} (h : r.edges.entries = r'.edges.entries) : r = r' := by
  cases r
  cases r'
  exact congrArg mk (OrderedMap.ext h)

theorem add_of_has {e : Edge} (h : r.has j x = true) : r.add j x e = r := by
  rw [add, if_pos h]

theorem entries_add {e : Edge} (h : r.has j x = false) :
    (r.add j x e).edges.entries = r.edges.entries ++ [((j, x), e)] := by
  have hmem : (j, x) ∉ r.edges.keys := by
    rw [← has_iff, h]
    simp
  rw [add, h]
  exact OrderedMap.entries_insert_of_not_mem hmem

theorem entries_only :
    (only i r).edges.entries = r.edges.entries.filter fun edge => edge.1.1 == i := rfl

theorem only_add {e : Edge} :
    only i (r.add j x e) = if (j == i) = true then (only i r).add j x e else only i r := by
  by_cases hj : j = i
  · subst hj
    rw [if_pos (beq_self_eq_true j)]
    cases h : r.has j x with
    | true => rw [add_of_has h, add_of_has (by simp [has_only, h])]
    | false =>
        have h' : (only j r).has j x = false := by simp [has_only, h]
        refine eq_of_entries ?_
        rw [entries_only, entries_add h, entries_add h', entries_only, List.filter_append]
        simp
  · rw [if_neg (by simpa using hj)]
    cases h : r.has j x with
    | true => rw [add_of_has h]
    | false =>
        refine eq_of_entries ?_
        rw [entries_only, entries_add h, entries_only, List.filter_append]
        simp [hj]

theorem only_compare {threshold : Double} {fullReason : Reason} {required : List String}
    {c : String × List String} :
    only i (compare threshold fullReason j required r c)
      = if (j == i) = true then compare threshold fullReason j required (only i r) c
        else only i r := by
  rw [compare, compare]
  cases edgeOf threshold fullReason (.of required c.2) with
  | none => simp
  | some e => exact only_add

theorem only_handOn {e : Embedding} :
    only i (handOn e r j) = if (j == i) = true then handOn e (only i r) j else only i r := by
  by_cases hj : j = i
  · subst hj
    by_cases h : e.typeName = j ∨ r.has j e.typeName = true <;>
      simp [handOn, has_only, only_add, h]
  · have hne : ¬ (j == i) = true := by simpa using hj
    rw [if_neg hne, handOn]
    split
    · rw [only_add, if_neg hne]
    · rfl

end Steps

section Loops

/-- A loop whose steps are for an interface each, seen from one of the interfaces. -/
theorem only_foldl {ι : Type} {f : Resolution → ι → Resolution} (name : ι → String)
    (hstep : ∀ r x, only i (f r x) = if (name x == i) = true then f (only i r) x else only i r)
    (xs : List ι) (r : Resolution) :
    only i (xs.foldl f r) = (xs.filter fun x => name x == i).foldl f (only i r) := by
  rw [List.foldl_filter]
  exact (List.foldl_hom (only i) fun r x => (hstep r x).symm).symm

theorem only_addClaims :
    only i (addClaims interfaces structs r)
      = addClaims (interfaces.filterKeys fun j => j == i) structs (only i r) := by
  have hstep : ∀ (r : Resolution) (c : String × String),
      only i (r.add c.2 c.1 { reason := .explicit })
        = if (c.2 == i) = true then (only i r).add c.2 c.1 { reason := .explicit }
          else only i r := fun r c => only_add
  refine (only_foldl Prod.snd hstep _ r).trans ?_
  rw [addClaims, List.filter_filter]
  simp only [OrderedMap.contains_filterKeys]

theorem only_addMatches {threshold : Double} {fullReason : Reason}
    {candidates : List (String × List String)} :
    only i (addMatches threshold fullReason interfaces candidates r)
      = addMatches threshold fullReason (interfaces.filterKeys fun j => j == i) candidates
          (only i r) := by
  have hstep : ∀ (r : Resolution) (e : String × List String),
      only i (candidates.foldl (compare threshold fullReason e.1 e.2) r)
        = if (e.1 == i) = true then
            candidates.foldl (compare threshold fullReason e.1 e.2) (only i r)
          else only i r := by
    intro r e
    have hcompare : ∀ (r : Resolution) (c : String × List String),
        only i (compare threshold fullReason e.1 e.2 r c)
          = if (e.1 == i) = true then compare threshold fullReason e.1 e.2 (only i r) c
            else only i r := fun r c => only_compare
    rw [only_foldl (fun _ => e.1) hcompare]
    by_cases hj : (e.1 == i) = true <;> simp [hj]
  refine (only_foldl Prod.fst hstep _ r).trans ?_
  rw [addMatches, OrderedMap.filterKeys, List.filter_filter, List.filter_filter]
  simp only [Bool.and_comm]

theorem only_round (names : List String) :
    only i (round names structs r)
      = round (names.filter fun j => j == i) structs (only i r) := by
  refine (List.foldl_hom (only i) fun r e => ?_).symm
  exact (only_foldl id (fun r j => only_handOn) names r).symm

end Loops

section Main

variable {o : Options} {receivers : OrderedMap String (List String)}

theorem only_direct :
    only i (direct o interfaces receivers structs)
      = direct o (interfaces.filterKeys fun j => j == i) receivers structs := by
  rw [direct, only_addMatches, only_addMatches, only_addClaims]
  rfl

/-- An interface that is resolved alone gets the edges that it has in the whole resolution. -/
theorem resolve_filterKeys :
    resolve o (interfaces.filterKeys fun j => j == i) receivers structs
      = only i (resolve o interfaces receivers structs) := by
  have hsemi : Function.Semiconj (only i) (round interfaces.keys structs)
      (round (interfaces.filterKeys fun j => j == i).keys structs) := by
    intro r
    rw [only_round, OrderedMap.keys_filterKeys]
  rw [resolve, resolve, resolution_close, resolution_close, ← only_direct]
  exact ((hsemi.iterate_right o.maxPasses.toNat) _).symm

/--
**Interfaces do not interfere.**  Whatever the threshold and the limit on passes, the edges of an
interface, with their reasons, rates and order, are those that it gets when it is resolved alone;
and two interface maps that hold the same of it give it the same edges and implementations, whatever
other interfaces they hold and in whatever order.
-/
theorem resolve_separately (o : Options) (interfaces receivers : OrderedMap String (List String))
    (structs : OrderedMap String StructSummary) (i : String) :
    only i (resolve o interfaces receivers structs)
      = resolve o (interfaces.filterKeys fun j => j == i) receivers structs
    ∧
    ∀ interfaces' : OrderedMap String (List String), interfaces'.get? i = interfaces.get? i →
      only i (resolve o interfaces' receivers structs)
          = only i (resolve o interfaces receivers structs)
      ∧
      (resolve o interfaces' receivers structs).implementationsOf i
          = (resolve o interfaces receivers structs).implementationsOf i := by
  refine ⟨resolve_filterKeys.symm, ?_⟩
  intro interfaces' h
  have hedges : only i (resolve o interfaces' receivers structs)
      = only i (resolve o interfaces receivers structs) := by
    rw [← resolve_filterKeys, ← resolve_filterKeys, OrderedMap.filterKeys_key_congr h]
  refine ⟨hedges, ?_⟩
  rw [← implementationsOf_only, hedges, implementationsOf_only]

end Main

end Resolution
end Conformance
