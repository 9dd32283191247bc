import Conformance.Proofs.Resolution.Closure
import Conformance.Resolution.Rules

/-!
# Which rule gives an edge

The three rules write to one resolution, and the first edge for a pair stays.  This module says
which edge that is.

**Directives and methods.**  Both rules add a list of edges (`addAll`), so that the edge for a pair
is the first one listed for it.  The lists name a pair at most once per rule, since interfaces and
types are keys of maps.

**Methods of a type.**  `methodsOf` collects the methods of all receivers that stand for a type,
without marks; `methodSets` holds exactly those (`get?_methodSets`).

**Rates.**  Full coverage is tested on the two numbers.  A test whether the rate is one comes to the
same (`rateOf_eq_one_iff`), since a quotient below one of numbers that are not too large stays below
one when it is rounded.

**Results.**
* `resolve_edge_priority`: directives come first, then the comparison of methods, and every other
  edge is for embedding.
-/

namespace Conformance
namespace Resolution

section Specification

/-- A directive claims a declared interface for a declared struct. -/
def Claimed (interfaces : OrderedMap String (List String))
    (structs : OrderedMap String StructSummary) (i x : String) : Prop :=
  i ∈ interfaces.keys ∧ ∃ summary, structs.get? x = some summary ∧ i ∈ summary.implements

/-- The methods of all receivers that stand for a type, without marks. -/
def methodsOf (receivers : OrderedMap String (List String)) (x : String) : List String :=
  (receivers.entries.filter fun e => baseName e.1 == x).flatMap fun e =>
    e.2.filter fun m => !Query.isMark m

/-- The methods of a type are compared with those, of which there are some, of an interface. -/
def Compared (interfaces receivers : OrderedMap String (List String)) (i x : String)
    (required : List String) : Prop :=
  interfaces.get? i = some required ∧ required ≠ [] ∧
    ∃ receiver ∈ receivers.keys, baseName receiver = x

/-- The rate at which a type has the required methods. -/
def rateOf (receivers : OrderedMap String (List String)) (x : String) (required : List String) :
    Double :=
  (Coverage.of required (methodsOf receivers x)).rate

end Specification

section Lists

/-- Adds edges one after the other. -/
def addAll (es : List (EdgeKey × Edge)) (r : Resolution) : Resolution :=
  es.foldl (fun r e => r.add e.1.1 e.1.2 e.2) r

/-- The edge for a pair is the one that was there, or else the first one added. -/
theorem edge?_addAll (es : List (EdgeKey × Edge)) (r : Resolution) (i x : String) :
    (addAll es r).edge? i x = (r.edge? i x).or (OrderedMap.lookup (i, x) es) := by
  induction es generalizing r with
  | nil => simp [addAll, OrderedMap.lookup]
  | cons e es ih =>
      have hcons : addAll (e :: es) r = addAll es (r.add e.1.1 e.1.2 e.2) := rfl
      rw [hcons, ih, edge?_add]
      by_cases hkey : e.1 = (i, x)
      · cases hr : r.edge? i x with
        | none => simp [hkey, OrderedMap.lookup, has_eq_isSome, hr]
        | some e' => simp [hkey, OrderedMap.lookup, has_eq_isSome, hr]
      · have hpair : ¬ (e.1.1 = i ∧ e.1.2 = x) := fun h => hkey (Prod.ext h.1 h.2)
        simp [hpair, hkey, OrderedMap.lookup]

theorem lookup_of_const {κ ν : Type} [DecidableEq κ] {es : List (κ × ν)} {v : ν}
    (h : ∀ e ∈ es, e.2 = v) (k : κ) :
    OrderedMap.lookup k es = if k ∈ es.map Prod.fst then some v else none := by
  induction es with
  | nil => rfl
  | cons e es ih =>
      have hv : e.2 = v := h e List.mem_cons_self
      have ih := ih fun e he => h e (List.mem_cons_of_mem _ he)
      by_cases hk : e.1 = k
      · simp [OrderedMap.lookup, hk, hv]
      · have hk' : k ≠ e.1 := fun h' => hk h'.symm
        simp only [OrderedMap.lookup, hk, if_false, ih, List.map_cons, List.mem_cons, hk',
          false_or]

theorem lookup_filter_value {κ ν : Type} [DecidableEq κ] {es : List (κ × ν)}
    (h : (es.map Prod.fst).Nodup) (p : ν → Bool) (k : κ) :
    OrderedMap.lookup k (es.filter fun e => p e.2) = (OrderedMap.lookup k es).filter p := by
  induction es with
  | nil => rfl
  | cons e es ih =>
      rw [List.map_cons, List.nodup_cons] at h
      have ih := ih h.2
      by_cases hk : e.1 = k
      · subst hk
        have hrest : OrderedMap.lookup e.1 es = none := OrderedMap.lookup_eq_none_iff.2 h.1
        rw [hrest] at ih
        by_cases hp : p e.2 = true
        · simp [OrderedMap.lookup, Option.filter, hp]
        · simp [OrderedMap.lookup, Option.filter, hp, ih]
      · by_cases hp : p e.2 = true
        · simp [OrderedMap.lookup, hp, hk, ih]
        · simp [OrderedMap.lookup, hp, hk, ih]

/-- What a list of types gives for one interface. -/
theorem lookup_candidates {cs : List (String × List String)} (h : (cs.map Prod.fst).Nodup)
    (g : List String → Option Edge) (i j x : String) :
    OrderedMap.lookup (i, x) (cs.filterMap fun c => (g c.2).map fun e => ((j, c.1), e))
      = if j = i then (OrderedMap.lookup x cs).bind g else none := by
  induction cs with
  | nil => simp [OrderedMap.lookup]
  | cons c cs ih =>
      rw [List.map_cons, List.nodup_cons] at h
      have ih := ih h.2
      rw [List.filterMap_cons]
      by_cases hx : c.1 = x
      · subst hx
        have hrest : OrderedMap.lookup c.1 cs = none := OrderedMap.lookup_eq_none_iff.2 h.1
        rw [hrest] at ih
        cases hg : g c.2 with
        | none => simp [OrderedMap.lookup, hg, ih]
        | some e =>
            by_cases hj : j = i
            · simp [OrderedMap.lookup, hg, hj]
            · simp [OrderedMap.lookup, hj, ih]
      · cases hg : g c.2 with
        | none => simp [OrderedMap.lookup, hx, ih]
        | some e => simp [OrderedMap.lookup, hx, ih]

/-- What a list of interfaces gives, each compared with a list of types. -/
theorem lookup_comparisons {es cs : List (String × List String)}
    (hes : (es.map Prod.fst).Nodup) (hcs : (cs.map Prod.fst).Nodup)
    (g : List String → List String → Option Edge) (i x : String) :
    OrderedMap.lookup (i, x)
        (es.flatMap fun e => cs.filterMap fun c => (g e.2 c.2).map fun edge => ((e.1, c.1), edge))
      = (OrderedMap.lookup i es).bind fun required =>
          (OrderedMap.lookup x cs).bind (g required) := by
  induction es with
  | nil => rfl
  | cons e es ih =>
      rw [List.map_cons, List.nodup_cons] at hes
      rw [List.flatMap_cons, OrderedMap.lookup_append, lookup_candidates hcs, ih hes.2]
      by_cases hi : e.1 = i
      · subst hi
        have hrest : OrderedMap.lookup e.1 es = none := OrderedMap.lookup_eq_none_iff.2 hes.1
        simp [OrderedMap.lookup, hrest]
      · simp [OrderedMap.lookup, hi]

end Lists

section Claims

variable {interfaces : OrderedMap String (List String)} {structs : OrderedMap String StructSummary}

theorem mem_claims {i x : String} :
    (x, i) ∈ claims structs ↔ ∃ summary, structs.get? x = some summary ∧ i ∈ summary.implements := by
  simp only [claims, List.mem_flatMap, List.mem_map, Text.mem_sortedSet, Prod.mk.injEq,
    OrderedMap.get?_eq_some_iff]
  constructor
  · rintro ⟨⟨x', summary⟩, hmem, i', hi, rfl, rfl⟩
    exact ⟨summary, hmem, hi⟩
  · rintro ⟨summary, hmem, hi⟩
    exact ⟨(x, summary), hmem, i, hi, rfl, rfl⟩

theorem addClaims_eq_addAll (r : Resolution) :
    addClaims interfaces structs r
      = addAll (((claims structs).filter fun c => interfaces.contains c.2).map fun c =>
          ((c.2, c.1), { reason := .explicit })) r := by
  rw [addClaims, addAll, List.foldl_map]

/-- The first rule gives the claimed pairs their edges and no others. -/
theorem edge?_addClaims (i x : String) :
    (Claimed interfaces structs i x →
      (addClaims interfaces structs empty).edge? i x = some { reason := .explicit }) ∧
    (¬ Claimed interfaces structs i x →
      (addClaims interfaces structs empty).edge? i x = none) := by
  have hmem : (i, x) ∈ (((claims structs).filter fun c => interfaces.contains c.2).map fun c =>
      (((c.2, c.1), { reason := .explicit }) : EdgeKey × Edge)).map Prod.fst ↔
        Claimed interfaces structs i x := by
    simp only [List.mem_map, List.mem_filter, OrderedMap.contains_iff, Claimed, ← mem_claims]
    constructor
    · rintro ⟨e, ⟨⟨x', i'⟩, ⟨hclaim, hi⟩, rfl⟩, heq⟩
      obtain ⟨rfl, rfl⟩ := Prod.mk.inj heq
      exact ⟨hi, hclaim⟩
    · rintro ⟨hi, hclaim⟩
      exact ⟨_, ⟨(x, i), ⟨hclaim, hi⟩, rfl⟩, rfl⟩
  have hconst : ∀ e ∈ ((claims structs).filter fun c => interfaces.contains c.2).map fun c =>
      (((c.2, c.1), { reason := .explicit }) : EdgeKey × Edge),
      e.2 = { reason := .explicit } := by
    intro e he
    obtain ⟨c, -, rfl⟩ := List.mem_map.1 he
    rfl
  rw [addClaims_eq_addAll, edge?_addAll, lookup_of_const hconst]
  constructor
  · intro h
    rw [if_pos (hmem.2 h)]
    rfl
  · intro h
    rw [if_neg fun hin => h (hmem.1 hin)]
    rfl

end Claims

section Methods

variable {receivers : OrderedMap String (List String)}

/-- The methods of a type after further receivers have been taken in. -/
theorem get?_foldl_methods (es : List (String × List String))
    (sets : OrderedMap String (List String)) (x : String) :
    (es.foldl
        (fun sets (receiver, methods) =>
          sets.adjust (baseName receiver) fun known =>
            known.getD [] ++ methods.filter fun m => !Query.isMark m)
        sets).get? x
      = if (es.any fun e => baseName e.1 == x) = true then
          some ((sets.get? x).getD []
            ++ (es.filter fun e => baseName e.1 == x).flatMap fun e =>
                e.2.filter fun m => !Query.isMark m)
        else sets.get? x := by
  induction es generalizing sets with
  | nil => rfl
  | cons e es ih =>
      rw [List.foldl_cons, ih, OrderedMap.get?_adjust]
      by_cases hx : baseName e.1 = x
      · by_cases hrest : (es.any fun e => baseName e.1 == x) = true
        · simp [hx, hrest]
        · have hfilter : (es.filter fun e => baseName e.1 == x) = [] := by
            rw [List.filter_eq_nil_iff]
            intro e he h
            exact hrest (List.any_eq_true.2 ⟨e, he, h⟩)
          simp [hx, hrest, hfilter]
      · have hx' : (baseName e.1 == x) = false := beq_eq_false_iff_ne.2 hx
        have hfilter : ((e :: es).filter fun e => baseName e.1 == x)
            = es.filter fun e => baseName e.1 == x :=
          List.filter_cons_of_neg (Bool.eq_false_iff.1 hx')
        rw [if_neg hx, hfilter, List.any_cons, hx', Bool.false_or]

/-- A type with a receiver has the methods of all its receivers. -/
theorem get?_methodSets (receivers : OrderedMap String (List String)) (x : String) :
    ((∃ receiver ∈ receivers.keys, baseName receiver = x) →
      (methodSets receivers).get? x = some (methodsOf receivers x)) ∧
    (¬ (∃ receiver ∈ receivers.keys, baseName receiver = x) →
      (methodSets receivers).get? x = none) := by
  have hany : (receivers.entries.any fun e => baseName e.1 == x) = true ↔
      ∃ receiver ∈ receivers.keys, baseName receiver = x := by
    simp [OrderedMap.keys]
  rw [methodSets, get?_foldl_methods]
  constructor
  · intro h
    rw [if_pos (hany.2 h)]
    rfl
  · intro h
    rw [if_neg fun hin => h (hany.1 hin)]
    rfl

end Methods

section Matches

variable {o : Options} {interfaces receivers : OrderedMap String (List String)}
  {structs : OrderedMap String StructSummary}

/-- The edge that the comparison of methods is worth for a pair, with this reason if it is full. -/
def matchEdge? (threshold : Double) (fullReason : Reason)
    (interfaces receivers : OrderedMap String (List String)) (i x : String) : Option Edge :=
  ((interfaces.get? i).filter fun required => !required.isEmpty).bind fun required =>
    ((methodSets receivers).get? x).bind fun methods =>
      edgeOf threshold fullReason (.of required methods)

theorem addMatches_eq_addAll (threshold : Double) (fullReason : Reason)
    (interfaces : OrderedMap String (List String)) (candidates : List (String × List String))
    (r : Resolution) :
    addMatches threshold fullReason interfaces candidates r
      = addAll ((interfaces.entries.filter fun e => !e.2.isEmpty).flatMap fun e =>
          candidates.filterMap fun c =>
            (edgeOf threshold fullReason (.of e.2 c.2)).map fun edge => ((e.1, c.1), edge)) r := by
  rw [addMatches, addAll, List.foldl_flatMap]
  congr 1
  funext r e
  obtain ⟨i, required⟩ := e
  rw [List.foldl_filterMap]
  show candidates.foldl (compare threshold fullReason i required) r = _
  congr 1
  funext r c
  rw [compare]
  cases edgeOf threshold fullReason (.of required c.2) <;> rfl

/-- The second rule, for those of the types that satisfy `p`. -/
theorem edge?_addMatches (threshold : Double) (fullReason : Reason) (p : String → Bool)
    (r : Resolution) (i x : String) :
    (addMatches threshold fullReason interfaces
        ((methodSets receivers).entries.filter fun t => p t.1) r).edge? i x
      = (r.edge? i x).or
          (if p x then matchEdge? threshold fullReason interfaces receivers i x else none) := by
  have hinterfaces : ((interfaces.entries.filter fun e => !e.2.isEmpty).map Prod.fst).Nodup :=
    interfaces.nodup.sublist (List.filter_sublist.map Prod.fst)
  have hcandidates : (((methodSets receivers).entries.filter fun t => p t.1).map Prod.fst).Nodup :=
    (methodSets receivers).nodup.sublist (List.filter_sublist.map Prod.fst)
  rw [addMatches_eq_addAll, edge?_addAll,
    lookup_comparisons hinterfaces hcandidates fun required methods =>
      edgeOf threshold fullReason (.of required methods),
    lookup_filter_value interfaces.nodup fun required => !required.isEmpty,
    OrderedMap.lookup_filter]
  congr 1
  split
  next => rfl
  next => simp

/-- The first two rules: a claim, or else what the comparison of methods is worth. -/
theorem edge?_direct (i x : String) :
    (direct o interfaces receivers structs).edge? i x
      = ((addClaims interfaces structs empty).edge? i x).or
          (matchEdge? o.threshold (if isStruct structs x then .full else .receiver)
            interfaces receivers i x) := by
  rw [direct, edge?_addMatches (p := fun name => !isStruct structs name),
    edge?_addMatches (p := isStruct structs)]
  cases h : isStruct structs x with
  | true => simp
  | false => simp

/-- What the comparison is worth, case by case. -/
theorem matchEdge?_of_compared {threshold : Double} {fullReason : Reason} {i x : String}
    {required : List String} (h : Compared interfaces receivers i x required) :
    matchEdge? threshold fullReason interfaces receivers i x
      = edgeOf threshold fullReason (.of required (methodsOf receivers x)) := by
  obtain ⟨hget, hne, hreceiver⟩ := h
  rw [matchEdge?, hget, (get?_methodSets receivers x).1 hreceiver]
  simp [Option.filter, hne]

theorem matchEdge?_of_not_compared {threshold : Double} {fullReason : Reason} {i x : String}
    (h : ∀ required, ¬ Compared interfaces receivers i x required) :
    matchEdge? threshold fullReason interfaces receivers i x = none := by
  rw [matchEdge?]
  cases hget : interfaces.get? i with
  | none => rfl
  | some required =>
      by_cases hempty : required = []
      · simp [Option.filter, hempty]
      · have hreceiver : ¬ ∃ receiver ∈ receivers.keys, baseName receiver = x :=
          fun hreceiver => h required ⟨hget, hempty, hreceiver⟩
        rw [(get?_methodSets receivers x).2 hreceiver]
        simp [Option.filter, hempty]

end Matches

section Rates

open Double

/-- A quotient below one of not too large numbers is not rounded to one. -/
theorem roundRatio_ne_one {c d : Nat} (hcd : c < d) (hd : d ≤ 1 <<< precision) :
    roundRatio (c <<< unitScale) d ≠ 1 <<< unitScale := by
  have hpos : 0 < d := Nat.lt_of_le_of_lt (Nat.zero_le c) hcd
  rw [Nat.one_shiftLeft] at hd
  have hbelow : c <<< unitScale / d < 2 ^ unitScale := by
    rw [Nat.shiftLeft_eq, Nat.div_lt_iff_lt_mul hpos, Nat.mul_comm]
    exact Nat.mul_lt_mul_of_pos_left hcd (Nat.two_pow_pos unitScale)
  obtain ⟨e, he, hgap⟩ : ∃ e, e ≤ unitScale - precision ∧
      spacing (c <<< unitScale / d) = 2 ^ e := by
    refine ⟨(c <<< unitScale / d).log2 + 1 - precision, ?_, Nat.one_shiftLeft _⟩
    by_cases hzero : c <<< unitScale / d = 0
    · rw [hzero]
      decide
    · have hlog := (Nat.log2_lt hzero).2 hbelow
      omega
  have hsum : precision + (unitScale - precision) = unitScale := by decide
  have hwide : d * 2 ^ e ≤ 2 ^ unitScale := by
    calc d * 2 ^ e ≤ 2 ^ precision * 2 ^ (unitScale - precision) :=
          Nat.mul_le_mul hd (Nat.pow_le_pow_right (by decide) he)
      _ = 2 ^ unitScale := by rw [← Nat.pow_add, hsum]
  have hsplit := Nat.div_add_mod (c <<< unitScale) (d * 2 ^ e)
  have htop : c <<< unitScale + 2 ^ unitScale ≤ d * 2 ^ unitScale := by
    rw [Nat.shiftLeft_eq, ← Nat.succ_mul]
    exact Nat.mul_le_mul_right _ hcd
  have hunit : 0 < 2 ^ unitScale := Nat.two_pow_pos unitScale
  rw [roundRatio, hgap, Nat.one_shiftLeft]
  generalize c <<< unitScale / (d * 2 ^ e) = q at hsplit ⊢
  generalize c <<< unitScale % (d * 2 ^ e) = rest at hsplit ⊢
  generalize c <<< unitScale = num at hsplit htop
  split
  next hup =>
    intro heq
    have hhalf : d * 2 ^ e ≤ 2 * rest := by
      rw [Bool.or_eq_true, Bool.and_eq_true, decide_eq_true_eq, beq_iff_eq] at hup
      omega
    have hall : d * 2 ^ e * q + d * 2 ^ e = d * 2 ^ unitScale := by
      rw [← heq, Nat.mul_comm (q + 1), ← Nat.mul_assoc, Nat.mul_succ]
    omega
  next =>
    intro heq
    have hall : d * 2 ^ e * q = d * 2 ^ unitScale := by
      rw [← heq, Nat.mul_comm q, ← Nat.mul_assoc]
    omega

/--
A rate is one exactly if the coverage is full, as long as the number of required names can be told
from its neighbours.
-/
theorem rate_eq_one_iff {c : Coverage} (hle : c.covered ≤ c.required)
    (hsize : c.required ≤ 1 <<< precision) : c.rate = 1 ↔ c.isFull = true := by
  constructor
  · intro hone
    by_cases hfull : c.isFull = true
    · exact hfull
    · rw [Coverage.rate] at hone
      split at hone
      next => exact absurd hone (by decide +kernel)
      next hne =>
        have hlt : c.covered < c.required := by
          refine Nat.lt_of_le_of_ne hle ?_
          intro heq
          refine hfull ?_
          rw [Coverage.isFull, Bool.and_eq_true, bne_iff_ne, beq_iff_eq]
          exact ⟨hne, heq⟩
        rw [← ofRatio_self Nat.one_pos, ofRatio, ofRatio, roundRatio_mul_self Nat.one_pos,
          ofUnits, ofUnits, if_pos (by decide : 1 <<< unitScale < overflow)] at hone
        split at hone
        next =>
          have hunits := (Double.finite.inj hone).2
          exact absurd hunits (roundRatio_ne_one hlt hsize)
        next => cases hone
  · exact Coverage.rate_of_isFull

/-- A type has all the required methods exactly if its rate is one. -/
theorem rateOf_eq_one_iff {receivers : OrderedMap String (List String)} {x : String}
    {required : List String} (hne : required ≠ [])
    (hsize : required.eraseDups.length ≤ 1 <<< precision) :
    rateOf receivers x required = 1 ↔ ∀ m ∈ required, m ∈ methodsOf receivers x := by
  rw [rateOf, rate_eq_one_iff (Coverage.covered_le_required required _) hsize, Coverage.isFull_iff]
  exact and_iff_right hne

end Rates

section Main

variable {o : Options} {interfaces receivers : OrderedMap String (List String)}
  {structs : OrderedMap String StructSummary}

theorem edgeOf_of_covered {threshold : Double} {fullReason : Reason}
    {required available : List String} (hne : required ≠ [])
    (h : ∀ m ∈ required, m ∈ available) :
    edgeOf threshold fullReason (.of required available) = some ⟨fullReason, some 1⟩ := by
  have hfull : (Coverage.of required available).isFull = true := Coverage.isFull_iff.2 ⟨hne, h⟩
  rw [edgeOf, if_pos hfull, Coverage.rate_of_isFull hfull]

theorem edgeOf_of_not_covered {threshold : Double} {fullReason : Reason}
    {required available : List String} (h : ∃ m ∈ required, m ∉ available) :
    edgeOf threshold fullReason (.of required available)
      = if threshold.le (Coverage.of required available).rate = true then
          some ⟨.partly, some (Coverage.of required available).rate⟩
        else none := by
  obtain ⟨m, hm, hmissing⟩ := h
  have hfull : ¬ (Coverage.of required available).isFull = true :=
    fun hfull => hmissing ((Coverage.isFull_iff.1 hfull).2 m hm)
  rw [edgeOf, if_neg hfull]

/-- The closure keeps the edges of the first two rules. -/
theorem edge?_resolve_of_direct {i x : String} {e : Edge}
    (h : (direct o interfaces receivers structs).edge? i x = some e) :
    (resolve o interfaces receivers structs).edge? i x = some e := by
  have hext : Extends ⟨direct o interfaces receivers structs, 0⟩
      (close interfaces.keys structs o.maxPasses.toNat (direct o interfaces receivers structs)) :=
    extends_grow _ _
  exact hext.edge? h

/-- Where the first two rules give no edge, an edge is for embedding. -/
theorem eq_embedded_of_direct_eq_none {i x : String} {e : Edge}
    (h : (direct o interfaces receivers structs).edge? i x = none)
    (he : (resolve o interfaces receivers structs).edge? i x = some e) :
    e = { reason := .embedded } := by
  have hext : Extends ⟨direct o interfaces receivers structs, 0⟩
      (close interfaces.keys structs o.maxPasses.toNat (direct o interfaces receivers structs)) :=
    extends_grow _ _
  exact hext.eq_embedded h he

/--
**Priority of the rules.**  A claimed pair has an edge for its directive.  Any other pair whose
methods are compared has a full edge if the type has all the methods, and a partial one if it lacks
some and its rate reaches the threshold.  Whatever other edge there is, it is for embedding.  A type
has all the methods exactly if its rate is one, unless there are more than `2 ^ precision` of them.
-/
theorem resolve_edge_priority (o : Options)
    (interfaces receivers : OrderedMap String (List String))
    (structs : OrderedMap String StructSummary) (i x : String) :
    let found := (resolve o interfaces receivers structs).edge? i x
    (Claimed interfaces structs i x → found = some ⟨.explicit, none⟩)
    ∧
    (¬ Claimed interfaces structs i x → ∀ required, Compared interfaces receivers i x required →
      ((∀ m ∈ required, m ∈ methodsOf receivers x) →
        found = some
          ⟨if x ∈ structs.keys ∨ structs.keys = [] then .full else .receiver, some 1⟩)
      ∧
      ((∃ m ∈ required, m ∉ methodsOf receivers x) →
        o.threshold.le (rateOf receivers x required) = true →
        found = some ⟨.partly, some (rateOf receivers x required)⟩))
    ∧
    (¬ Claimed interfaces structs i x →
      (∀ required, Compared interfaces receivers i x required →
        (∃ m ∈ required, m ∉ methodsOf receivers x)
        ∧
        o.threshold.le (rateOf receivers x required) = false) →
      ∀ e, found = some e → e = ⟨.embedded, none⟩)
    ∧
    (∀ required, Compared interfaces receivers i x required →
      required.eraseDups.length ≤ 1 <<< Double.precision →
        (rateOf receivers x required = 1 ↔ ∀ m ∈ required, m ∈ methodsOf receivers x)) := by
  intro found
  have hclaims : (Claimed interfaces structs i x →
        (addClaims interfaces structs empty).edge? i x = some { reason := .explicit }) ∧
      (¬ Claimed interfaces structs i x →
        (addClaims interfaces structs empty).edge? i x = none) :=
    edge?_addClaims i x
  have hstruct : isStruct structs x = true ↔ x ∈ structs.keys ∨ structs.keys = [] := by
    rw [isStruct, Bool.or_eq_true, OrderedMap.contains_iff, OrderedMap.isEmpty,
      List.isEmpty_iff, OrderedMap.keys, List.map_eq_nil_iff, or_comm]
  refine ⟨?_, ?_, ?_, fun required hcompared => rateOf_eq_one_iff hcompared.2.1⟩
  · intro hclaimed
    refine edge?_resolve_of_direct ?_
    rw [edge?_direct, hclaims.1 hclaimed]
    rfl
  · intro hclaimed required hcompared
    constructor
    · intro hcovered
      refine edge?_resolve_of_direct ?_
      rw [edge?_direct, hclaims.2 hclaimed, Option.none_or, matchEdge?_of_compared hcompared,
        edgeOf_of_covered hcompared.2.1 hcovered]
      simp only [hstruct]
    · intro hmissing hrate
      refine edge?_resolve_of_direct ?_
      rw [edge?_direct, hclaims.2 hclaimed, Option.none_or, matchEdge?_of_compared hcompared,
        edgeOf_of_not_covered hmissing]
      exact if_pos hrate
  · intro hclaimed hother e he
    refine eq_embedded_of_direct_eq_none ?_ he
    rw [edge?_direct, hclaims.2 hclaimed, Option.none_or]
    by_cases hcompared : ∃ required, Compared interfaces receivers i x required
    · obtain ⟨required, hcompared⟩ := hcompared
      obtain ⟨hmissing, hrate⟩ := hother required hcompared
      rw [matchEdge?_of_compared hcompared, edgeOf_of_not_covered hmissing]
      exact if_neg (Bool.eq_false_iff.1 hrate)
    · exact matchEdge?_of_not_compared fun required h => hcompared ⟨required, h⟩

end Main

end Resolution
end Conformance
