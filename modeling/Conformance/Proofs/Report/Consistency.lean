import Conformance.Proofs.Exchange.RoundTrip
import Conformance.Proofs.Query.Agreement
import Conformance.Proofs.Resolution.Distribution
import Conformance.Report

/-!
# What a report says

A report has the packages of a result and, for a resolution, the same pairs of an interface and a
struct twice: in groups by interface, and as edges.

**Groups.**  The pairs of a group are those of its interface with each of its structs.  Written one
group after the other, pairs are strictly in order, since the interfaces are and, in each group, the
structs.  The pairs of the edges are strictly in order as well and they are the same pairs, so the
two lists are equal (`flatMap_pairsOf_implementations`): the groups are the edges cut up by
interface.

**Reading.**  What a report has beside the packages is skipped by a reader of results.  A report is
a value of the JSON format, for the rates of edges are quotients (`fits_of_edge?_resolve`) and no
object has two members of one name, so it is read from its text as well.

**Results.**
* `mem_interfaces_of_has`: edges are for declared interfaces only;
* `full_consistent`: what is read from a report on a result, and how its two views of the edges
  agree.
-/

namespace Conformance

namespace Resolution

section Views

variable {found : Resolution} {i x : String} {e : Edge} {g : String × List String}

theorem mem_sortedEdges : ((i, x), e) ∈ found.sortedEdges ↔ found.edge? i x = some e := by
  rw [sortedEdges, List.mem_mergeSort, edge?, OrderedMap.get?_eq_some_iff]

/-- The edges of a report are strictly in order. -/
theorem sortedEdges_pairwise (found : Resolution) :
    (found.sortedEdges.map Prod.fst).Pairwise Text.PairLt :=
  Text.mergeSort_pairLe_pairwise found.edges.nodup

theorem mem_map_fst_sortedEdges :
    (i, x) ∈ found.sortedEdges.map Prod.fst ↔ found.has i x = true := by
  rw [has_eq_isSome, Option.isSome_iff_exists, List.mem_map]
  constructor
  · rintro ⟨⟨⟨i', x'⟩, e⟩, he, heq⟩
    obtain ⟨rfl, rfl⟩ := Prod.mk.inj heq
    exact ⟨e, mem_sortedEdges.1 he⟩
  · rintro ⟨e, he⟩
    exact ⟨((i, x), e), mem_sortedEdges.2 he, rfl⟩

theorem mem_implementations :
    g ∈ found.implementations ↔
      g.1 ∈ found.satisfied ∧ g.2 = Text.sorted (found.implementationsOf g.1) := by
  obtain ⟨i, xs⟩ := g
  rw [implementations, List.mem_map]
  constructor
  · rintro ⟨i', hi', heq⟩
    obtain ⟨rfl, rfl⟩ := Prod.mk.inj heq
    exact ⟨Text.mem_sortedSet.1 hi', rfl⟩
  · rintro ⟨hi, hxs⟩
    exact ⟨i, Text.mem_sortedSet.2 hi, Prod.ext rfl hxs.symm⟩

/-- The interfaces of the groups are strictly in order. -/
theorem implementations_pairwise (found : Resolution) :
    (found.implementations.map Prod.fst).Pairwise (· < ·) := by
  have hkeys : found.implementations.map Prod.fst = Text.sortedSet found.satisfied := by
    rw [implementations, List.map_map]
    exact List.map_id' _
  rw [hkeys]
  exact Text.sorted_pairwise_lt (Text.nodup_eraseDups found.satisfied)

/-- No group is empty. -/
theorem ne_nil_of_mem_implementations (h : g ∈ found.implementations) : g.2 ≠ [] := by
  obtain ⟨hsatisfied, hstructs⟩ := mem_implementations.1 h
  obtain ⟨x, hx⟩ := mem_satisfied.1 hsatisfied
  rw [hstructs]
  exact List.ne_nil_of_mem (Text.mem_sorted.2 (mem_implementationsOf.2 hx))

/-- The pairs of an interface with each of its structs. -/
def pairsOf (g : String × List String) : List EdgeKey := g.2.map fun x => (g.1, x)

theorem mem_flatMap_pairsOf :
    (i, x) ∈ found.implementations.flatMap pairsOf ↔ found.has i x = true := by
  rw [List.mem_flatMap]
  constructor
  · rintro ⟨g, hg, hpair⟩
    obtain ⟨x', hx', heq⟩ := List.mem_map.1 hpair
    obtain ⟨rfl, rfl⟩ := Prod.mk.inj heq
    rw [(mem_implementations.1 hg).2, Text.mem_sorted] at hx'
    exact mem_implementationsOf.1 hx'
  · intro h
    refine ⟨(i, Text.sorted (found.implementationsOf i)), ?_, ?_⟩
    · exact mem_implementations.2 ⟨mem_satisfied.2 ⟨x, h⟩, rfl⟩
    · exact List.mem_map.2 ⟨x, Text.mem_sorted.2 (mem_implementationsOf.2 h), rfl⟩

/-- Group after group, the pairs are strictly in order. -/
theorem flatMap_pairsOf_pairwise (found : Resolution) :
    (found.implementations.flatMap pairsOf).Pairwise Text.PairLt := by
  rw [List.pairwise_flatMap]
  constructor
  · intro g hg
    have hstructs : g.2.Pairwise (· < ·) := by
      rw [(mem_implementations.1 hg).2]
      exact Text.sorted_pairwise_lt (nodup_implementationsOf found g.1)
    exact List.pairwise_map.2 (hstructs.imp fun hlt => .inr ⟨rfl, hlt⟩)
  · refine (List.pairwise_map.1 (implementations_pairwise found)).imp ?_
    rintro g g' hlt a ha b hb
    obtain ⟨x, -, rfl⟩ := List.mem_map.1 ha
    obtain ⟨y, -, rfl⟩ := List.mem_map.1 hb
    exact .inl hlt

/-- The groups are the edges, cut up by interface. -/
theorem flatMap_pairsOf_implementations (found : Resolution) :
    found.implementations.flatMap pairsOf = found.sortedEdges.map Prod.fst := by
  refine Text.eq_of_pairwise_pairLt (flatMap_pairsOf_pairwise found) (sortedEdges_pairwise found) ?_
  rintro ⟨i, x⟩
  rw [mem_flatMap_pairsOf, mem_map_fst_sortedEdges]

end Views

section Edges

variable {o : Options} {interfaces receivers : OrderedMap String (List String)}
  {structs : OrderedMap String StructSummary} {i x : String} {e : Edge} {rate : Double}

/-- Edges are for declared interfaces. -/
theorem mem_interfaces_of_has (h : (resolve o interfaces receivers structs).has i x = true) :
    i ∈ interfaces.keys := by
  have himplied : Implied interfaces.keys structs (direct o interfaces receivers structs) i x :=
    onlyImplied_close o.maxPasses.toNat _ i x h
  cases himplied with
  | self hname _ => exact hname
  | through hname _ _ => exact hname
  | given hdirect =>
      rcases has_direct_iff.1 hdirect with hclaimed | ⟨required, hcompared, -⟩
      · exact hclaimed.1
      · exact OrderedMap.mem_keys_iff.2 ⟨required, hcompared.1⟩

theorem fits_rate (c : Coverage) : c.rate.Fits := by
  rw [Coverage.rate]
  split
  next => exact Double.fits_ofRatio false 0 1
  next => exact Double.fits_ofRatio false c.covered c.required

theorem fits_of_edgeOf {threshold : Double} {fullReason : Reason} {c : Coverage}
    (h : edgeOf threshold fullReason c = some e) (hrate : e.rate = some rate) : rate.Fits := by
  have hrated : ∀ reason : Reason, some (⟨reason, some c.rate⟩ : Edge) = some e → rate.Fits := by
    rintro reason ⟨⟩
    obtain rfl := Option.some.inj hrate
    exact fits_rate c
  unfold edgeOf at h
  split at h
  next => exact hrated fullReason h
  next =>
    split at h
    next => exact hrated .partly h
    next => cases h

/-- The rates of edges are numbers of double precision. -/
theorem fits_of_edge?_resolve (h : (resolve o interfaces receivers structs).edge? i x = some e)
    (hrate : e.rate = some rate) : rate.Fits := by
  rw [edge?_resolve] at h
  rcases Option.or_eq_some_iff.1 h with hdirect | ⟨-, hembedded⟩
  · rw [edge?_direct] at hdirect
    rcases Option.or_eq_some_iff.1 hdirect with hclaim | ⟨-, hmatch⟩
    · by_cases hclaimed : Claimed interfaces structs i x
      · rw [(edge?_addClaims i x).1 hclaimed] at hclaim
        cases hclaim
        cases hrate
      · rw [(edge?_addClaims i x).2 hclaimed] at hclaim
        cases hclaim
    · obtain ⟨required, -, hmatch⟩ := Option.bind_eq_some_iff.1 hmatch
      obtain ⟨methods, -, hmatch⟩ := Option.bind_eq_some_iff.1 hmatch
      exact fits_of_edgeOf hmatch hrate
  · split at hembedded
    next =>
      cases hembedded
      cases hrate
    next => cases hembedded

end Edges

end Resolution

namespace Report

open Exchange

section Texts

variable {found : Resolution}

theorem proper_edgeJson {key : EdgeKey} {e : Edge} (h : ∀ rate, e.rate = some rate → rate.Fits) :
    (edgeJson key e).Proper := by
  have hrate : ((e.rate.map Json.real).getD .null).Proper := by
    cases hrate : e.rate with
    | none => exact .null
    | some rate => exact .real (h rate hrate)
  refine proper_obj (by simp [Json.memberNames]) ?_
  simpa [AllProper, Json.Proper.str] using hrate

theorem proper_edgesJson
    (h : ∀ i x e, found.edge? i x = some e → ∀ rate, e.rate = some rate → rate.Fits) :
    (edgesJson found).Proper := by
  refine .arr fun j hj => ?_
  obtain ⟨⟨⟨i, x⟩, e⟩, he, rfl⟩ := List.mem_map.1 hj
  exact proper_edgeJson (h i x e (Resolution.mem_sortedEdges.1 he))

theorem proper_implementationsJson (found : Resolution) : (implementationsJson found).Proper := by
  refine .obj ?_ ?_
  · have hnames := Resolution.implementations_pairwise found
    rw [Json.memberNames, List.map_map]
    refine hnames.imp ?_
    rintro i _ hlt rfl
    exact String.lt_irrefl i hlt
  · intro m hm
    obtain ⟨g, -, rfl⟩ := List.mem_map.1 hm
    refine .arr fun j hj => ?_
    obtain ⟨x, -, rfl⟩ := List.mem_map.1 hj
    exact .str x

/-- A report is a value of the JSON format. -/
theorem proper_full (r : Result)
    (h : ∀ i x e, found.edge? i x = some e → ∀ rate, e.rate = some rate → rate.Fits) :
    (full r found).Proper := by
  cases proper_payload (Payload.ofResult r) (allProper_result r) with
  | obj _ hpackages =>
      refine .obj ?_ (List.forall_mem_append.2 ⟨hpackages, ?_⟩)
      · simp [Json.memberNames, Payload.members, packagesMember]
      · exact List.forall_mem_cons.2 ⟨proper_implementationsJson found,
          List.forall_mem_singleton.2 (proper_edgesJson h)⟩

end Texts

section Main

/--
**Reports are consistent.**  From a report on a result and its resolution, whether as a value or as
the text that is printed, that result is read and no other.  Its edges are those of the resolution,
each once with its reason and its rate, strictly in the order of their interfaces and structs.  Its
implementations are the pairs of the edges in the same order, in groups by interface: no group is
empty, the interfaces are strictly in order, and they are declared by the result.
-/
theorem full_consistent (o : Options) (r : Result) :
    let found := Resolution.ofResult o r
    let report := full r found
    (∀ r', Payload.read report = Payload.ofResult r' ↔ r' = r)
    ∧
    Json.parse? report.pretty = some report
    ∧
    ∃ (edges : List (EdgeKey × Edge)) (groups : List (String × List String)),
      report.member? "edges" = some (.arr (edges.map fun e => .obj [
        ("interface", .str e.1.1), ("struct", .str e.1.2), ("reason", .str e.2.reason.name),
        ("match_rate", (e.2.rate.map Json.real).getD .null)]))
      ∧ report.member? "implementations"
          = some (.obj (groups.map fun g => (g.1, .arr (g.2.map Json.str))))
      ∧ (edges.map Prod.fst).Pairwise Text.PairLt
      ∧ (∀ i x e, ((i, x), e) ∈ edges ↔ found.edge? i x = some e)
      ∧ (groups.flatMap fun g => g.2.map fun x => (g.1, x)) = edges.map Prod.fst
      ∧ (groups.map Prod.fst).Pairwise (· < ·)
      ∧ ∀ g ∈ groups, g.2 ≠ [] ∧ g.1 ∈ Query.interfaceNames r := by
  intro found report
  have hread : Payload.read report = Payload.ofResult r := read_members_append _ _
  have hfits : ∀ i x e, found.edge? i x = some e → ∀ rate, e.rate = some rate → rate.Fits :=
    fun i x e he rate hrate => Resolution.fits_of_edge?_resolve he hrate
  refine ⟨fun r' => ?_, Json.parse?_pretty (proper_full r hfits), found.sortedEdges,
    found.implementations, rfl, rfl, Resolution.sortedEdges_pairwise found,
    fun i x e => Resolution.mem_sortedEdges, Resolution.flatMap_pairsOf_implementations found,
    Resolution.implementations_pairwise found, fun g hg => ⟨?_, ?_⟩⟩
  · rw [hread, ofResult_injective.eq_iff, eq_comm]
  · exact Resolution.ne_nil_of_mem_implementations hg
  · obtain ⟨x, hx⟩ := Resolution.mem_satisfied.1 (Resolution.mem_implementations.1 hg).1
    exact Query.mem_keys_interfaceMethods.1 (Resolution.mem_interfaces_of_has hx)

end Main

end Report

end Conformance
