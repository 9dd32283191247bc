import Conformance.Proofs.Query.Places
import Conformance.Proofs.Resolution.Monotone
import Conformance.Proofs.Text.Sorting

/-!
# One relation, asked from both sides

Who implements an interface, and what a type implements, are two views of the edges.

**Views.**  Both views list the edges that they are about, each edge once.  What is shown of a
resolution is sorted, so resolutions with the same edges look the same in whatever order the edges
were found (`sortedEdges_congr`, `implementations_congr`).

**Places.**  The place that goes with an implementation is looked up under the mark of a struct.  An
edge is for a claim, for methods or for embedding: it belongs to a declared struct or to a type that
some receiver stands for (`declared_or_received_of_has`).  Only types of the second kind may be
without a place.

**Results.**
* `queries_agree`: implementations and interfaces are asked of one relation, and the place of an
  implementation is that of the last declaration, if there is one.
-/

namespace Conformance
namespace Resolution

section Congruence

variable {found found' : Resolution} {i x : String}

theorem nodup_implementationsOf (found : Resolution) (i : String) :
    (found.implementationsOf i).Nodup := by
  refine List.Nodup.map_on ?_ (found.edges.nodup.filter fun key => key.1 == i)
  intro key hkey key' hkey' hsame
  have hi : key.1 = i := by simpa using (List.mem_filter.1 hkey).2
  have hi' : key'.1 = i := by simpa using (List.mem_filter.1 hkey').2
  exact Prod.ext (hi.trans hi'.symm) hsame

theorem has_congr (h : ∀ i x, found.edge? i x = found'.edge? i x) :
    found.has i x = found'.has i x := by
  rw [has_eq_isSome, has_eq_isSome, h]

theorem perm_implementationsOf (h : ∀ i x, found.edge? i x = found'.edge? i x) (i : String) :
    (found.implementationsOf i).Perm (found'.implementationsOf i) := by
  refine (List.perm_ext_iff_of_nodup (nodup_implementationsOf found i)
    (nodup_implementationsOf found' i)).2 fun x => ?_
  rw [mem_implementationsOf, mem_implementationsOf, has_congr h]

theorem mem_satisfied_congr (h : ∀ i x, found.edge? i x = found'.edge? i x) :
    i ∈ found.satisfied ↔ i ∈ found'.satisfied := by
  simp only [mem_satisfied, has_congr h]

/-- The sorted implementations do not depend on the order in which edges were found. -/
theorem implementations_congr (h : ∀ i x, found.edge? i x = found'.edge? i x) :
    found.implementations = found'.implementations := by
  rw [implementations, implementations, Text.sortedSet_congr fun i => mem_satisfied_congr h]
  refine List.map_congr_left fun i _ => ?_
  rw [Text.sorted_congr (perm_implementationsOf h i)]

theorem perm_entries (h : ∀ i x, found.edge? i x = found'.edge? i x) :
    found.edges.entries.Perm found'.edges.entries := by
  refine (List.perm_ext_iff_of_nodup found.edges.nodup.of_map found'.edges.nodup.of_map).2 ?_
  rintro ⟨⟨i, x⟩, e⟩
  rw [← OrderedMap.get?_eq_some_iff, ← OrderedMap.get?_eq_some_iff]
  exact Eq.congr_left (h i x)

/-- Nor do the sorted edges. -/
theorem sortedEdges_congr (h : ∀ i x, found.edge? i x = found'.edge? i x) :
    found.sortedEdges = found'.sortedEdges :=
  Text.mergeSort_pairLe_congr found.edges.nodup (perm_entries h)

end Congruence

section Places

variable {o : Options} {interfaces receivers : OrderedMap String (List String)}
  {structs : OrderedMap String StructSummary} {i x : String}

/-- An edge belongs to a declared struct or to a type that some receiver stands for. -/
theorem declared_or_received_of_has (h : (resolve o interfaces receivers structs).has i x = true) :
    x ∈ structs.keys ∨ IsReceived receivers x := by
  have himplied : Implied interfaces.keys structs (direct o interfaces receivers structs) i x :=
    onlyImplied_close o.maxPasses.toNat _ i x h
  cases himplied with
  | self _ hembeds => exact .inl hembeds.mem_keys
  | through _ hembeds _ => exact .inl hembeds.mem_keys
  | given hdirect =>
      rcases has_direct_iff.1 hdirect with hclaimed | ⟨required, hcompared, -⟩
      · obtain ⟨-, summary, hget, -⟩ := hclaimed
        exact .inl (OrderedMap.mem_keys_iff.2 ⟨summary, hget⟩)
      · exact .inr hcompared.2.2

end Places

section Main

theorem map_fst_implementationPlaces (found : Resolution) (r : Result) (i : String) :
    (implementationPlaces found r i).map Prod.fst = Text.sorted (found.implementationsOf i) := by
  rw [implementationPlaces, List.map_map]
  exact List.map_id' _

/--
**The queries agree.**  As long as no method bears the name of a mark, a type is listed among the
implementations of an interface exactly if the interface is listed for the type, and exactly if
there is an edge for them.  The implementations come in strict order.  Each of them has the place
where the struct of its name is declared last, as the summary of the struct tells it; it has none
exactly if there is no such struct, and then some receiver stands for the type.
-/
theorem queries_agree (o : Options) (r : Result)
    (hmarks : ∀ m ∈ Query.methods r, Query.isMark m.name = false) (i x : String) :
    let found := ofResult o r
    let places := implementationPlaces found r i
    (x ∈ places.map Prod.fst ↔ i ∈ found.interfacesOf x)
    ∧
    (i ∈ found.interfacesOf x ↔ ∃ e, found.edge? i x = some e)
    ∧
    (places.map Prod.fst).Pairwise (· < ·)
    ∧
    ∀ place, (x, place) ∈ places →
      place = ((Query.declarationsOf r x).getLast?).map (·.location)
      ∧
      place = ((Query.summaries r).get? x).map (·.location)
      ∧
      (place = none ↔ ∀ s ∈ Query.structs r, s.name ≠ x)
      ∧
      (place = none → IsReceived (receiverNames r) x) := by
  intro found places
  have hkeys : places.map Prod.fst = Text.sorted (found.implementationsOf i) :=
    map_fst_implementationPlaces found r i
  rw [hkeys]
  refine ⟨?_, ?_, ?_, ?_⟩
  · rw [Text.mem_sorted, mem_implementationsOf, mem_interfacesOf]
  · rw [mem_interfacesOf, has_eq_isSome, Option.isSome_iff_exists]
  · exact Text.sorted_pairwise_lt (nodup_implementationsOf found i)
  · intro place hplace
    obtain ⟨x', hx', heq⟩ := List.mem_map.1 hplace
    obtain ⟨rfl, rfl⟩ := Prod.mk.inj heq
    have hhas : found.has i x' = true := by rwa [Text.mem_sorted, mem_implementationsOf] at hx'
    have hunmarked : ∀ m ∈ Query.methods r, m.name ≠ Query.structMark := by
      intro m hm hmark
      simpa [Query.isMark, hmark] using hmarks m hm
    have hlast : Query.place? (Query.receivers r) x' Query.structMark
        = ((Query.declarationsOf r x').getLast?).map (·.location) :=
      Query.place?_structMark hunmarked
    have hnone : Query.place? (Query.receivers r) x' Query.structMark = none ↔
        ∀ s ∈ Query.structs r, s.name ≠ x' :=
      Query.place?_structMark_eq_none_iff hunmarked
    refine ⟨hlast, ?_, hnone, fun hplace => ?_⟩
    · rw [Query.get?_summaries, Option.map_map]
      exact hlast
    · rcases declared_or_received_of_has hhas with hdeclared | hreceived
      · obtain ⟨s, hs, hname⟩ := Query.summaries_keys.1 hdeclared
        exact absurd hname (hnone.1 hplace s hs)
      · exact hreceived

/-- An interface with two methods. -/
def reader : Interface where
  name := "Reader"
  location := ⟨2, "reader.go"⟩
  methods := [⟨"Read", ⟨3, "reader.go"⟩⟩, ⟨"Close", ⟨4, "reader.go"⟩⟩]

/-- A struct that is declared in this file, with one embedded field. -/
def structIn (file name embedded : String) : Struct where
  name := name
  location := ⟨6, file⟩
  fields := [{ name := embedded, typeName := embedded, location := ⟨7, file⟩, embedded := true }]

/-- A method that is declared in this file. -/
def methodIn (file receiver name : String) (pointer : Bool) : Method where
  receiver := receiver
  name := name
  location := ⟨9, file⟩
  pointer := pointer

/-- Two packages, one of which declares a struct of the other once more. -/
def twoPackages : Result :=
  ⟨⟨[("/w", ⟨"/w", "w", {
      interfaces := [reader]
      structs := [structIn "w.go" "File" "Lock", structIn "w.go" "Buffer" "File"]
      methods := [methodIn "w.go" "Handler" "Read" false, methodIn "w.go" "File" "Read" true] }⟩),
    ("/v", ⟨"/v", "v", {
      structs := [structIn "v.go" "File" "Lock"]
      methods := [methodIn "v.go" "File" "Close" true,
        methodIn "v.go" "Handler" "Close" false] }⟩)], by decide⟩⟩

/-- A struct has the place of its second declaration, a type that is no struct has none. -/
theorem queries_agree_twoPackages :
    let found := ofResult {} twoPackages
    let places := implementationPlaces found twoPackages "Reader"
    (∀ m ∈ Query.methods twoPackages, Query.isMark m.name = false)
    ∧
    places = [("Buffer", some ⟨6, "w.go"⟩), ("File", some ⟨6, "v.go"⟩), ("Handler", none)]
    ∧
    "Reader" ∈ found.interfacesOf "File"
    ∧
    some (⟨6, "v.go"⟩ : Location)
      = ((Query.summaries twoPackages).get? "File").map (·.location)
    ∧
    IsReceived (receiverNames twoPackages) "Handler" := by
  intro found places
  have hmarks : ∀ m ∈ Query.methods twoPackages, Query.isMark m.name = false := by decide
  have hfound : found.implementationsOf "Reader" = ["File", "Handler", "Buffer"] := by
    decide +kernel
  have hsorted : Text.sorted ["File", "Handler", "Buffer"] = ["Buffer", "File", "Handler"] :=
    Text.sorted_eq_of_perm (by decide) (by decide)
  have hplaces : places
      = [("Buffer", some ⟨6, "w.go"⟩), ("File", some ⟨6, "v.go"⟩), ("Handler", none)] := by
    show implementationPlaces found twoPackages "Reader" = _
    rw [implementationPlaces, hfound, hsorted]
    decide
  obtain ⟨hlisted, -, -, hfile⟩ := queries_agree {} twoPackages hmarks "Reader" "File"
  obtain ⟨-, -, -, hhandler⟩ := queries_agree {} twoPackages hmarks "Reader" "Handler"
  refine ⟨hmarks, hplaces, hlisted.1 ?_, (hfile _ ?_).2.1, (hhandler none ?_).2.2.2 rfl⟩
  · show "File" ∈ places.map Prod.fst
    rw [hplaces]
    decide
  · show ("File", some ⟨6, "v.go"⟩) ∈ places
    rw [hplaces]
    decide
  · show ("Handler", none) ∈ places
    rw [hplaces]
    decide

end Main

end Resolution
end Conformance
