import Conformance.Proofs.Query.Places

/-!
# What the queries say of the declarations

Five queries are made of the same declarations, each by a loop of its own.  They differ in what they
do about a name that is declared again: the names of interfaces are a set, the methods of an
interface are replaced, the places of methods are added to those that are known, and the place of a
declaration is written over.

**Interfaces.**  A declaration writes its own place under `interfaceMark` and then the places of its
methods under their names.  As no method bears the name of a mark, what stands under the mark is
where the interface is declared last (`place?_interfaceMark`), and what stands under another key is
where a method of that name is listed last in any declaration (`place?_listed`).  The methods of the
last declaration are among those (`exists_place_of_listed`), and there are no others if it is the
only one (`exists_place_iff_of_single`).

**Types.**  Methods write to the same map as structs, but to other keys (`place?_received`).

**Results.**
* `queries_of_declarations`: what each query answers, in terms of the declarations, so that the
  queries agree with each other.
-/

namespace Conformance
namespace Query

section Specification

/-- The declarations of interfaces of this name, in order. -/
def interfaceDeclarationsOf (r : Result) (name : String) : List Interface :=
  (interfaces r).filter fun d => d.name == name

/-- The methods of this name that are listed in any declaration of an interface, in order. -/
def listedAs (r : Result) (name key : String) : List MethodSpec :=
  (interfaceDeclarationsOf r name).flatMap fun d => d.methods.filter fun m => m.name == key

/-- The methods of this name that a type has, in order. -/
def receivedAs (r : Result) (type key : String) : List Method :=
  (methods r).filter fun m => m.receiver == type && m.name == key

end Specification

section Interfaces

variable {r : Result} {declarations : List Interface} {d : Interface} {name key : String}
  {listed : List String}

theorem mem_interfaceDeclarationsOf :
    d ∈ interfaceDeclarationsOf r name ↔ d ∈ interfaces r ∧ d.name = name := by
  rw [interfaceDeclarationsOf, List.mem_filter, beq_iff_eq]

theorem mem_interfaceNames_iff :
    name ∈ interfaceNames r ↔ ∃ d, d ∈ interfaceDeclarationsOf r name := by
  simp only [mem_interfaceNames, mem_interfaceDeclarationsOf]

/-- The methods of an interface are those of its last declaration. -/
theorem get?_interfaceMethods :
    (interfaceMethods r).get? name
      = ((interfaceDeclarationsOf r name).getLast?).map fun d => d.methods.map (·.name) := by
  rw [interfaceMethods, OrderedMap.get?_ofList, List.filter_map, List.getLast?_map, Option.map_map]
  rfl

theorem mem_keys_interfaceMethods :
    name ∈ (interfaceMethods r).keys ↔ name ∈ interfaceNames r := by
  rw [interfaceMethods, OrderedMap.mem_keys_ofList, mem_interfaceNames, List.map_map, List.mem_map]
  rfl

theorem mem_keys_interfaceLocations :
    name ∈ (interfaceLocations r).keys ↔ name ∈ interfaceNames r := by
  rw [interfaceLocations, mem_keys_gather, mem_interfaceNames]
  simp only [List.mem_flatMap, interfacePlaces, List.mem_cons, List.mem_map, Prod.mk.injEq]
  constructor
  · rintro ⟨key, place, d, hd, ⟨rfl, -, -⟩ | ⟨m, -, rfl, -, -⟩⟩
    · exact ⟨d, hd, rfl⟩
    · exact ⟨d, hd, rfl⟩
  · rintro ⟨d, hd, rfl⟩
    exact ⟨interfaceMark, d.location, d, hd, .inl ⟨rfl, rfl, rfl⟩⟩

/-- What a declaration writes under the mark, if none of its methods bears its name. -/
theorem filter_interfacePlaces_mark (h : ∀ m ∈ d.methods, m.name ≠ interfaceMark) :
    ((interfacePlaces d).filter fun e => e.1 == name && e.2.1 == interfaceMark)
      = if d.name = name then [(d.name, interfaceMark, d.location)] else [] := by
  have hmethods : ((d.methods.map fun m => (d.name, m.name, m.location)).filter fun e =>
      e.1 == name && e.2.1 == interfaceMark) = [] := by
    rw [List.filter_eq_nil_iff]
    intro e he
    obtain ⟨m, hm, rfl⟩ := List.mem_map.1 he
    simp [h m hm]
  rw [interfacePlaces, List.filter_cons, hmethods]
  simp

/-- What a declaration writes under another key. -/
theorem filter_interfacePlaces (h : key ≠ interfaceMark) :
    ((interfacePlaces d).filter fun e => e.1 == name && e.2.1 == key)
      = if d.name = name then
          (d.methods.filter fun m => m.name == key).map fun m => (d.name, m.name, m.location)
        else [] := by
  have hmark : (interfaceMark == key) = false := beq_eq_false_iff_ne.2 h.symm
  rw [interfacePlaces, List.filter_cons, hmark, Bool.and_false, List.filter_map]
  by_cases hname : d.name = name <;> simp [hname, Function.comp_def]

/-- What all declarations write is what those of one name write. -/
theorem filter_flatMap_interfacePlaces (name : String) {q : String × String × Location → Bool}
    {writes : Interface → List (String × String × Location)}
    (h : ∀ d ∈ declarations,
      (interfacePlaces d).filter q = if d.name = name then writes d else []) :
    (declarations.flatMap interfacePlaces).filter q
      = (declarations.filter fun d => d.name == name).flatMap writes := by
  induction declarations with
  | nil => rfl
  | cons d declarations ih =>
      obtain ⟨hd, hrest⟩ := List.forall_mem_cons.1 h
      rw [List.flatMap_cons, List.filter_append, hd, ih hrest, List.filter_cons]
      by_cases hname : d.name = name <;> simp [hname]

/-- Under the mark of an interface stands where it is declared last. -/
theorem place?_interfaceMark (h : ∀ d ∈ interfaces r, ∀ m ∈ d.methods, m.name ≠ interfaceMark) :
    place? (interfaceLocations r) name interfaceMark
      = ((interfaceDeclarationsOf r name).getLast?).map (·.location) := by
  have hwrites := filter_flatMap_interfacePlaces name fun d hd =>
    filter_interfacePlaces_mark (h d hd)
  rw [interfaceLocations, place?_gather, hwrites, ← List.map_eq_flatMap, List.getLast?_map,
    Option.map_map]
  rfl

/-- Under the name of a method stands where an interface of the name lists it last. -/
theorem place?_listed (h : key ≠ interfaceMark) :
    place? (interfaceLocations r) name key = ((listedAs r name key).getLast?).map (·.location) := by
  have hwrites := filter_flatMap_interfacePlaces name fun d (_ : d ∈ interfaces r) =>
    filter_interfacePlaces h
  rw [interfaceLocations, place?_gather, hwrites, listedAs, ← List.getLast?_map,
    ← List.getLast?_map, List.map_flatMap, List.map_flatMap]
  simp only [List.map_map]
  rfl

theorem exists_place_listed_iff (h : key ≠ interfaceMark) :
    (∃ place, place? (interfaceLocations r) name key = some place) ↔
      ∃ d ∈ interfaceDeclarationsOf r name, ∃ m ∈ d.methods, m.name = key := by
  have hmem : ∀ m, m ∈ listedAs r name key ↔
      ∃ d ∈ interfaceDeclarationsOf r name, m ∈ d.methods ∧ m.name = key := by
    simp [listedAs]
  rw [place?_listed h, ← Option.isSome_iff_exists, Option.isSome_map, List.getLast?_isSome]
  constructor
  · intro hne
    obtain ⟨m, hm⟩ := List.exists_mem_of_ne_nil _ hne
    obtain ⟨d, hd, hmethod, hkey⟩ := (hmem m).1 hm
    exact ⟨d, hd, m, hmethod, hkey⟩
  · rintro ⟨d, hd, m, hmethod, hkey⟩
    exact List.ne_nil_of_mem ((hmem m).2 ⟨d, hd, hmethod, hkey⟩)

/-- Every method that is listed for an interface has a place. -/
theorem exists_place_of_listed (h : ∀ d ∈ interfaces r, ∀ m ∈ d.methods, m.name ≠ interfaceMark)
    (hlisted : (interfaceMethods r).get? name = some listed) (hkey : key ∈ listed) :
    ∃ place, place? (interfaceLocations r) name key = some place := by
  rw [get?_interfaceMethods] at hlisted
  obtain ⟨d, hlast, rfl⟩ := Option.map_eq_some_iff.1 hlisted
  obtain ⟨m, hm, rfl⟩ := List.mem_map.1 hkey
  have hd : d ∈ interfaceDeclarationsOf r name := List.mem_of_getLast? hlast
  have hmark : m.name ≠ interfaceMark := h d (mem_interfaceDeclarationsOf.1 hd).1 m hm
  exact (exists_place_listed_iff hmark).2 ⟨d, hd, m, hm, rfl⟩

/-- If an interface is declared once, the methods with a place are those that are listed. -/
theorem exists_place_iff_of_single (hsingle : interfaceDeclarationsOf r name = [d])
    (hkey : key ≠ interfaceMark) :
    (∃ place, place? (interfaceLocations r) name key = some place) ↔
      ∃ listed, (interfaceMethods r).get? name = some listed ∧ key ∈ listed := by
  rw [exists_place_listed_iff hkey, get?_interfaceMethods, hsingle]
  simp

end Interfaces

section Receivers

variable {r : Result} {f : Findings} {type key : String}

/-- What a package writes under another key than the mark of structs. -/
theorem filter_receiverPlaces_of_ne (h : key ≠ structMark) :
    ((receiverPlaces f).filter fun e => e.1 == type && e.2.1 == key)
      = (f.methods.filter fun m => m.receiver == type && m.name == key).map fun m =>
          (m.receiver, m.name, m.location) := by
  have hstructs : ((f.structs.map fun s => (s.name, structMark, s.location)).filter fun e =>
      e.1 == type && e.2.1 == key) = [] := by
    rw [List.filter_eq_nil_iff]
    intro e he
    obtain ⟨s, -, rfl⟩ := List.mem_map.1 he
    simp [h.symm]
  rw [receiverPlaces, List.filter_append, hstructs, List.append_nil, List.filter_map]
  rfl

/-- Under the name of a method stands where the type has it last. -/
theorem place?_received (h : key ≠ structMark) :
    place? (receivers r) type key = ((receivedAs r type key).getLast?).map (·.location) := by
  have hfilter : ((r.findings.flatMap receiverPlaces).filter fun e =>
      e.1 == type && e.2.1 == key)
        = (receivedAs r type key).map fun m => (m.receiver, m.name, m.location) := by
    rw [receivedAs, methods, List.filter_flatMap, List.filter_flatMap, List.map_flatMap]
    exact List.flatMap_congr fun f _ => filter_receiverPlaces_of_ne h
  rw [receivers, place?_gather, hfilter, List.getLast?_map, Option.map_map]
  rfl

end Receivers

section Main

/--
**The queries agree with the declarations.**  Suppose that no method bears the name of a mark.

* All queries know the same interfaces.  The place of an interface is that of its last declaration,
  and so are the methods that are listed for it.
* Each method that is listed has a place; if the interface is declared once, no other method has.
* Under a type stand, beside the mark, the names of its methods in any package, each with the place
  where it is declared last.
* The mark of structs stands under a type exactly if it has a summary, and both have the same place.
* A struct is said to implement what directives of any package claim for it, wherever they stand.
-/
theorem queries_of_declarations (r : Result)
    (hlisted : ∀ d ∈ interfaces r, ∀ m ∈ d.methods, isMark m.name = false)
    (hreceived : ∀ m ∈ methods r, isMark m.name = false) :
    (∀ name,
      (name ∈ interfaceNames r ↔ name ∈ (interfaceMethods r).keys)
      ∧ (name ∈ interfaceNames r ↔ name ∈ (interfaceLocations r).keys)
      ∧ (name ∈ interfaceNames r → ∃ d, (interfaceDeclarationsOf r name).getLast? = some d
          ∧ place? (interfaceLocations r) name interfaceMark = some d.location
          ∧ (interfaceMethods r).get? name = some (d.methods.map (·.name))))
    ∧
    (∀ name listed, (interfaceMethods r).get? name = some listed →
      (∀ key ∈ listed, ∃ place, place? (interfaceLocations r) name key = some place)
      ∧ ((interfaceDeclarationsOf r name).length = 1 → ∀ key, key ≠ interfaceMark →
          ((∃ place, place? (interfaceLocations r) name key = some place) ↔ key ∈ listed)))
    ∧
    (∀ type key, key ≠ structMark →
      place? (receivers r) type key = ((receivedAs r type key).getLast?).map (·.location)
      ∧ ((∃ place, place? (receivers r) type key = some place) ↔
          ∃ m ∈ methods r, m.receiver = type ∧ m.name = key))
    ∧
    (∀ type,
      ((∃ place, place? (receivers r) type structMark = some place) ↔ type ∈ (summaries r).keys)
      ∧ place? (receivers r) type structMark = ((summaries r).get? type).map (·.location))
    ∧
    ∀ name summary, (summaries r).get? name = some summary → ∀ i,
      i ∈ summary.implements ↔ ∃ d ∈ directives r, d.structName = name ∧ d.interfaceName = i := by
  have hunmarked : ∀ d ∈ interfaces r, ∀ m ∈ d.methods, m.name ≠ interfaceMark := by
    intro d hd m hm hmark
    simpa [isMark, hmark] using hlisted d hd m hm
  have hunmarked' : ∀ m ∈ methods r, m.name ≠ structMark := by
    intro m hm hmark
    simpa [isMark, hmark] using hreceived m hm
  have hsame : ∀ type, place? (receivers r) type structMark
      = ((summaries r).get? type).map (·.location) := by
    intro type
    rw [place?_structMark hunmarked', get?_summaries, Option.map_map]
    rfl
  refine ⟨fun name => ⟨?_, ?_, ?_⟩, ?_, ?_, fun type => ⟨?_, hsame type⟩, ?_⟩
  · exact mem_keys_interfaceMethods.symm
  · exact mem_keys_interfaceLocations.symm
  · intro hname
    obtain ⟨d, hd⟩ := mem_interfaceNames_iff.1 hname
    obtain ⟨last, hlast⟩ := Option.isSome_iff_exists.1
      (List.getLast?_isSome.2 (List.ne_nil_of_mem hd))
    refine ⟨last, hlast, ?_, ?_⟩
    · rw [place?_interfaceMark hunmarked, hlast]
      rfl
    · rw [get?_interfaceMethods, hlast]
      rfl
  · intro name listed hmethods
    refine ⟨fun key hkey => exists_place_of_listed hunmarked hmethods hkey, ?_⟩
    intro hlength key hkey
    obtain ⟨d, hsingle⟩ := List.length_eq_one_iff.1 hlength
    rw [exists_place_iff_of_single hsingle hkey, hmethods]
    simp
  · intro type key hkey
    refine ⟨place?_received hkey, ?_⟩
    rw [exists_place_receivers, or_iff_left fun h => hkey h.1]
  · rw [hsame, OrderedMap.mem_keys_iff, ← Option.isSome_iff_exists, Option.isSome_map,
      Option.isSome_iff_exists]
  · intro name summary hsummary i
    rw [get?_summaries] at hsummary
    obtain ⟨s, hs, rfl⟩ := Option.map_eq_some_iff.1 hsummary
    have hname : s.name = name := by
      have hmem : s ∈ declarationsOf r name := List.mem_of_getLast? hs
      simpa using (List.mem_filter.1 hmem).2
    rw [← hname]
    exact mem_claimed

/-- A method that an interface lists on this line. -/
def listedOn (file : String) (line : Int) (name : String) : MethodSpec := ⟨name, ⟨line, file⟩⟩

/--
An interface, a struct's method and the method of an interface are declared once more in a second
package, which also has the struct for which the first one makes a claim.
-/
def declaredTwice : Result :=
  ⟨⟨[("/w", ⟨"/w", "w", {
      interfaces := [⟨"Reader", ⟨2, "w.go"⟩, [listedOn "w.go" 3 "Read", listedOn "w.go" 4 "Close"],
        none⟩]
      methods := [⟨"File", "Read", ⟨6, "w.go"⟩, true⟩]
      directives := [⟨"File", "Reader", ⟨8, "w.go"⟩⟩] }⟩),
    ("/v", ⟨"/v", "v", {
      interfaces := [⟨"Reader", ⟨2, "v.go"⟩, [listedOn "v.go" 3 "Read"], none⟩,
        ⟨"Closer", ⟨5, "v.go"⟩, [listedOn "v.go" 6 "Close"], none⟩]
      structs := [⟨"File", ⟨8, "v.go"⟩, []⟩]
      methods := [⟨"File", "Read", ⟨9, "v.go"⟩, false⟩] }⟩)], by decide⟩⟩

/-- The later package is answered from, and the claim of the earlier one is kept. -/
theorem queries_of_declarations_twice :
    (∀ d ∈ interfaces declaredTwice, ∀ m ∈ d.methods, isMark m.name = false)
    ∧
    (∀ m ∈ methods declaredTwice, isMark m.name = false)
    ∧
    (∃ d, (interfaceDeclarationsOf declaredTwice "Reader").getLast? = some d
      ∧ place? (interfaceLocations declaredTwice) "Reader" interfaceMark = some d.location
      ∧ (interfaceMethods declaredTwice).get? "Reader" = some (d.methods.map (·.name)))
    ∧
    (∃ place, place? (interfaceLocations declaredTwice) "Closer" "Close" = some place)
    ∧
    ¬ (∃ place, place? (interfaceLocations declaredTwice) "Closer" "Read" = some place)
    ∧
    place? (receivers declaredTwice) "File" "Read" = some ⟨9, "v.go"⟩
    ∧
    place? (receivers declaredTwice) "File" structMark
      = ((summaries declaredTwice).get? "File").map (·.location)
    ∧
    ∃ summary, (summaries declaredTwice).get? "File" = some summary
      ∧ "Reader" ∈ summary.implements := by
  have hlisted : ∀ d ∈ interfaces declaredTwice, ∀ m ∈ d.methods, isMark m.name = false := by
    decide
  have hreceived : ∀ m ∈ methods declaredTwice, isMark m.name = false := by decide
  obtain ⟨hnames, hmethods, htypes, hstructs, hclaims⟩ :=
    queries_of_declarations declaredTwice hlisted hreceived
  have hcloser : (interfaceMethods declaredTwice).get? "Closer" = some ["Close"] := by decide
  obtain ⟨hplaces, hsingle⟩ := hmethods "Closer" ["Close"] hcloser
  refine ⟨hlisted, hreceived, (hnames "Reader").2.2 (by decide), hplaces "Close" (by decide), ?_,
    (htypes "File" "Read" (by decide)).1.trans (by decide), (hstructs "File").2, ?_⟩
  · rw [hsingle (by decide) "Read" (by decide)]
    decide
  · have hfile : "File" ∈ (summaries declaredTwice).keys := by decide
    obtain ⟨summary, hsummary⟩ := OrderedMap.mem_keys_iff.1 hfile
    exact ⟨summary, hsummary, (hclaims "File" summary hsummary "Reader").2 (by decide)⟩

end Main

end Query
end Conformance
