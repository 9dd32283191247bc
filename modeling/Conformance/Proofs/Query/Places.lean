import Conformance.Query
import Mathlib.Data.List.Basic
import Mathlib.Data.List.Induction

/-!
# Where declarations are

What the queries about a result hold, in terms of its declarations.

**Last declaration.**  Places are gathered by writing one after the other, so the last one written
for a type and a key is the one that is found (`place?_gather`).  Methods and structs of a package
write to the same map, structs under `structMark`; as no method bears the name of a mark, what is
found under `structMark` is where the last struct of that name is declared.

**Summaries.**  The struct that a summary is about is the last one of its name as well.  What the
directives claim goes into the summaries only, so they are a map of structs (`declaredStructs`)
with a summary made of each (`summaries_eq`).

**Results.**
* `exists_place_receivers`: which keys stand under a type;
* `place?_structMark`, `get?_summaries`: both tell the last declaration of a struct.
-/

namespace Conformance
namespace Query

section Specification

/-- The method declarations of all packages. -/
def methods (r : Result) : List Method := r.findings.flatMap (·.methods)

/-- The declarations of structs of this name, in order. -/
def declarationsOf (r : Result) (name : String) : List Struct :=
  (structs r).filter fun s => s.name == name

/-- The place given for a type and a key. -/
def place? (places : Places) (type key : String) : Option Location :=
  (places.get? type).bind fun known => known.get? key

/-- The structs by name; of several of one name the last. -/
def declaredStructs (r : Result) : OrderedMap String Struct :=
  .ofList ((structs r).map fun s => (s.name, s))

end Specification

section Gather

variable {entries : List (String × String × Location)} {type key : String}

theorem gather_concat (entries : List (String × String × Location)) (type key : String)
    (place : Location) :
    gather (entries ++ [(type, key, place)])
      = (gather entries).adjust type fun known => (known.getD .empty).insert key place := by
  rw [gather, List.foldl_append]
  rfl

theorem place?_adjust (places : Places) (type key type' key' : String) (place : Location) :
    place? (places.adjust type fun known => (known.getD .empty).insert key place) type' key'
      = if type = type' ∧ key = key' then some place else place? places type' key' := by
  rw [place?, OrderedMap.get?_adjust]
  by_cases htype : type = type'
  · subst htype
    by_cases hkey : key = key'
    · simp [hkey]
    · cases hknown : places.get? type <;> simp [place?, hknown, hkey]
  · simp [place?, htype]

/-- What is found is what was written last. -/
theorem place?_gather (entries : List (String × String × Location)) (type key : String) :
    place? (gather entries) type key
      = ((entries.filter fun e => e.1 == type && e.2.1 == key).getLast?).map (·.2.2) := by
  induction entries using List.reverseRecOn with
  | nil => rfl
  | append_singleton entries e ih =>
      obtain ⟨type', key', place⟩ := e
      rw [gather_concat, place?_adjust, ih, List.filter_append]
      by_cases hmatch : type' = type ∧ key' = key
      · simp [hmatch]
      · have hnone : ([(type', key', place)].filter fun e => e.1 == type && e.2.1 == key) = [] := by
          simpa using hmatch
        rw [if_neg hmatch, hnone, List.append_nil]

theorem exists_place_gather :
    (∃ place, place? (gather entries) type key = some place) ↔
      ∃ place, (type, key, place) ∈ entries := by
  rw [place?_gather, ← Option.isSome_iff_exists, Option.isSome_map, List.getLast?_isSome]
  constructor
  · intro h
    obtain ⟨⟨type', key', place⟩, he⟩ := List.exists_mem_of_ne_nil _ h
    obtain ⟨hmem, hmatch⟩ := List.mem_filter.1 he
    obtain ⟨rfl, rfl⟩ : type' = type ∧ key' = key := by simpa using hmatch
    exact ⟨place, hmem⟩
  · rintro ⟨place, hmem⟩
    refine List.ne_nil_of_mem (a := (type, key, place)) (List.mem_filter.2 ⟨hmem, ?_⟩)
    simp

theorem mem_keys_gather :
    type ∈ (gather entries).keys ↔ ∃ key place, (type, key, place) ∈ entries := by
  induction entries using List.reverseRecOn with
  | nil => simp [gather, OrderedMap.empty, OrderedMap.keys]
  | append_singleton entries e ih =>
      obtain ⟨type', key', place'⟩ := e
      rw [gather_concat, OrderedMap.mem_keys_adjust, ih]
      simp only [List.mem_append, List.mem_singleton, Prod.mk.injEq, exists_or,
        exists_and_left, exists_eq, and_true]

end Gather

section Receivers

variable {r : Result} {type key name : String}

theorem mem_receiverPlaces {e : String × String × Location} :
    e ∈ r.findings.flatMap receiverPlaces ↔
      (∃ m ∈ methods r, e = (m.receiver, m.name, m.location))
      ∨
      ∃ s ∈ structs r, e = (s.name, structMark, s.location) := by
  simp only [methods, structs, receiverPlaces, List.mem_flatMap, List.mem_append, List.mem_map]
  constructor
  · rintro ⟨f, hf, ⟨m, hm, rfl⟩ | ⟨s, hs, rfl⟩⟩
    · exact .inl ⟨m, ⟨f, hf, hm⟩, rfl⟩
    · exact .inr ⟨s, ⟨f, hf, hs⟩, rfl⟩
  · rintro (⟨m, ⟨f, hf, hm⟩, rfl⟩ | ⟨s, ⟨f, hf, hs⟩, rfl⟩)
    · exact ⟨f, hf, .inl ⟨m, hm, rfl⟩⟩
    · exact ⟨f, hf, .inr ⟨s, hs, rfl⟩⟩

/-- Under a type stand the names of its methods, and the mark if it is a declared struct. -/
theorem exists_place_receivers :
    (∃ place, place? (receivers r) type key = some place) ↔
      (∃ m ∈ methods r, m.receiver = type ∧ m.name = key)
      ∨
      (key = structMark ∧ ∃ s ∈ structs r, s.name = type) := by
  rw [receivers, exists_place_gather]
  simp only [mem_receiverPlaces, Prod.mk.injEq, exists_or]
  refine or_congr ?_ ?_
  · constructor
    · rintro ⟨place, m, hm, rfl, rfl, rfl⟩
      exact ⟨m, hm, rfl, rfl⟩
    · rintro ⟨m, hm, rfl, rfl⟩
      exact ⟨m.location, m, hm, rfl, rfl, rfl⟩
  · constructor
    · rintro ⟨place, s, hs, rfl, rfl, rfl⟩
      exact ⟨rfl, s, hs, rfl⟩
    · rintro ⟨rfl, s, hs, rfl⟩
      exact ⟨s.location, s, hs, rfl, rfl, rfl⟩

/-- The types with places are the receivers of methods and the declared structs. -/
theorem mem_keys_receivers :
    type ∈ (receivers r).keys ↔
      (∃ m ∈ methods r, m.receiver = type) ∨ ∃ s ∈ structs r, s.name = type := by
  rw [receivers, mem_keys_gather]
  simp only [mem_receiverPlaces, Prod.mk.injEq]
  constructor
  · rintro ⟨key, place, ⟨m, hm, rfl, -, -⟩ | ⟨s, hs, rfl, -, -⟩⟩
    · exact .inl ⟨m, hm, rfl⟩
    · exact .inr ⟨s, hs, rfl⟩
  · rintro (⟨m, hm, rfl⟩ | ⟨s, hs, rfl⟩)
    · exact ⟨m.name, m.location, .inl ⟨m, hm, rfl, rfl, rfl⟩⟩
    · exact ⟨structMark, s.location, .inr ⟨s, hs, rfl, rfl, rfl⟩⟩

/-- What is written under the mark of a struct, if no method bears its name. -/
theorem filter_receiverPlaces {f : Findings} (h : ∀ m ∈ f.methods, m.name ≠ structMark) :
    ((receiverPlaces f).filter fun e => e.1 == name && e.2.1 == structMark)
      = (f.structs.filter fun s => s.name == name).map fun s =>
          (s.name, structMark, s.location) := by
  have hmethods : ((f.methods.map fun m => (m.receiver, m.name, m.location)).filter fun e =>
      e.1 == name && e.2.1 == structMark) = [] := by
    rw [List.filter_eq_nil_iff]
    intro e he
    obtain ⟨m, hm, rfl⟩ := List.mem_map.1 he
    simp [h m hm]
  rw [receiverPlaces, List.filter_append, hmethods, List.nil_append, List.filter_map]
  simp [Function.comp_def]

/-- Under the mark of a struct stands where it is declared last. -/
theorem place?_structMark (h : ∀ m ∈ methods r, m.name ≠ structMark) :
    place? (receivers r) name structMark
      = ((declarationsOf r name).getLast?).map (·.location) := by
  have hfilter : ((r.findings.flatMap receiverPlaces).filter fun e =>
      e.1 == name && e.2.1 == structMark)
        = (declarationsOf r name).map fun s => (s.name, structMark, s.location) := by
    rw [declarationsOf, structs, List.filter_flatMap, List.filter_flatMap, List.map_flatMap]
    refine List.flatMap_congr fun f hf => ?_
    exact filter_receiverPlaces fun m hm => h m (List.mem_flatMap.2 ⟨f, hf, hm⟩)
  rw [receivers, place?_gather, hfilter, List.getLast?_map, Option.map_map]
  rfl

/-- Nothing stands there exactly if there is no struct of the name. -/
theorem place?_structMark_eq_none_iff (h : ∀ m ∈ methods r, m.name ≠ structMark) :
    place? (receivers r) name structMark = none ↔ ∀ s ∈ structs r, s.name ≠ name := by
  rw [place?_structMark h, Option.map_eq_none_iff, List.getLast?_eq_none_iff, declarationsOf,
    List.filter_eq_nil_iff]
  simp

end Receivers

section Summaries

variable {r : Result} {name : String}

theorem summaries_eq (r : Result) : summaries r = (declaredStructs r).mapValues (summary r) := by
  rw [summaries, declaredStructs, OrderedMap.mapValues_ofList, List.map_map]
  rfl

theorem get?_declaredStructs :
    (declaredStructs r).get? name = (declarationsOf r name).getLast? := by
  rw [declaredStructs, OrderedMap.get?_ofList, List.filter_map, List.getLast?_map, Option.map_map]
  exact Option.map_id'

/-- A summary is that of the last declaration of its struct. -/
theorem get?_summaries :
    (summaries r).get? name = ((declarationsOf r name).getLast?).map (summary r) := by
  rw [summaries_eq, OrderedMap.get?_mapValues, get?_declaredStructs]

theorem mem_claimed {interfaceName : String} :
    interfaceName ∈ claimed r name ↔
      ∃ d ∈ directives r, d.structName = name ∧ d.interfaceName = interfaceName := by
  simp [claimed, and_assoc]

end Summaries

end Query
end Conformance
