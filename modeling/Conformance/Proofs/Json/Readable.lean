import Conformance.Proofs.Json.Values

/-!
# Values that can be read

Whatever text is read, the value is `Proper`: its numbers are rounded to double precision, and of
members with one name there is only the last.  With the other direction, that proper values are read
from what is written of them, the proper values are those that some text is read as.

**Reading.**  The readers of values, items and members call each other with less fuel, so the three
are treated together (`ProperReaders`): each with one more unit of fuel gives proper parts if all of
them do with less (`ProperReaders.value_succ`, `ProperReaders.items_succ`,
`ProperReaders.members_succ`), so that all do with any fuel (`properReaders`).

**Results.**
* `proper_iff_readable`: a value is one of the format if and only if a text is read as it.
-/

namespace Conformance
namespace Json

section Numbers

variable {s : Bool} {cs rest : List Char} {j : Json}

theorem proper_of_unsigned? (h : unsigned? s cs = some (j, rest)) : j.Proper := by
  unfold unsigned? at h
  split at h
  next => cases h
  next =>
    dsimp only at h
    split at h
    next =>
      cases h
      exact .int _
    next =>
      cases h
      exact .real (Double.fits_ofDecimal _)

theorem proper_of_number? (h : number? cs = some (j, rest)) : j.Proper := by
  unfold number? at h
  split at h
  next =>
    split at h
    next =>
      cases h
      exact .real (.infinite true)
    next => exact proper_of_unsigned? h
  next => exact proper_of_unsigned? h

/-- What a word stands for is the value. -/
theorem eq_of_word {o : Option (List Char)} {k : Json} (h : o.map (k, ·) = some (j, rest)) :
    k = j := by
  obtain ⟨_, -, heq⟩ := Option.map_eq_some_iff.1 h
  cases heq
  rfl

theorem proper_of_scalar? (h : scalar? cs = some (j, rest)) : j.Proper := by
  unfold scalar? at h
  split at h
  next => exact eq_of_word h ▸ .null
  next => exact eq_of_word h ▸ .bool true
  next => exact eq_of_word h ▸ .bool false
  next => exact eq_of_word h ▸ .real .nan
  next => exact eq_of_word h ▸ .real (.infinite false)
  next => exact proper_of_number? h

end Numbers

section Values

/-- Members that an object of the format can have. -/
structure ProperMembers (members : List (String × Json)) : Prop where
  names : (memberNames members).Nodup
  values : ∀ m ∈ members, m.2.Proper

theorem properMembers_nil : ProperMembers [] :=
  ⟨List.nodup_nil, List.forall_mem_nil _⟩

theorem ProperMembers.insertEntry {members : List (String × Json)} {value : Json}
    (h : ProperMembers members) (hvalue : value.Proper) (name : String) :
    ProperMembers (OrderedMap.insertEntry name value members) := by
  refine ⟨OrderedMap.nodup_insertEntry h.names, fun m hm => ?_⟩
  rcases OrderedMap.mem_insertEntry hm with rfl | hm
  · exact hvalue
  · exact h.values m hm

/-- With this fuel, what is read is a value of the format, or a part of one. -/
structure ProperReaders (fuel : Nat) : Prop where
  value : ∀ cs j rest, parseValue fuel cs = some (j, rest) → j.Proper
  items : ∀ cs items rest, parseItems fuel cs = some (items, rest) → ∀ j ∈ items, j.Proper
  members : ∀ before cs members rest, ProperMembers before →
    parseMembers fuel before cs = some (members, rest) → ProperMembers members

theorem ProperReaders.value_succ {fuel : Nat} (h : ProperReaders fuel) {cs rest : List Char}
    {j : Json} (hread : parseValue (fuel + 1) cs = some (j, rest)) : j.Proper := by
  rw [parseValue] at hread
  split at hread
  next =>
    obtain ⟨_, -, heq⟩ := Option.map_eq_some_iff.1 hread
    cases heq
    exact .str _
  next =>
    split at hread
    next =>
      cases hread
      exact .arr (List.forall_mem_nil _)
    next =>
      obtain ⟨⟨items, after⟩, hitems, heq⟩ := Option.map_eq_some_iff.1 hread
      cases heq
      exact .arr (h.items _ _ _ hitems)
  next =>
    split at hread
    next =>
      cases hread
      exact .obj List.nodup_nil (List.forall_mem_nil _)
    next =>
      obtain ⟨⟨members, after⟩, hmembers, heq⟩ := Option.map_eq_some_iff.1 hread
      cases heq
      have hproper := h.members _ _ _ _ properMembers_nil hmembers
      exact .obj hproper.names hproper.values
  next => exact proper_of_scalar? hread

theorem ProperReaders.items_succ {fuel : Nat} (h : ProperReaders fuel) {cs rest : List Char}
    {items : List Json} (hread : parseItems (fuel + 1) cs = some (items, rest)) :
    ∀ j ∈ items, j.Proper := by
  rw [parseItems] at hread
  split at hread
  next => cases hread
  next item _ hitem =>
    have hproper := h.value _ _ _ hitem
    split at hread
    next =>
      cases hread
      exact List.forall_mem_singleton.2 hproper
    next =>
      obtain ⟨⟨items', after⟩, hitems, heq⟩ := Option.map_eq_some_iff.1 hread
      cases heq
      exact List.forall_mem_cons.2 ⟨hproper, h.items _ _ _ hitems⟩
    next => cases hread

theorem ProperReaders.members_succ {fuel : Nat} (h : ProperReaders fuel) {cs rest : List Char}
    {before members : List (String × Json)} (hbefore : ProperMembers before)
    (hread : parseMembers (fuel + 1) before cs = some (members, rest)) : ProperMembers members := by
  rw [parseMembers] at hread
  split at hread
  next =>
    split at hread
    next => cases hread
    next =>
      split at hread
      next =>
        split at hread
        next => cases hread
        next hvalue =>
          have hmore := hbefore.insertEntry (h.value _ _ _ hvalue)
          dsimp only at hread
          split at hread
          next =>
            cases hread
            exact hmore _
          next => exact h.members _ _ _ _ (hmore _) hread
          next => cases hread
      next => cases hread
  next => cases hread

theorem properReaders (fuel : Nat) : ProperReaders fuel := by
  induction fuel with
  | zero => constructor <;> intros <;> contradiction
  | succ fuel ih =>
      exact ⟨fun _ _ _ => ih.value_succ, fun _ _ _ => ih.items_succ, fun _ _ _ _ => ih.members_succ⟩

/-- The values of the format are those that can be read. -/
theorem proper_iff_readable (j : Json) : j.Proper ↔ ∃ text, parse? text = some j := by
  constructor
  · exact fun h => ⟨j.compact, parse?_compact h⟩
  · rintro ⟨text, hread⟩
    unfold parse? at hread
    dsimp only at hread
    split at hread
    next hvalue =>
      split at hread
      next =>
        cases hread
        exact (properReaders _).value _ _ _ hvalue
      next => cases hread
    next => cases hread

end Values

end Json
end Conformance
