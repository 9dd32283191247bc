import Conformance.Proofs.Resolution.Monotone
import Mathlib.Data.List.Induction

/-!
# Passes of the closure

How many passes the closure over embedding needs, and how they can be shared out.

**Resuming.**  The closure stops at its limit, or before it when a pass adds nothing.  Either way
it is so many passes as the limit allows (`grow_eq_iterate`), and a pass does the same whatever has
been counted before it (`counted_pass`).  So the passes of two closures are those of one.

**Inner-first order.**  The structs may be listed such that each comes after the structs that it
embeds (`InnerFirst`).  A pass visits them in this order, and what a visit adds counts at once.
When a struct is visited, those that it embeds have all they are to get
(`has_foldl_visit_of_implied`), so a single pass reaches everything, however deep the embedding is.

**Results.**
* `close_add`: a closure that is resumed is one closure;
* `close_of_innerFirst`: in inner-first order the first pass completes the closure.
-/

namespace Conformance
namespace Resolution

variable {names : List String} {structs : OrderedMap String StructSummary} {r : Resolution}

section Resuming

/-- A growth with so many edges counted before. -/
def Growth.counted (n : Nat) (g : Growth) : Growth :=
  ⟨g.resolution, n + g.added⟩

theorem Growth.counted_add (n : Nat) (g : Growth) (i s : String) :
    (g.add i s).counted n = (g.counted n).add i s := by
  by_cases h : g.resolution.has i s = true <;> simp [Growth.add, Growth.counted, h, Nat.add_assoc]

theorem counted_inherit (n : Nat) (e : Embedding) (g : Growth) (i : String) :
    (inherit e g i).counted n = inherit e (g.counted n) i := by
  by_cases h : e.typeName = i ∨ g.resolution.has i e.typeName = true
  · rw [inherit, if_pos h, Growth.counted_add]
    exact (if_pos h).symm
  · rw [inherit, if_neg h]
    exact (if_neg h).symm

/-- A pass does not depend on the count. -/
theorem counted_pass (n : Nat) (g : Growth) :
    (pass names structs g).counted n = pass names structs (g.counted n) := by
  refine (List.foldl_hom (Growth.counted n) fun g e => ?_).symm
  exact List.foldl_hom (Growth.counted n) fun g i => (counted_inherit n e g i).symm

theorem counted_grow (n limit : Nat) (g : Growth) :
    (grow names structs limit g).counted n = grow names structs limit (g.counted n) := by
  have hsemi : Function.Semiconj (Growth.counted n) (pass names structs) (pass names structs) :=
    counted_pass n
  rw [grow_eq_iterate, grow_eq_iterate]
  exact hsemi.iterate_right limit g

/--
**Closures compose.**  A closure in at most `a` passes, and another one in at most `b` passes of
what it leads to, give the edges that one closure in at most `a + b` passes gives, in the same
order, and have added as many between them.
-/
theorem close_add (names : List String) (structs : OrderedMap String StructSummary) (a b : Nat)
    (r : Resolution) :
    let first := close names structs a r
    let second := close names structs b first.resolution
    let whole := close names structs (a + b) r
    second.resolution = whole.resolution
    ∧
    first.added + second.added = whole.added := by
  intro first second whole
  have hwhole : whole = second.counted first.added := by
    calc whole = (pass names structs)^[b + a] ⟨r, 0⟩ := by
          rw [Nat.add_comm b a]
          exact grow_eq_iterate (a + b) ⟨r, 0⟩
      _ = (pass names structs)^[b] first := by
          rw [Function.iterate_add_apply, ← grow_eq_iterate a]
          rfl
      _ = grow names structs b (Growth.counted first.added ⟨first.resolution, 0⟩) := by
          rw [grow_eq_iterate]
          rfl
      _ = second.counted first.added := (counted_grow first.added b ⟨first.resolution, 0⟩).symm
  rw [hwhole]
  exact ⟨rfl, rfl⟩

end Resuming

section InnerFirst

/-- Each struct comes after those of the structs that it embeds. -/
def InnerFirst (structs : OrderedMap String StructSummary) : Prop :=
  ∀ e ∈ embeddings structs, e.typeName ∈ structs.keys →
    structs.keys.idxOf e.typeName < structs.keys.idxOf e.structName

instance : Decidable (InnerFirst structs) :=
  inferInstanceAs (Decidable (∀ e ∈ embeddings structs, e.typeName ∈ structs.keys →
    structs.keys.idxOf e.typeName < structs.keys.idxOf e.structName))

theorem embeds_iff_of_mem {e : String × StructSummary} (he : e ∈ structs.entries) {t : String} :
    Embeds structs e.1 t ↔ t ∈ embeddedTypes e.2 := by
  have hget : structs.get? e.1 = some e.2 := OrderedMap.get?_eq_some_iff.2 he
  simp only [Embeds, hget, Option.some.injEq, exists_eq_left', embeddedTypes, List.mem_map,
    List.mem_filter, and_assoc]

/-- What a struct embeds in inner-first order is visited before it, unless it is no struct. -/
theorem InnerFirst.mem_visited (h : InnerFirst structs)
    {visited rest : List (String × StructSummary)} {e : String × StructSummary}
    (hentries : structs.entries = visited ++ e :: rest) {t : String}
    (hembeds : Embeds structs e.1 t) (ht : t ∈ structs.keys) : t ∈ visited.map Prod.fst := by
  have hkeys : structs.keys = visited.map Prod.fst ++ e.1 :: rest.map Prod.fst := by
    rw [OrderedMap.keys, hentries, List.map_append, List.map_cons]
  have hnodup : structs.keys.Nodup := structs.nodup
  have hlt : structs.keys.idxOf t < structs.keys.idxOf e.1 :=
    h ⟨e.1, t⟩ (mem_embeddings.2 hembeds) ht
  rw [hkeys, List.nodup_append] at hnodup
  have hnew : e.1 ∉ visited.map Prod.fst := fun hmem => hnodup.2.2 e.1 hmem e.1 (by simp) rfl
  by_contra hmem
  rw [hkeys, List.idxOf_append_of_notMem hnew, List.idxOf_append_of_notMem hmem,
    List.idxOf_cons_self] at hlt
  omega

/-- A type that is no struct implements what it was given. -/
theorem Implied.has_of_not_mem_keys {i s : String} (h : Implied names structs r i s)
    (hs : s ∉ structs.keys) : r.has i s = true := by
  cases h with
  | given hgiven => exact hgiven
  | self _ hembeds => exact absurd hembeds.mem_keys hs
  | through _ hembeds _ => exact absurd hembeds.mem_keys hs

/-- After their visits in inner-first order, structs have all that embedding implies. -/
theorem has_foldl_visit_of_implied (h : InnerFirst structs)
    {visited rest : List (String × StructSummary)} (hentries : structs.entries = visited ++ rest)
    {i s : String} (hs : s ∈ visited.map Prod.fst) (himplied : Implied names structs r i s) :
    (visited.foldl (visit names) r).has i s = true := by
  induction visited using List.reverseRecOn generalizing rest s with
  | nil => cases hs
  | append_singleton visited e ih =>
      rw [List.append_assoc, List.singleton_append] at hentries
      have he : e ∈ structs.entries := by
        rw [hentries]
        exact List.mem_append_right _ List.mem_cons_self
      rw [List.foldl_append, List.foldl_cons, List.foldl_nil, has_visit]
      rw [List.map_append, List.mem_append, List.map_singleton, List.mem_singleton] at hs
      rcases hs with hs | rfl
      · exact .inl (ih hentries hs himplied)
      · cases himplied with
        | given hgiven => exact .inl (within_foldl_visit visited _ _ hgiven)
        | self hname hembeds =>
            exact .inr ⟨rfl, hname, i, (embeds_iff_of_mem he).1 hembeds, .inl rfl⟩
        | @through _ t hname hembeds ht =>
            refine .inr ⟨rfl, hname, t, (embeds_iff_of_mem he).1 hembeds, .inr ?_⟩
            by_cases hkey : t ∈ structs.keys
            · exact ih hentries (h.mem_visited hentries hembeds hkey) ht
            · exact within_foldl_visit visited _ _ (ht.has_of_not_mem_keys hkey)

/-- A pass in inner-first order reaches all that embedding implies. -/
theorem has_pass_iff_of_innerFirst (h : InnerFirst structs) {g : Growth} {i s : String} :
    (pass names structs g).resolution.has i s = true ↔ Implied names structs g.resolution i s := by
  rw [resolution_pass]
  constructor
  · intro hhas
    exact onlyImplied_close 1 g.resolution i s (by rwa [resolution_close])
  · intro himplied
    rw [round_eq_foldl_visit]
    by_cases hs : s ∈ structs.keys
    · exact has_foldl_visit_of_implied h (List.append_nil structs.entries).symm hs himplied
    · exact within_foldl_visit structs.entries i s (himplied.has_of_not_mem_keys hs)

/-- Further passes in inner-first order add nothing. -/
theorem close_eq_pass_of_innerFirst (h : InnerFirst structs) {limit : Nat} (hlimit : 1 ≤ limit) :
    close names structs limit r = pass names structs ⟨r, 0⟩ := by
  have hclosed : Closed names structs (pass names structs ⟨r, 0⟩).resolution :=
    closed_of_has_iff_implied fun _ _ => has_pass_iff_of_innerFirst h
  obtain ⟨more, rfl⟩ : ∃ more, limit = more + 1 := ⟨limit - 1, by omega⟩
  rw [close, grow_eq_iterate, Function.iterate_succ_apply]
  exact Function.iterate_fixed (pass_of_closed hclosed) more

/--
**One pass suffices in inner-first order.**  Where each struct comes after those of the structs that
it embeds, a closure in any number of passes but none reaches all that embedding implies, however
deep, and nothing else; so it is the same whatever the limit.
-/
theorem close_of_innerFirst (names : List String) {structs : OrderedMap String StructSummary}
    (h : InnerFirst structs) {limit : Nat} (hlimit : 1 ≤ limit) (r : Resolution) :
    let g := close names structs limit r
    (∀ i s, g.resolution.has i s = true ↔ Implied names structs r i s)
    ∧
    ∀ limit' ≥ 1, close names structs limit' r = g := by
  intro g
  have hg : g = pass names structs ⟨r, 0⟩ := close_eq_pass_of_innerFirst h hlimit
  rw [hg]
  refine ⟨fun i s => has_pass_iff_of_innerFirst h, ?_⟩
  intro limit' hlimit'
  exact close_eq_pass_of_innerFirst h hlimit'

/-- Seven structs, of which the first embeds an interface and the others the one before. -/
def tower : OrderedMap String StructSummary :=
  ⟨[("Base", layer "Base" ["Reader"]), ("Two", layer "Two" ["Lock", "Base"]),
    ("Three", layer "Three" ["Two"]), ("Four", layer "Four" ["Three"]),
    ("Five", layer "Five" ["Four"]), ("Six", layer "Six" ["Five"]),
    ("Top", layer "Top" ["Six"])], by decide⟩

/-- The same structs, listed from the top. -/
def hangingTower : OrderedMap String StructSummary :=
  .ofList tower.entries.reverse

/--
A single pass takes both the embedded interface and the one that was given from outside to the top;
listed from the top, the structs are not through after five.
-/
theorem close_tower :
    let names := ["Reader", "Locker"]
    let r := empty.add "Locker" "Lock" { reason := .receiver, rate := some 1 }
    let g := close names tower 1 r
    InnerFirst tower
    ∧
    ((∀ i s, g.resolution.has i s = true ↔ Implied names tower r i s)
      ∧
      ∀ limit' ≥ 1, close names tower limit' r = g)
    ∧
    g.resolution.implementationsOf "Reader" = tower.keys
    ∧
    g.resolution.has "Locker" "Top" = true
    ∧
    (close names hangingTower 5 r).resolution.has "Reader" "Top" = false := by
  intro names r g
  have horder : InnerFirst tower := by decide +kernel
  refine ⟨horder, close_of_innerFirst names horder (Nat.le_refl 1) r, ?_, ?_, ?_⟩
  · decide +kernel
  · decide +kernel
  · decide +kernel

end InnerFirst

end Resolution
end Conformance
