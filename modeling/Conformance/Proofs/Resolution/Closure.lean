import Conformance.Resolution.Embedding
import Mathlib.Data.List.Perm.Subperm
import Mathlib.Data.Nat.Find
import Mathlib.Logic.Function.Iterate

/-!
# The closure over embedding is a least fixed point

**Closure rule.**  A declared struct that embeds `T` implements an interface if `T` is that
interface or implements it.  `Implied` is the least relation that holds of the given pairs and is
closed under this rule; `ImpliedIn n` keeps count of the uses of the rule.

**Growth.**  Whatever the closure does, it appends edges for embedding and counts them
(`Extends`), and it appends implied ones only.

**Rounds.**  One pass takes one use of the rule off every derivation (`ImpliedIn.pass`), so `n`
passes reach all that `n` uses imply, in whatever order structs, fields and interfaces come.  A
shortest derivation uses the rule for different structs (`exists_distinct_structs`), so as many
passes as there are structs reach everything.

**Results.**
* `close_isLeastClosure`: soundness, the reach of a limited closure, the complete closure, and what
  it adds.
-/

namespace Conformance
namespace Resolution

variable {names : List String} {structs : OrderedMap String StructSummary}

section Specification

/-- A declared struct has an embedded field of this type. -/
def Embeds (structs : OrderedMap String StructSummary) (s t : String) : Prop :=
  ∃ summary, structs.get? s = some summary ∧
    ∃ f ∈ summary.fields.values, f.embedded = true ∧ f.typeName = t

/-- The pairs of an interface and a struct that embedding implies, the given pairs included. -/
inductive Implied (names : List String) (structs : OrderedMap String StructSummary)
    (r : Resolution) : String → String → Prop
  | given {i s : String} (h : r.has i s = true) : Implied names structs r i s
  | self {i s : String} (hname : i ∈ names) (hembeds : Embeds structs s i) :
      Implied names structs r i s
  | through {i s t : String} (hname : i ∈ names) (hembeds : Embeds structs s t)
      (ht : Implied names structs r i t) : Implied names structs r i s

/-- The pairs that are implied by so many uses of the closure rule. -/
inductive ImpliedIn (names : List String) (structs : OrderedMap String StructSummary)
    (r : Resolution) : Nat → String → String → Prop
  | given {i s : String} (h : r.has i s = true) : ImpliedIn names structs r 0 i s
  | self {i s : String} (hname : i ∈ names) (hembeds : Embeds structs s i) :
      ImpliedIn names structs r 1 i s
  | through {n : Nat} {i s t : String} (hname : i ∈ names) (hembeds : Embeds structs s t)
      (ht : ImpliedIn names structs r n i t) : ImpliedIn names structs r (n + 1) i s

theorem mem_embeddings {s t : String} :
    (⟨s, t⟩ : Embedding) ∈ embeddings structs ↔ Embeds structs s t := by
  simp only [embeddings, Embeds, List.mem_flatMap, List.mem_map, List.mem_filter,
    OrderedMap.get?_eq_some_iff, Embedding.mk.injEq]
  constructor
  · rintro ⟨⟨s', summary⟩, hmem, f, ⟨hf, hembedded⟩, rfl, rfl⟩
    exact ⟨summary, hmem, f, hf, hembedded, rfl⟩
  · rintro ⟨summary, hmem, f, hf, hembedded, rfl⟩
    exact ⟨(s, summary), hmem, f, ⟨hf, hembedded⟩, rfl, rfl⟩

theorem Embeds.mem_keys {s t : String} (h : Embeds structs s t) : s ∈ structs.keys := by
  obtain ⟨summary, hget, -⟩ := h
  exact OrderedMap.mem_keys_iff.2 ⟨summary, hget⟩

theorem implied_iff_exists_impliedIn {r : Resolution} {i s : String} :
    Implied names structs r i s ↔ ∃ n, ImpliedIn names structs r n i s := by
  constructor
  · intro h
    induction h with
    | given h => exact ⟨0, .given h⟩
    | self hname hembeds => exact ⟨1, .self hname hembeds⟩
    | through hname hembeds _ ih =>
        obtain ⟨n, hn⟩ := ih
        exact ⟨n + 1, .through hname hembeds hn⟩
  · rintro ⟨n, h⟩
    induction h with
    | given h => exact .given h
    | self hname hembeds => exact .self hname hembeds
    | through hname hembeds _ ih => exact .through hname hembeds ih

end Specification

section Induction

/-- What one inheritance keeps, a pass keeps. -/
theorem pass_induction {P : Growth → Prop} {g : Growth} (h : P g)
    (hstep : ∀ g e i, e ∈ embeddings structs → i ∈ names → P g → P (inherit e g i)) :
    P (pass names structs g) := by
  refine List.foldlRecOn _ _ h fun g hg e he => ?_
  exact List.foldlRecOn _ _ hg fun g hg i hi => hstep g e i he hi hg

/-- What a pass keeps, the closure keeps. -/
theorem grow_induction {P : Growth → Prop} {limit : Nat} {g : Growth} (h : P g)
    (hstep : ∀ g, P g → P (pass names structs g)) : P (grow names structs limit g) := by
  induction limit generalizing g with
  | zero => exact h
  | succ limit ih =>
      rw [grow]
      split
      · exact hstep g h
      · exact ih (hstep g h)

end Induction

section Extension

/-- A growth goes on to another by appending edges for embedding and counting them. -/
def Extends (g g' : Growth) : Prop :=
  ∃ new : List (EdgeKey × Edge),
    g'.resolution.edges.entries = g.resolution.edges.entries ++ new ∧
    g'.added = g.added + new.length ∧
    ∀ e ∈ new, e.2 = { reason := .embedded }

theorem Extends.refl (g : Growth) : Extends g g :=
  ⟨[], by simp, by simp, by simp⟩

theorem Extends.trans {g g' g'' : Growth} (h : Extends g g') (h' : Extends g' g'') :
    Extends g g'' := by
  obtain ⟨new, hentries, hadded, hnew⟩ := h
  obtain ⟨new', hentries', hadded', hnew'⟩ := h'
  refine ⟨new ++ new', ?_, ?_, ?_⟩
  · rw [hentries', hentries, List.append_assoc]
  · rw [hadded', hadded, List.length_append, Nat.add_assoc]
  · intro e he
    rcases List.mem_append.1 he with he | he
    · exact hnew e he
    · exact hnew' e he

theorem Extends.has {g g' : Growth} (h : Extends g g') {i s : String}
    (hs : g.resolution.has i s = true) : g'.resolution.has i s = true := by
  obtain ⟨new, hentries, -, -⟩ := h
  rw [has_iff, OrderedMap.keys] at hs ⊢
  rw [hentries, List.map_append]
  exact List.mem_append_left _ hs

theorem Extends.edge? {g g' : Growth} (h : Extends g g') {i s : String} {e : Edge}
    (hs : g.resolution.edge? i s = some e) : g'.resolution.edge? i s = some e := by
  obtain ⟨new, hentries, -, -⟩ := h
  rw [Resolution.edge?, OrderedMap.get?] at hs ⊢
  rw [hentries, OrderedMap.lookup_append, hs, Option.some_or]

/-- An edge that was not there before is one for embedding. -/
theorem Extends.eq_embedded {g g' : Growth} (h : Extends g g') {i s : String} {e : Edge}
    (hbefore : g.resolution.edge? i s = none) (hafter : g'.resolution.edge? i s = some e) :
    e = { reason := .embedded } := by
  obtain ⟨new, hentries, -, hnew⟩ := h
  rw [Resolution.edge?, OrderedMap.get?_eq_some_iff, hentries] at hafter
  rcases List.mem_append.1 hafter with hmem | hmem
  · rw [Resolution.edge?, OrderedMap.get?_eq_some_iff.2 hmem] at hbefore
    cases hbefore
  · exact hnew _ hmem

theorem Extends.eq_of_added_eq {g g' : Growth} (h : Extends g g') (hadded : g'.added = g.added) :
    g' = g := by
  obtain ⟨new, hentries, hcount, -⟩ := h
  have hnil : new = [] := List.length_eq_zero_iff.1 (by omega)
  obtain ⟨⟨edges⟩, added⟩ := g
  obtain ⟨⟨edges'⟩, added'⟩ := g'
  subst hnil
  have hedges : edges' = edges := OrderedMap.ext (by simpa using hentries)
  rw [hedges, show added' = added from hadded]

/-- The count goes up by the number of pairs that were not there before. -/
theorem Extends.added_eq {g g' : Growth} (h : Extends g g') :
    g'.added = g.added
      + (g'.resolution.edges.keys.filter fun key => !g.resolution.has key.1 key.2).length := by
  obtain ⟨new, hentries, hadded, -⟩ := h
  have hkeys : g'.resolution.edges.keys = g.resolution.edges.keys ++ new.map Prod.fst := by
    rw [OrderedMap.keys, hentries, List.map_append, OrderedMap.keys]
  have hnodup : g'.resolution.edges.keys.Nodup := g'.resolution.edges.nodup
  rw [hkeys, List.nodup_append] at hnodup
  have hold : (g.resolution.edges.keys.filter fun key => !g.resolution.has key.1 key.2) = [] := by
    rw [List.filter_eq_nil_iff]
    intro key hkey
    rw [has_iff.2 hkey]
    simp
  have hnew : ((new.map Prod.fst).filter fun key => !g.resolution.has key.1 key.2)
      = new.map Prod.fst := by
    rw [List.filter_eq_self]
    intro key hkey
    rw [Bool.not_eq_true', Bool.eq_false_iff]
    exact fun hhas => hnodup.2.2 key (has_iff.1 hhas) key hkey rfl
  rw [hkeys, List.filter_append, hold, hnew, List.nil_append, List.length_map, hadded]

theorem Growth.extends_add (g : Growth) (i s : String) : Extends g (g.add i s) := by
  by_cases h : g.resolution.has i s = true
  · rw [Growth.add, if_pos h]
    exact .refl g
  · have hmem : (i, s) ∉ g.resolution.edges.keys := fun hmem => h (has_iff.2 hmem)
    rw [Growth.add, if_neg h]
    refine ⟨[((i, s), { reason := .embedded })], ?_, rfl, by simp⟩
    rw [Resolution.add, if_neg h]
    exact OrderedMap.entries_insert_of_not_mem hmem

theorem extends_inherit (e : Embedding) (g : Growth) (i : String) : Extends g (inherit e g i) := by
  rw [inherit]
  split
  · exact g.extends_add i e.structName
  · exact .refl g

theorem extends_foldl {α : Type} {f : Growth → α → Growth} (hf : ∀ g x, Extends g (f g x))
    (xs : List α) (g : Growth) : Extends g (xs.foldl f g) := by
  induction xs generalizing g with
  | nil => exact .refl g
  | cons x xs ih => exact (hf g x).trans (ih (f g x))

theorem extends_inheritAll (e : Embedding) (g : Growth) :
    Extends g (names.foldl (inherit e) g) :=
  extends_foldl (extends_inherit e) names g

theorem extends_pass (g : Growth) : Extends g (pass names structs g) :=
  extends_foldl (fun g e => extends_inheritAll e g) (embeddings structs) g

theorem extends_grow (limit : Nat) (g : Growth) : Extends g (grow names structs limit g) :=
  grow_induction (.refl g) fun g' h => h.trans (extends_pass g')

end Extension

section Rounds

/-- What an inheritance does to a resolution, apart from the count. -/
def handOn (e : Embedding) (r : Resolution) (i : String) : Resolution :=
  if e.typeName = i ∨ r.has i e.typeName = true then
    r.add i e.structName { reason := .embedded }
  else r

/-- What a pass does to a resolution, apart from the count. -/
def round (names : List String) (structs : OrderedMap String StructSummary) (r : Resolution) :
    Resolution :=
  (embeddings structs).foldl (fun r e => names.foldl (handOn e) r) r

theorem resolution_inherit (e : Embedding) (g : Growth) (i : String) :
    (inherit e g i).resolution = handOn e g.resolution i := by
  rw [inherit, handOn]
  split
  · by_cases h : g.resolution.has i e.structName = true <;> simp [Growth.add, Resolution.add, h]
  · rfl

theorem resolution_pass (g : Growth) :
    (pass names structs g).resolution = round names structs g.resolution := by
  refine (List.foldl_hom Growth.resolution fun g e => ?_).symm
  exact List.foldl_hom Growth.resolution fun g i => (resolution_inherit e g i).symm

/-- Passes that are left out would have added nothing. -/
theorem grow_eq_iterate (limit : Nat) (g : Growth) :
    grow names structs limit g = (pass names structs)^[limit] g := by
  induction limit generalizing g with
  | zero => rfl
  | succ limit ih =>
      rw [grow, Function.iterate_succ_apply]
      split
      next hadded =>
        have hsame : pass names structs g = g := (extends_pass g).eq_of_added_eq hadded
        rw [hsame, Function.iterate_fixed hsame]
      next => exact ih (pass names structs g)

theorem resolution_close (limit : Nat) (r : Resolution) :
    (close names structs limit r).resolution = (round names structs)^[limit] r := by
  have hsemi : Function.Semiconj Growth.resolution (pass names structs) (round names structs) :=
    resolution_pass
  rw [close, grow_eq_iterate]
  exact hsemi.iterate_right limit ⟨r, 0⟩

end Rounds

section Soundness

theorem Growth.has_add {g : Growth} {i s j t : String} :
    (g.add i s).resolution.has j t = true ↔
      g.resolution.has j t = true ∨ (i = j ∧ s = t) := by
  by_cases h : g.resolution.has i s = true
  · rw [Growth.add, if_pos h]
    constructor
    · exact Or.inl
    · rintro (hj | ⟨rfl, rfl⟩)
      · exact hj
      · exact h
  · rw [Growth.add, if_neg h]
    exact Resolution.has_add

/-- All that a growth holds is implied by the resolution that it started from. -/
def OnlyImplied (names : List String) (structs : OrderedMap String StructSummary)
    (r : Resolution) (g : Growth) : Prop :=
  ∀ i s, g.resolution.has i s = true → Implied names structs r i s

theorem OnlyImplied.inherit {r : Resolution} {g : Growth} (h : OnlyImplied names structs r g)
    {e : Embedding} {i : String} (he : e ∈ embeddings structs) (hi : i ∈ names) :
    OnlyImplied names structs r (inherit e g i) := by
  have hembeds : Embeds structs e.structName e.typeName := mem_embeddings.1 he
  intro j t hhas
  rw [Resolution.inherit] at hhas
  split at hhas
  next hcond =>
    rcases Growth.has_add.1 hhas with hhas | ⟨rfl, rfl⟩
    · exact h j t hhas
    · rcases hcond with rfl | hcond
      · exact .self hi hembeds
      · exact .through hi hembeds (h _ _ hcond)
  next => exact h j t hhas

theorem onlyImplied_close (limit : Nat) (r : Resolution) :
    OnlyImplied names structs r (close names structs limit r) := by
  have hstart : OnlyImplied names structs r ⟨r, 0⟩ := fun i s => .given
  refine grow_induction hstart fun g hg => ?_
  exact pass_induction hg fun g e i he hi hg => hg.inherit he hi

end Soundness

section Completeness

/-- The closure rule adds nothing to a resolution. -/
def Closed (names : List String) (structs : OrderedMap String StructSummary)
    (r : Resolution) : Prop :=
  ∀ i s t, i ∈ names → Embeds structs s t → t = i ∨ r.has i t = true → r.has i s = true

theorem Closed.has_of_implied {r r' : Resolution} (h : Closed names structs r')
    (hr : ∀ i s, r.has i s = true → r'.has i s = true) {i s : String}
    (hi : Implied names structs r i s) : r'.has i s = true := by
  induction hi with
  | given hgiven => exact hr _ _ hgiven
  | self hname hembeds => exact h _ _ _ hname hembeds (Or.inl rfl)
  | through hname hembeds _ ih => exact h _ _ _ hname hembeds (Or.inr ih)

/-- What holds exactly the implied pairs is closed. -/
theorem closed_of_has_iff_implied {r r' : Resolution}
    (h : ∀ i s, r'.has i s = true ↔ Implied names structs r i s) : Closed names structs r' := by
  intro i s t hname hembeds ht
  rw [h]
  rcases ht with rfl | ht
  · exact .self hname hembeds
  · exact .through hname hembeds ((h i t).1 ht)

/-- An inheritance hands on what its embedding implies at once. -/
theorem has_inherit {g : Growth} {e : Embedding} {i : String}
    (h : e.typeName = i ∨ g.resolution.has i e.typeName = true) :
    (inherit e g i).resolution.has i e.structName = true := by
  rw [inherit, if_pos h]
  exact Growth.has_add.2 (Or.inr ⟨rfl, rfl⟩)

theorem has_inheritAll {g : Growth} {e : Embedding} {i : String} (hname : i ∈ names)
    (h : e.typeName = i ∨ g.resolution.has i e.typeName = true) :
    (names.foldl (inherit e) g).resolution.has i e.structName = true := by
  obtain ⟨before, after, rfl⟩ := List.append_of_mem hname
  rw [List.foldl_append, List.foldl_cons]
  refine (extends_inheritAll e _).has (has_inherit ?_)
  exact Or.imp_right (extends_inheritAll e g).has h

/-- A pass hands on what a single use of the closure rule implies. -/
theorem has_pass {g : Growth} {i s t : String} (hname : i ∈ names) (hembeds : Embeds structs s t)
    (h : t = i ∨ g.resolution.has i t = true) :
    (pass names structs g).resolution.has i s = true := by
  obtain ⟨before, after, hembeddings⟩ := List.append_of_mem (mem_embeddings.2 hembeds)
  rw [pass, hembeddings, List.foldl_append, List.foldl_cons]
  refine (extends_foldl (fun g e => extends_inheritAll e g) after _).has ?_
  refine has_inheritAll hname ?_
  exact Or.imp_right (extends_foldl (fun g e => extends_inheritAll e g) before g).has h

/-- A growth that a pass adds nothing to is closed. -/
theorem closed_of_pass_eq {g : Growth} (h : pass names structs g = g) :
    Closed names structs g.resolution := by
  intro i s t hname hembeds ht
  rw [← h]
  exact has_pass hname hembeds ht

theorem pass_of_closed {g : Growth} (h : Closed names structs g.resolution) :
    pass names structs g = g := by
  refine pass_induction (P := fun g' => g' = g) rfl ?_
  rintro g e i he hi rfl
  rw [inherit]
  split
  next hcond => rw [Growth.add, if_pos (h i _ _ hi (mem_embeddings.1 he) hcond)]
  next => rfl

/-- One pass takes one use of the closure rule off a derivation. -/
theorem ImpliedIn.pass {g : Growth} {n : Nat} {i s : String}
    (h : ImpliedIn names structs g.resolution n i s) :
    ImpliedIn names structs (pass names structs g).resolution (n - 1) i s := by
  induction h with
  | given h => exact .given ((extends_pass g).has h)
  | self hname hembeds => exact .given (has_pass hname hembeds (Or.inl rfl))
  | @through n i s t hname hembeds ht ih =>
      cases ht with
      | given ht => exact .given (has_pass hname hembeds (Or.inr ht))
      | self hname' hembeds' => exact .through hname hembeds ih
      | through hname' hembeds' ht' => exact .through hname hembeds ih

/-- So many passes reach what so many uses of the closure rule imply. -/
theorem has_grow_of_impliedIn {limit n : Nat} {g : Growth} {i s : String} (hn : n ≤ limit)
    (h : ImpliedIn names structs g.resolution n i s) :
    (grow names structs limit g).resolution.has i s = true := by
  induction limit generalizing n g with
  | zero =>
      obtain rfl : n = 0 := by omega
      cases h with
      | given h => exact h
  | succ limit ih =>
      rw [grow]
      split
      next hadded =>
        have hsame : Resolution.pass names structs g = g :=
          (extends_pass g).eq_of_added_eq hadded
        rw [hsame]
        exact (closed_of_pass_eq hsame).has_of_implied (fun _ _ h => h)
          (implied_iff_exists_impliedIn.2 ⟨n, h⟩)
      next => exact ih (by omega) h.pass

end Completeness

section Bound

/-- No shorter derivation than one of `n` uses of the closure rule. -/
def Shortest (names : List String) (structs : OrderedMap String StructSummary) (r : Resolution)
    (n : Nat) (i s : String) : Prop :=
  ImpliedIn names structs r n i s ∧ ∀ m, ImpliedIn names structs r m i s → n ≤ m

theorem exists_shortest {r : Resolution} {i s : String} (h : Implied names structs r i s) :
    ∃ n, Shortest names structs r n i s := by
  classical
  have hex : ∃ n, ImpliedIn names structs r n i s := implied_iff_exists_impliedIn.1 h
  exact ⟨Nat.find hex, Nat.find_spec hex, fun m hm => Nat.find_min' hex hm⟩

/-- Each use of the closure rule in a shortest derivation is for another struct. -/
theorem exists_distinct_structs {r : Resolution} {n : Nat} {i s : String}
    (h : Shortest names structs r n i s) :
    ∃ visited : List String, visited.length = n ∧ visited.Nodup ∧
      ∀ x ∈ visited, x ∈ structs.keys ∧ ∃ m ≤ n, Shortest names structs r m i x := by
  induction n generalizing s with
  | zero => exact ⟨[], rfl, List.nodup_nil, by simp⟩
  | succ n ih =>
      obtain ⟨hderiv, hmin⟩ := h
      cases hderiv with
      | self hname hembeds =>
          refine ⟨[s], rfl, by simp, ?_⟩
          intro x hx
          rw [List.mem_singleton.1 hx]
          exact ⟨hembeds.mem_keys, 1, Nat.le_refl 1, .self hname hembeds, hmin⟩
      | @through _ _ _ t hname hembeds ht =>
          have hshort : Shortest names structs r n i t :=
            ⟨ht, fun m hm => by have := hmin (m + 1) (.through hname hembeds hm); omega⟩
          obtain ⟨visited, hlength, hnodup, hvisited⟩ := ih hshort
          refine ⟨s :: visited, by simp [hlength], List.nodup_cons.2 ⟨?_, hnodup⟩, ?_⟩
          · -- the structs before `s` have shorter derivations than `s` itself
            intro hs
            obtain ⟨-, m, hm, hm'⟩ := hvisited s hs
            have := hmin m hm'.1
            omega
          · intro x hx
            rcases List.mem_cons.1 hx with rfl | hx
            · exact ⟨hembeds.mem_keys, n + 1, Nat.le_refl _, .through hname hembeds ht, hmin⟩
            · obtain ⟨hkey, m, hm, hm'⟩ := hvisited x hx
              exact ⟨hkey, m, by omega, hm'⟩

/-- A shortest derivation is no longer than there are structs. -/
theorem Shortest.le_size {r : Resolution} {n : Nat} {i s : String}
    (h : Shortest names structs r n i s) : n ≤ structs.size := by
  obtain ⟨visited, hlength, hnodup, hvisited⟩ := exists_distinct_structs h
  have hsub : visited ⊆ structs.keys := fun x hx => (hvisited x hx).1
  have hle := (hnodup.subperm hsub).length_le
  rwa [hlength, OrderedMap.keys, List.length_map] at hle

theorem has_close_iff {limit : Nat} (hlimit : structs.size ≤ limit) {r : Resolution}
    {i s : String} :
    (close names structs limit r).resolution.has i s = true ↔ Implied names structs r i s := by
  constructor
  · exact onlyImplied_close limit r i s
  · intro h
    obtain ⟨n, hn⟩ := exists_shortest h
    exact has_grow_of_impliedIn (Nat.le_trans hn.le_size hlimit) hn.1

/-- As many passes as there are structs leave nothing to be added. -/
theorem closed_close {limit : Nat} (hlimit : structs.size ≤ limit) (r : Resolution) :
    Closed names structs (close names structs limit r).resolution :=
  closed_of_has_iff_implied fun _ _ => has_close_iff hlimit

end Bound

section Main

/--
**The closure over embedding.**  It keeps the given pairs and adds implied ones only.  It has
whatever so many uses of the closure rule imply as passes are allowed.  With as many passes as there
are structs it has everything that is implied, and closing once more adds nothing.  What it adds
comes after the given edges, which stay as they are; it is for embedding, and is counted.
-/
theorem close_isLeastClosure (names : List String) (structs : OrderedMap String StructSummary)
    (limit : Nat) (r : Resolution) :
    let g := close names structs limit r
    (∀ i s, r.has i s = true → g.resolution.has i s = true)
    ∧
    (∀ i s, g.resolution.has i s = true → Implied names structs r i s)
    ∧
    (∀ n ≤ limit, ∀ i s, ImpliedIn names structs r n i s → g.resolution.has i s = true)
    ∧
    (structs.size ≤ limit →
      (∀ i s, g.resolution.has i s = true ↔ Implied names structs r i s)
      ∧
      ∀ limit', close names structs limit' g.resolution = ⟨g.resolution, 0⟩)
    ∧
    g.added = (g.resolution.edges.keys.filter fun key => !r.has key.1 key.2).length
    ∧
    (∀ i s e, r.edge? i s = none → g.resolution.edge? i s = some e →
      e = { reason := .embedded, rate := none })
    ∧
    (∀ i s e, r.edge? i s = some e → g.resolution.edge? i s = some e)
    ∧
    r.edges.entries <+: g.resolution.edges.entries := by
  intro g
  have hext : Extends ⟨r, 0⟩ g := extends_grow limit ⟨r, 0⟩
  refine ⟨fun i s => hext.has, onlyImplied_close limit r, ?_, ?_, ?_, ?_, ?_, ?_⟩
  · intro n hn i s h
    exact has_grow_of_impliedIn hn h
  · intro hlimit
    refine ⟨fun i s => has_close_iff hlimit, fun limit' => ?_⟩
    have hclosed : Closed names structs g.resolution := closed_close hlimit r
    have hpass : pass names structs ⟨g.resolution, 0⟩ = ⟨g.resolution, 0⟩ :=
      pass_of_closed hclosed
    exact grow_of_pass_eq hpass limit'
  · rw [hext.added_eq, Nat.zero_add]
  · intro i s e hbefore hafter
    exact hext.eq_embedded hbefore hafter
  · intro i s e h
    exact hext.edge? h
  · obtain ⟨new, hentries, -, -⟩ := hext
    exact ⟨new, hentries.symm⟩

end Main

end Resolution
end Conformance
