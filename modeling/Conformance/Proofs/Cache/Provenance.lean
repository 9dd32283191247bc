import Conformance.Proofs.Cache.Runs
import Conformance.Service

/-!
# Where a cached result comes from

Every entry of a cache goes back to an operation that stored its result, and nothing since then has
forgotten the package of the result.

**Origins.**  `Origin l now operations dir e earlier file later`: in the run of `operations`, the
entry `e` of package `dir` was stored for `file`, after `earlier` and before `later`; no operation of
`later` forgot the package.  An entry of the package tier moreover is the latest one of its package.

**Why it holds.**  Only `put` makes new entries.  A lookup copies an entry, with its time, from the
package tier to the file tier, so the copy has the origin of the entry that it was made of.  An
operation that forgets a package leaves no entry of that package in either tier.

**Results.**
* `Origin.concat`: an entry keeps its origin as long as its package is not forgotten;
* `traced_run`: after every run, every entry has an origin;
* `get_accounted`: whatever is given out was stored for some file of the package, is young enough,
  and was not forgotten since; if it is too old for the file tier, it is the latest result.
-/

namespace Conformance
namespace Cache

open Double

variable {ρ : Type}

/-- Whether an operation, in a certain state, forgets all results of a package. -/
def Operation.Forgets (dir : String) (c : Cache ρ) : Operation ρ → Prop
  | .invalidate file => c.ownerOf file = dir
  | .clear => True
  | _ => False

/-- Whether a list of operations stores a result of a package. -/
def Operation.Stores [HasHome ρ] (dir : String) (operations : List (Operation ρ)) : Prop :=
  ∃ file value, .put file value ∈ operations ∧ HasHome.home? value = some dir

namespace Clocked

open Operation

variable [HasHome ρ] {l : Lifetimes} {now : Double} {operations earlier later : List (Operation ρ)}
  {op : Operation ρ} {dir file f : String} {e : Stored ρ}

section Origins

/-- The entry was stored between these parts of the run, and its package not forgotten since. -/
structure Origin (l : Lifetimes) (now : Double) (operations : List (Operation ρ)) (dir : String)
    (e : Stored ρ) (earlier : List (Operation ρ)) (file : String) (later : List (Operation ρ)) :
    Prop where
  split : operations = earlier ++ .put file e.value :: later
  time : ((start now).run l earlier).now = e.time
  home : HasHome.home? e.value = some dir
  kept : ∀ middle op rest, later = middle ++ op :: rest →
    ¬ op.Forgets dir ((start now).run l (earlier ++ .put file e.value :: middle)).cache

/-- What is stored last has its origin there. -/
theorem origin_of_put (l : Lifetimes) (now : Double) (operations : List (Operation ρ))
    (file : String) {value : ρ} (h : HasHome.home? value = some dir) :
    Origin l now (operations ++ [.put file value]) dir
      ⟨((start now).run l operations).now, value⟩ operations file [] := by
  refine ⟨rfl, rfl, h, ?_⟩
  intro middle op rest hnil
  simp at hnil

/-- An entry keeps its origin as long as its package is not forgotten. -/
theorem Origin.concat (h : Origin l now operations dir e earlier file later)
    (hkept : ¬ op.Forgets dir ((start now).run l operations).cache) :
    Origin l now (operations ++ [op]) dir e earlier file (later ++ [op]) := by
  refine ⟨by simp [h.split], h.time, h.home, ?_⟩
  intro middle op' rest hsplit
  rcases List.eq_nil_or_concat rest with rfl | ⟨rest, last, rfl⟩
  · obtain ⟨hmiddle, hop⟩ := List.append_inj' hsplit rfl
    cases hop
    rw [← hmiddle, ← h.split]
    exact hkept
  · have hcons : later ++ [op] = (middle ++ op' :: rest) ++ [last] := by
      rw [hsplit, List.concat_eq_append, List.append_assoc, List.cons_append]
    exact h.kept middle op' rest (List.append_inj' hcons rfl).1

theorem not_stores_concat (h : ¬ Stores dir later)
    (hop : ∀ file value, op = .put file value → HasHome.home? value ≠ some dir) :
    ¬ Stores dir (later ++ [op]) := by
  rintro ⟨file, value, hmem, hhome⟩
  rcases List.mem_append.1 hmem with hmem | hmem
  · exact h ⟨file, value, hmem, hhome⟩
  · exact hop file value (List.mem_singleton.1 hmem).symm hhome

end Origins

section Traces

/-- An entry of the package tier: the latest result of the package, not forgotten since. -/
def TracedPackage (l : Lifetimes) (now : Double) (operations : List (Operation ρ)) (dir : String)
    (e : Stored ρ) : Prop :=
  ∃ earlier file later, Origin l now operations dir e earlier file later ∧ ¬ Stores dir later

/-- An entry of the file tier: some result of the recorded package, not forgotten since. -/
def TracedFile (l : Lifetimes) (now : Double) (operations : List (Operation ρ)) (c : Cache ρ)
    (file : String) (e : Stored ρ) : Prop :=
  ∃ dir earlier g later, c.owners.get? file = some dir ∧
    Origin l now operations dir e earlier g later

theorem TracedPackage.concat (h : TracedPackage l now operations dir e)
    (hkept : ¬ op.Forgets dir ((start now).run l operations).cache)
    (hop : ∀ file value, op = .put file value → HasHome.home? value ≠ some dir) :
    TracedPackage l now (operations ++ [op]) dir e := by
  obtain ⟨earlier, file, later, horigin, hlatest⟩ := h
  exact ⟨earlier, file, later ++ [op], horigin.concat hkept, not_stores_concat hlatest hop⟩

theorem TracedFile.concat {c c' : Cache ρ} (h : TracedFile l now operations c file e)
    (howner : c'.owners.get? file = c.owners.get? file)
    (hkept : ∀ dir, c.owners.get? file = some dir →
      ¬ op.Forgets dir ((start now).run l operations).cache) :
    TracedFile l now (operations ++ [op]) c' file e := by
  obtain ⟨dir, earlier, g, later, hdir, horigin⟩ := h
  refine ⟨dir, earlier, g, later ++ [op], ?_, horigin.concat (hkept dir hdir)⟩
  rw [howner]
  exact hdir

/-- Every entry of a cache has an origin in the run that led to it. -/
structure Traced (l : Lifetimes) (now : Double) (operations : List (Operation ρ)) (c : Cache ρ) :
    Prop where
  packages : ∀ dir e, c.packages.get? dir = some e → TracedPackage l now operations dir e
  files : ∀ file e, c.files.get? file = some e → TracedFile l now operations c file e

theorem traced_put (file : String) (value : ρ)
    (h : Traced l now operations ((start now).run l operations).cache) :
    let s := (start now).run l operations
    Traced l now (operations ++ [.put file value]) (s.cache.put s.now file value) := by
  intro s
  cases hhome : HasHome.home? value with
  | none =>
      rw [put_of_empty hhome]
      refine ⟨?_, ?_⟩
      · intro dir e he
        refine (h.packages dir e he).concat not_false ?_
        rintro g value' ⟨⟩ hsome
        rw [hhome] at hsome
        cases hsome
      · intro f e he
        exact (h.files f e he).concat rfl fun _ _ => not_false
  | some owner =>
      have hnew := origin_of_put l now operations file hhome
      rw [put_of_home hhome]
      refine ⟨?_, ?_⟩
      · intro dir e he
        rw [OrderedMap.get?_insert] at he
        by_cases hdir : owner = dir
        · rw [if_pos hdir] at he
          cases he
          rw [← hdir]
          exact ⟨operations, file, [], hnew, by simp [Stores]⟩
        · rw [if_neg hdir] at he
          refine (h.packages dir e he).concat not_false ?_
          rintro g value' ⟨⟩ hsome
          rw [hhome] at hsome
          exact hdir (Option.some.inj hsome)
      · intro f e he
        rw [OrderedMap.get?_insert] at he
        by_cases hfile : file = f
        · rw [if_pos hfile] at he
          cases he
          refine ⟨owner, operations, file, [], ?_, hnew⟩
          rw [OrderedMap.get?_insert, if_pos hfile]
        · rw [if_neg hfile] at he
          refine (h.files f e he).concat ?_ fun _ _ => not_false
          rw [OrderedMap.get?_insert, if_neg hfile]

theorem traced_get (file : String)
    (h : Traced l now operations ((start now).run l operations).cache) :
    let s := (start now).run l operations
    Traced l now (operations ++ [.get file]) (s.cache.get l s.now file).2 := by
  intro s
  have hpackages : ∀ dir e, s.cache.packages.get? dir = some e →
      TracedPackage l now (operations ++ [.get file]) dir e := by
    intro dir e he
    exact (h.packages dir e he).concat not_false (by rintro g value ⟨⟩)
  have hfiles : ∀ f e, s.cache.files.get? f = some e →
      TracedFile l now (operations ++ [.get file]) s.cache f e := by
    intro f e he
    exact (h.files f e he).concat rfl fun _ _ => not_false
  rcases get_cases l s.now file s.cache with ⟨e, -, hget⟩ | ⟨e, he, hget⟩ | hget
  · rw [hget]
    exact ⟨hpackages, hfiles⟩
  · rw [hget]
    refine ⟨hpackages, ?_⟩
    intro f e' he'
    dsimp only at he'
    rw [OrderedMap.get?_insert] at he'
    by_cases hfile : file = f
    · -- The copy has the origin of the entry of the package tier.
      rw [if_pos hfile] at he'
      cases he'
      obtain ⟨earlier, g, later, horigin, -⟩ := hpackages _ e (fresh?_eq_some_iff.1 he).1
      refine ⟨s.cache.ownerOf file, earlier, g, later, ?_, horigin⟩
      rw [OrderedMap.get?_insert, if_pos hfile]
    · rw [if_neg hfile] at he'
      obtain ⟨dir, earlier, g, later, hdir, horigin⟩ := hfiles f e' he'
      refine ⟨dir, earlier, g, later, ?_, horigin⟩
      rw [OrderedMap.get?_insert, if_neg hfile]
      exact hdir
  · rw [hget]
    exact ⟨hpackages, hfiles⟩

theorem traced_invalidate (file : String)
    (h : Traced l now operations ((start now).run l operations).cache) :
    let s := (start now).run l operations
    Traced l now (operations ++ [.invalidate file]) (s.cache.invalidate file) := by
  intro s
  refine ⟨?_, ?_⟩
  · intro dir e he
    rw [get?_packages_invalidate] at he
    split at he
    next => cases he
    next hne => exact (h.packages dir e he).concat (fun heq => hne heq.symm) (by rintro g value ⟨⟩)
  · intro f e he
    rw [get?_files_invalidate] at he
    split at he
    next => cases he
    next hkept =>
      refine (h.files f e he).concat ?_ ?_
      · rw [get?_owners_invalidate, if_neg hkept]
      · rintro dir hdir rfl
        exact hkept (.inr hdir)

theorem traced_wait (time : Double)
    (h : Traced l now operations ((start now).run l operations).cache) :
    Traced l now (operations ++ [.wait time]) ((start now).run l operations).cache := by
  refine ⟨?_, ?_⟩
  · intro dir e he
    exact (h.packages dir e he).concat not_false (by rintro g value ⟨⟩)
  · intro f e he
    exact (h.files f e he).concat rfl fun _ _ => not_false

/-- Every operation keeps the entries traced. -/
theorem traced_after (op : Operation ρ)
    (h : Traced l now operations ((start now).run l operations).cache) :
    Traced l now (operations ++ [op]) (((start now).run l operations).after l op).cache := by
  cases op with
  | put file value => exact traced_put file value h
  | get file => exact traced_get file h
  | invalidate file => exact traced_invalidate file h
  | clear =>
      refine ⟨?_, ?_⟩
      · rintro dir e ⟨⟩
      · rintro f e ⟨⟩
  | wait time =>
      rw [after]
      split
      next => exact traced_wait time h
      next => exact traced_wait time h

theorem traced_run (l : Lifetimes) (now : Double) (operations : List (Operation ρ)) :
    Traced l now operations ((start now).run l operations).cache := by
  induction operations using List.reverseRecOn with
  | nil =>
      refine ⟨?_, ?_⟩
      · rintro dir e ⟨⟩
      · rintro f e ⟨⟩
  | append_singleton operations op ih =>
      rw [run_concat]
      exact traced_after op ih

end Traces

section Main

/-- How a result that is given out for a file came to be stored. -/
structure Accounted (l : Lifetimes) (now : Double) (operations : List (Operation ρ))
    (file : String) (r : ρ) (earlier : List (Operation ρ)) (g : String)
    (later : List (Operation ρ)) : Prop where
  /-- The result was stored for some file. -/
  split : operations = earlier ++ .put g r :: later
  /-- It is not empty, and is one of the package that the file belongs to now. -/
  home : HasHome.home? r = some (((start now).run l operations).cache.ownerOf file)
  /-- It was stored less than one of the lifetimes ago. -/
  young :
    let age := ((start now).run l operations).now.sub ((start now).run l earlier).now
    age.lt l.file = true ∨ age.lt l.package = true
  /-- Since then nothing was cleared, and no file invalidated that belonged to the package. -/
  kept : ∀ middle op rest, later = middle ++ op :: rest →
    ¬ op.Forgets (((start now).run l operations).cache.ownerOf file)
      ((start now).run l (earlier ++ .put g r :: middle)).cache
  /-- If it is too old for the file tier, then it is the latest result of the package. -/
  latest :
    let age := ((start now).run l operations).now.sub ((start now).run l earlier).now
    age.lt l.file = false → ¬ Stores (((start now).run l operations).cache.ownerOf file) later

/--
**Every hit is accounted for.**  If a lookup of a file gives a result out, then this result was
stored earlier in the run, as a result of the package of the file and less than a lifetime ago, and
nothing has forgotten that package since.
-/
theorem get_accounted (l : Lifetimes) (now : Double) (operations : List (Operation ρ))
    (file : String) (r : ρ)
    (h : (((start now).run l operations).cache.get l ((start now).run l operations).now file).1
      = some r) :
    ∃ earlier g later, Accounted l now operations file r earlier g later := by
  have htraced := traced_run l now operations
  have hhome := home?_of_get (consistent_run l now operations) h
  obtain ⟨e, rfl, ⟨he, hfresh⟩ | ⟨he, hfresh⟩⟩ := entry_of_get h
  · obtain ⟨dir, earlier, g, later, hdir, horigin⟩ := htraced.files file e he
    rw [isFresh, ← horigin.time] at hfresh
    refine ⟨earlier, g, later, horigin.split, hhome, .inl hfresh, ?_, ?_⟩
    · rw [ownerOf_of_get?_eq_some hdir]
      exact horigin.kept
    · intro age hold
      rw [hfresh] at hold
      cases hold
  · obtain ⟨earlier, g, later, horigin, hlatest⟩ := htraced.packages _ e he
    rw [isFresh, ← horigin.time] at hfresh
    exact ⟨earlier, g, later, horigin.split, hhome, .inr hfresh, horigin.kept, fun _ => hlatest⟩

/-- A minute after a result was stored for a file, another file of its package still finds it. -/
theorem sibling_accounted :
    let l : Lifetimes := ⟨30, 300⟩
    let stored : Revision := ⟨some 7, .ofPackage { path := "/w", name := "a" }⟩
    let operations := [.put "/w/a.go" stored, .get "/w/b.go", .wait 1060]
    let s := (start 1000).run l operations
    ∃ r : Revision, (s.cache.get l s.now "/w/b.go").1 = some r ∧ r.number = some 7 ∧
      ∃ earlier g later, Accounted l 1000 operations "/w/b.go" r earlier g later := by
  intro l stored operations s
  have hnumber : (s.cache.get l s.now "/w/b.go").1.map (·.number) = some (some 7) := by
    decide +kernel
  obtain ⟨r, hget, hr⟩ := Option.map_eq_some_iff.1 hnumber
  exact ⟨r, hget, hr, get_accounted l 1000 operations "/w/b.go" r hget⟩

end Main

end Clocked
end Cache
end Conformance
