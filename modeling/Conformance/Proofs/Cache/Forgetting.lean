import Conformance.Proofs.Cache.Runs
import Conformance.Service

/-!
# What an invalidation forgets

An invalidation of a file is meant for the package that the file belongs to.  This module says what
is gone afterwards, and what is as it was.

**Gone.**  The package has no entry of its own, no file is recorded under it, and no entry of either
tier is a result of it.  That no copy is left in the file tier does not follow from what is removed:
a copy is removed by its file, and only the agreement of the tiers (`Consistent`) says that the file
of every copy is recorded under the package.

**Kept.**  Entries and records of other packages are not touched, so that a file that belongs to
another package is answered as before (`get_invalidate_of_elsewhere`), recorded or not.

**Results.**
* `home?_of_mem_invalidate`: no result of the package is left in either tier;
* `get_invalidate_of_elsewhere`: the files of other packages are answered as before;
* `invalidate_forgets_package`: both together, for every cache that a run leads to.
-/

namespace Conformance
namespace Cache

open Double

variable {ρ : Type}

section Kept

variable {l : Lifetimes} {now : Double} {file f dir : String} {c : Cache ρ}

/-- An invalidation does not reach a file that belongs to another package. -/
theorem not_affected_of_elsewhere (hne : f ≠ file) (helsewhere : c.ownerOf f ≠ c.ownerOf file) :
    ¬ (f = file ∨ c.owners.get? f = some (c.ownerOf file)) := by
  rintro (heq | howner)
  · exact hne heq
  · exact helsewhere (ownerOf_of_get?_eq_some howner)

/-- What is kept for a file that belongs to another package stays. -/
theorem get?_invalidate_of_elsewhere (hne : f ≠ file)
    (helsewhere : c.ownerOf f ≠ c.ownerOf file) :
    (c.invalidate file).files.get? f = c.files.get? f ∧
      (c.invalidate file).owners.get? f = c.owners.get? f := by
  have hreach := not_affected_of_elsewhere hne helsewhere
  exact ⟨by rw [get?_files_invalidate, if_neg hreach], by rw [get?_owners_invalidate, if_neg hreach]⟩

/-- A file that belongs to another package is answered as before. -/
theorem get_invalidate_of_elsewhere (hne : f ≠ file)
    (helsewhere : c.ownerOf f ≠ c.ownerOf file) :
    ((c.invalidate file).get l now f).1 = (c.get l now f).1 := by
  have howner : (c.invalidate file).ownerOf f = c.ownerOf f := by
    rw [ownerOf_invalidate, if_neg]
    rintro (heq | hsame)
    · exact hne heq
    · exact helsewhere hsame
  rw [fst_get_eq, fst_get_eq, howner, fresh?, fresh?, fresh?, fresh?,
    (get?_invalidate_of_elsewhere hne helsewhere).1, get?_packages_invalidate, if_neg helsewhere]

end Kept

section Gone

variable [HasHome ρ] {now : Double} {file key : String} {e : Stored ρ} {c : Cache ρ}

/-- No result of the package is left in either tier. -/
theorem home?_of_mem_invalidate (h : Consistent now c)
    (he : (c.invalidate file).files.get? key = some e
      ∨ (c.invalidate file).packages.get? key = some e) :
    HasHome.home? e.value ≠ some (c.ownerOf file) := by
  have hafter := consistent_invalidate h file
  intro hhome
  rcases he with he | he
  · -- The file of the entry would still be recorded under the package.
    obtain ⟨dir, -, hdir, hhome', -, -⟩ := hafter.files key e he
    rw [hhome] at hhome'
    cases hhome'
    rw [get?_owners_invalidate] at hdir
    split at hdir
    next => cases hdir
    next hkept => exact hkept (.inr hdir)
  · have hkey : key = c.ownerOf file := by
      have hhome' := (hafter.packages key e he).1
      rw [hhome] at hhome'
      exact (Option.some.inj hhome').symm
    rw [get?_packages_invalidate, if_pos hkey] at he
    cases he

end Gone

namespace Clocked

variable [HasHome ρ]

section Main

/--
**Invalidation.**  In every cache that a run leads to, let a file be invalidated that belongs to a
package, its own directory if nothing is recorded for it.  Afterwards the package has no entry, the
file neither an entry nor a record, no file is recorded under the package, and no entry of either
tier is a result of the package.  All other packages have the entry that they had, all other files
recorded elsewhere have the entry and the record that they had, and a lookup of any other file that
belongs elsewhere ends as before, whenever it happens.
-/
theorem invalidate_forgets_package (l : Lifetimes) (now : Double)
    (operations : List (Operation ρ)) (file : String) :
    let c := ((start now).run l operations).cache
    let dir := (c.owners.get? file).getD (Path.parent file)
    let c' := c.invalidate file
    (c'.packages.get? dir = none
      ∧ c'.files.get? file = none
      ∧ c'.owners.get? file = none
      ∧ (∀ f, c'.owners.get? f ≠ some dir)
      ∧ (∀ key e, c'.files.get? key = some e ∨ c'.packages.get? key = some e →
          HasHome.home? e.value ≠ some dir))
    ∧
    (∀ dir', dir' ≠ dir → c'.packages.get? dir' = c.packages.get? dir')
    ∧
    (∀ f dir', f ≠ file → c.owners.get? f = some dir' → dir' ≠ dir →
      c'.files.get? f = c.files.get? f ∧ c'.owners.get? f = c.owners.get? f)
    ∧
    (∀ f, f ≠ file → c.ownerOf f ≠ dir → ∀ l' time,
      (c'.get l' time f).1 = (c.get l' time f).1) := by
  intro c dir c'
  have hconsistent : Consistent ((start now).run l operations).now c :=
    consistent_run l now operations
  refine ⟨⟨?_, ?_, ?_, ?_, ?_⟩, ?_, ?_, ?_⟩
  · exact get?_packages_invalidate.trans (if_pos rfl)
  · exact get?_files_invalidate.trans (if_pos (.inl rfl))
  · exact get?_owners_invalidate.trans (if_pos (.inl rfl))
  · intro f hf
    have hrecorded := get?_owners_invalidate.symm.trans hf
    split at hrecorded
    next => cases hrecorded
    next hkept => exact hkept (.inr hrecorded)
  · intro key e he
    exact home?_of_mem_invalidate hconsistent he
  · intro dir' hne
    exact get?_packages_invalidate.trans (if_neg hne)
  · intro f dir' hne hrecorded hdir'
    refine get?_invalidate_of_elsewhere hne ?_
    rw [ownerOf_of_get?_eq_some hrecorded]
    exact hdir'
  · intro f hne helsewhere l' time
    exact get_invalidate_of_elsewhere hne helsewhere

/-- A file of another directory goes along if its result is one of the package. -/
example :
    let l : Lifetimes := ⟨30, 300⟩
    let stored : Revision := ⟨some 7, .ofPackage { path := "/w", name := "a" }⟩
    let operations := [.put "/w/sub/f.go" stored, .get "/w/a.go"]
    let c := ((start 1000).run l operations).cache
    (c.get l 1000 "/w/sub/f.go").1.isSome = true ∧
      ((c.invalidate "/w/a.go").get l 1000 "/w/sub/f.go").1.isSome = false := by
  decide +kernel

end Main

end Clocked
end Cache
end Conformance
