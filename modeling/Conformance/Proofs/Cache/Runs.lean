import Conformance.Proofs.Cache.Entries
import Conformance.Proofs.Number.Clock
import Mathlib.Data.List.Induction

/-!
# Runs of a cache

What may be done with a cache, one operation after the other, and how its two tiers hold together
meanwhile.

**Runs.**  A `Clocked` cache is a cache and the reading of its clock.  `Clocked.run` lets a list of
operations happen; the clock may come to show any later reading, but never goes back.

**Invariant.**  `Consistent now c`: every result of the package tier lies under its own package; the
file tier and the recorded packages speak of the same files; a result that is kept for a file is
one of the package recorded for the file, and this package has a result stored no earlier.

**Results.**
* `consistent_put`, `consistent_get`, `consistent_invalidate`: every operation keeps the invariant;
* `home?_of_get`: whatever is given out for a file is a result of the package of the file;
* `consistent_run`, `tiers_agree`: the invariant holds after every run, and what it says.
-/

namespace Conformance
namespace Cache

open Double

variable {ρ : Type}

/-- What may be done with a cache. -/
inductive Operation (ρ : Type)
  | put (file : String) (value : ρ)
  | get (file : String)
  | invalidate (file : String)
  | clear
  /-- The clock comes to show a later time; it never goes back. -/
  | wait (time : Double)

/-- A cache and what its clock shows. -/
structure Clocked (ρ : Type) where
  now : Double
  cache : Cache ρ

namespace Clocked

variable [HasHome ρ]

/-- An empty cache. -/
def start (now : Double) : Clocked ρ := ⟨now, .empty⟩

/-- The cache after an operation. -/
def after (l : Lifetimes) (s : Clocked ρ) : Operation ρ → Clocked ρ
  | .put file value => { s with cache := s.cache.put s.now file value }
  | .get file => { s with cache := (s.cache.get l s.now file).2 }
  | .invalidate file => { s with cache := s.cache.invalidate file }
  | .clear => { s with cache := s.cache.clear }
  | .wait time => if s.now.le time then { s with now := time } else s

/-- The cache after several operations. -/
def run (l : Lifetimes) (operations : List (Operation ρ)) (s : Clocked ρ) : Clocked ρ :=
  operations.foldl (after l) s

theorem run_concat (l : Lifetimes) (operations : List (Operation ρ)) (op : Operation ρ)
    (s : Clocked ρ) : s.run l (operations ++ [op]) = (s.run l operations).after l op := by
  simp [run]

end Clocked

section Effects

variable {l : Lifetimes} {now : Double} {file f dir : String} {c : Cache ρ}

/-- Whether an invalidation of a file reaches another file. -/
theorem isAffected_iff :
    (f == file || c.owners.get? f == some (c.ownerOf file)) = true ↔
      f = file ∨ c.owners.get? f = some (c.ownerOf file) := by
  rw [Bool.or_eq_true, beq_iff_eq, beq_iff_eq]

theorem get?_files_invalidate :
    (c.invalidate file).files.get? f
      = if f = file ∨ c.owners.get? f = some (c.ownerOf file) then none else c.files.get? f := by
  simp only [invalidate, OrderedMap.get?_filterKeys, Bool.not_eq_true', Bool.eq_false_iff,
    ne_eq, isAffected_iff, ite_not]

theorem get?_owners_invalidate :
    (c.invalidate file).owners.get? f
      = if f = file ∨ c.owners.get? f = some (c.ownerOf file) then none else c.owners.get? f := by
  simp only [invalidate, OrderedMap.get?_filterKeys, Bool.not_eq_true', Bool.eq_false_iff,
    ne_eq, isAffected_iff, ite_not]

theorem get?_packages_invalidate :
    (c.invalidate file).packages.get? dir
      = if dir = c.ownerOf file then none else c.packages.get? dir :=
  OrderedMap.get?_erase c.packages (c.ownerOf file) dir

theorem ownerOf_of_get?_eq_some (h : c.owners.get? f = some dir) : c.ownerOf f = dir := by
  simp [ownerOf, OrderedMap.getD, h]

theorem ownerOf_of_get?_eq_none (h : c.owners.get? f = none) : c.ownerOf f = Path.parent f := by
  simp [ownerOf, OrderedMap.getD, h]

/-- An invalidation sends the files of the package back to their own directories. -/
theorem ownerOf_invalidate :
    (c.invalidate file).ownerOf f
      = if f = file ∨ c.ownerOf f = c.ownerOf file then Path.parent f else c.ownerOf f := by
  have hafter : (c.invalidate file).ownerOf f
      = (if f = file ∨ c.owners.get? f = some (c.ownerOf file) then none
          else c.owners.get? f).getD (Path.parent f) := by
    rw [← get?_owners_invalidate, ownerOf, OrderedMap.getD]
  rw [hafter]
  cases hf : c.owners.get? f with
  | some p =>
      simp only [ownerOf_of_get?_eq_some hf, Option.some_inj]
      split <;> rfl
  | none =>
      -- A file without a record belongs to its own directory before and after.
      simp [ownerOf_of_get?_eq_none hf]

/-- The entry that a lookup gives out. -/
theorem entry_of_get {r : ρ} (h : (c.get l now file).1 = some r) :
    ∃ e, e.value = r ∧
      ((c.files.get? file = some e ∧ isFresh l.file now e = true)
      ∨
      (c.packages.get? (c.ownerOf file) = some e ∧ isFresh l.package now e = true)) := by
  rcases get_cases l now file c with ⟨e, he, hget⟩ | ⟨e, he, hget⟩ | hget
  · rw [hget] at h
    exact ⟨e, Option.some.inj h, .inl (fresh?_eq_some_iff.1 he)⟩
  · rw [hget] at h
    exact ⟨e, Option.some.inj h, .inr (fresh?_eq_some_iff.1 he)⟩
  · rw [hget] at h
    cases h

end Effects

section Consistency

variable [HasHome ρ] {l : Lifetimes} {now time : Double} {file : String} {value : ρ} {c : Cache ρ}

/-- The two tiers and the recorded packages hold together. -/
structure Consistent (now : Double) (c : Cache ρ) : Prop where
  packages : ∀ dir e, c.packages.get? dir = some e →
    HasHome.home? e.value = some dir ∧ NotAfter e.time now
  files : ∀ file e, c.files.get? file = some e →
    ∃ dir e', c.owners.get? file = some dir ∧ HasHome.home? e.value = some dir ∧
      c.packages.get? dir = some e' ∧ NotAfter e.time e'.time
  owners : ∀ file dir, c.owners.get? file = some dir → ∃ e, c.files.get? file = some e

theorem consistent_empty (now : Double) : Consistent now (empty : Cache ρ) := by
  refine ⟨?_, ?_, ?_⟩
  · rintro dir e ⟨⟩
  · rintro file e ⟨⟩
  · rintro file dir ⟨⟩

/-- No entry of the file tier is from the future. -/
theorem Consistent.notAfter_of_file (h : Consistent now c) {e : Stored ρ}
    (he : c.files.get? file = some e) : NotAfter e.time now := by
  obtain ⟨dir, e', -, -, he', htime⟩ := h.files file e he
  exact notAfter_trans htime (h.packages dir e' he').2

theorem Consistent.mono (h : Consistent now c) (hlater : NotAfter now time) :
    Consistent time c := by
  refine ⟨?_, h.files, h.owners⟩
  intro dir e he
  obtain ⟨hhome, htime⟩ := h.packages dir e he
  exact ⟨hhome, notAfter_trans htime hlater⟩

theorem consistent_put (h : Consistent now c) (file : String) (value : ρ) :
    Consistent now (c.put now file value) := by
  cases hhome : HasHome.home? value with
  | none =>
      rw [put_of_empty hhome]
      exact h
  | some owner =>
      rw [put_of_home hhome]
      refine ⟨?_, ?_, ?_⟩
      · intro dir e he
        exact of_get?_insert he ⟨hhome, notAfter_refl now⟩ h.packages
      · intro f e he
        simp only [OrderedMap.get?_insert] at he ⊢
        by_cases hfile : file = f
        · rw [if_pos hfile] at he ⊢
          cases he
          exact ⟨owner, ⟨now, value⟩, rfl, hhome, if_pos rfl, notAfter_refl now⟩
        · rw [if_neg hfile] at he ⊢
          obtain ⟨dir, e', hdir, hhome', he', htime⟩ := h.files f e he
          by_cases howner : owner = dir
          · -- The package of the other file has just got a newer result.
            exact ⟨dir, ⟨now, value⟩, hdir, hhome', if_pos howner, h.notAfter_of_file he⟩
          · refine ⟨dir, e', hdir, hhome', ?_, htime⟩
            rw [if_neg howner]
            exact he'
      · intro f dir hdir
        simp only [OrderedMap.get?_insert] at hdir ⊢
        by_cases hfile : file = f
        · exact ⟨⟨now, value⟩, if_pos hfile⟩
        · rw [if_neg hfile] at hdir ⊢
          exact h.owners f dir hdir

/-- A copy from the package tier to the file tier keeps the invariant. -/
theorem consistent_copy (h : Consistent now c) {e : Stored ρ}
    (he : c.packages.get? (c.ownerOf file) = some e) :
    Consistent now { c with
      files := c.files.insert file e, owners := c.owners.insert file (c.ownerOf file) } := by
  refine ⟨h.packages, ?_, ?_⟩
  · intro f e' he'
    simp only [OrderedMap.get?_insert] at he' ⊢
    by_cases hfile : file = f
    · rw [if_pos hfile] at he' ⊢
      cases he'
      exact ⟨c.ownerOf file, e, rfl, (h.packages _ e he).1, he, notAfter_refl e.time⟩
    · rw [if_neg hfile] at he' ⊢
      exact h.files f e' he'
  · intro f dir hdir
    simp only [OrderedMap.get?_insert] at hdir ⊢
    by_cases hfile : file = f
    · exact ⟨e, if_pos hfile⟩
    · rw [if_neg hfile] at hdir ⊢
      exact h.owners f dir hdir

theorem consistent_get (h : Consistent now c) (l : Lifetimes) (time : Double) (file : String) :
    Consistent now (c.get l time file).2 := by
  rcases get_cases l time file c with ⟨e, -, hget⟩ | ⟨e, he, hget⟩ | hget
  · rw [hget]
    exact h
  · rw [hget]
    exact consistent_copy h (fresh?_eq_some_iff.1 he).1
  · rw [hget]
    exact h

theorem consistent_invalidate (h : Consistent now c) (file : String) :
    Consistent now (c.invalidate file) := by
  refine ⟨?_, ?_, ?_⟩
  · intro dir e he
    exact h.packages dir e (of_get?_filterKeys he)
  · intro f e he
    rw [get?_files_invalidate] at he
    rw [get?_owners_invalidate]
    split at he
    next => cases he
    next hkept =>
      rw [if_neg hkept]
      obtain ⟨dir, e', hdir, hhome, he', htime⟩ := h.files f e he
      -- The file is recorded under another package, which is therefore still there.
      have hne : dir ≠ c.ownerOf file := by
        rintro rfl
        exact hkept (.inr hdir)
      refine ⟨dir, e', hdir, hhome, ?_, htime⟩
      rw [get?_packages_invalidate, if_neg hne]
      exact he'
  · intro f dir hdir
    rw [get?_owners_invalidate] at hdir
    rw [get?_files_invalidate]
    split at hdir
    next => cases hdir
    next hkept =>
      rw [if_neg hkept]
      exact h.owners f dir hdir

/-- Whatever is given out for a file is a result of the package of the file. -/
theorem home?_of_get (hc : Consistent time c) {r : ρ} (h : (c.get l now file).1 = some r) :
    HasHome.home? r = some (c.ownerOf file) := by
  obtain ⟨e, rfl, ⟨he, -⟩ | ⟨he, -⟩⟩ := entry_of_get h
  · obtain ⟨dir, -, hdir, hhome, -, -⟩ := hc.files file e he
    rw [ownerOf_of_get?_eq_some hdir]
    exact hhome
  · exact (hc.packages _ e he).1

end Consistency

namespace Clocked

variable [HasHome ρ] {l : Lifetimes} {s : Clocked ρ}

theorem consistent_after (h : Consistent s.now s.cache) (op : Operation ρ) :
    Consistent (s.after l op).now (s.after l op).cache := by
  cases op with
  | put file value => exact consistent_put h file value
  | get file => exact consistent_get h l s.now file
  | invalidate file => exact consistent_invalidate h file
  | clear => exact consistent_empty s.now
  | wait time =>
      rw [after]
      by_cases hlater : s.now.le time = true
      · rw [if_pos hlater]
        exact h.mono (.inr hlater)
      · rw [if_neg hlater]
        exact h

theorem consistent_run (l : Lifetimes) (now : Double) (operations : List (Operation ρ)) :
    let s := (start now).run l operations
    Consistent s.now s.cache := by
  induction operations using List.reverseRecOn with
  | nil => exact consistent_empty now
  | append_singleton operations op ih =>
      rw [run_concat]
      exact consistent_after ih op

/--
**Agreement of the tiers.**  After every run from an empty cache, whatever the lifetimes: no stored
result is empty; the package tier holds every result under its own package; the file tier and the
recorded packages speak of the same files; and the result kept for a file is one of the package
recorded for the file, which has a result in the package tier that was stored no earlier than the
one of the file, and not in the future.
-/
theorem tiers_agree (l : Lifetimes) (now : Double) (operations : List (Operation ρ)) :
    let s := (start now).run l operations
    (∀ key e, s.cache.files.get? key = some e ∨ s.cache.packages.get? key = some e →
      HasHome.home? e.value ≠ none)
    ∧
    (∀ dir e, s.cache.packages.get? dir = some e → HasHome.home? e.value = some dir)
    ∧
    (∀ file, file ∈ s.cache.files.keys ↔ file ∈ s.cache.owners.keys)
    ∧
    (∀ file e, s.cache.files.get? file = some e →
      ∃ dir e', s.cache.owners.get? file = some dir ∧ HasHome.home? e.value = some dir ∧
        s.cache.packages.get? dir = some e' ∧ NotAfter e.time e'.time ∧ NotAfter e'.time s.now) := by
  intro s
  have h : Consistent s.now s.cache := consistent_run l now operations
  refine ⟨?_, ?_, ?_, ?_⟩
  · rintro key e (he | he) hnone
    · obtain ⟨dir, -, -, hhome, -, -⟩ := h.files key e he
      rw [hnone] at hhome
      cases hhome
    · rw [(h.packages key e he).1] at hnone
      cases hnone
  · intro dir e he
    exact (h.packages dir e he).1
  · intro file
    rw [OrderedMap.mem_keys_iff, OrderedMap.mem_keys_iff]
    constructor
    · rintro ⟨e, he⟩
      obtain ⟨dir, -, hdir, -, -, -⟩ := h.files file e he
      exact ⟨dir, hdir⟩
    · rintro ⟨dir, hdir⟩
      exact h.owners file dir hdir
  · intro file e he
    obtain ⟨dir, e', hdir, hhome, he', htime⟩ := h.files file e he
    exact ⟨dir, e', hdir, hhome, he', htime, (h.packages dir e' he').2⟩

end Clocked
end Cache
end Conformance
