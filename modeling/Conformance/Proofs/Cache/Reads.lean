import Conformance.Proofs.Cache.Runs
import Conformance.Proofs.Number.Rounding
import Conformance.Service

/-!
# Lookups change no lifetimes

A lookup writes to the cache: it copies an entry from the package tier to the file tier, and it
records the package of the file.  This module says that nobody can tell.

**Input.**  A run to which lookups have been added anywhere: each `Step` is an operation of the run
itself, or a lookup besides it.  `ownOperations` is the run without the added lookups, and
`ownOutcomes` says which of the run's own lookups find a result while the others happen too.

**What decides.**  When the file tier does not live longer than the package tier, a lookup finds a
result exactly if the package that the file belongs to has a fresh one (`finds_eq`).  Then only the
package tier and the packages of the files matter.

**What stays.**  Lookups leave the package tier as it is, and every file with the package that it
belongs to, recorded or not.  Two caches that are `Alike` in this way stay alike under every
operation.

**Results.**
* `ownOutcomes_eq_outcomes`: the run's own lookups end as they do without the added ones.
-/

namespace Conformance
namespace Cache

open Double

variable {ρ : Type}

/-- An operation of a run, or a lookup added to it. -/
inductive Step (ρ : Type)
  | own (op : Operation ρ)
  | added (file : String)

/-- The run without the added lookups. -/
def ownOperations : List (Step ρ) → List (Operation ρ)
  | [] => []
  | .own op :: steps => op :: ownOperations steps
  | .added _ :: steps => ownOperations steps

namespace Clocked

variable [HasHome ρ]

/-- Whether a lookup of a file finds a result. -/
def finds (l : Lifetimes) (s : Clocked ρ) (file : String) : Bool :=
  (s.cache.get l s.now file).1.isSome

/-- How an operation ends, if it is a lookup. -/
def outcome (l : Lifetimes) (s : Clocked ρ) : Operation ρ → List Bool
  | .get file => [s.finds l file]
  | _ => []

/-- How the lookups of a run end, in order. -/
def outcomes (l : Lifetimes) : List (Operation ρ) → Clocked ρ → List Bool
  | [], _ => []
  | op :: ops, s => s.outcome l op ++ outcomes l ops (s.after l op)

/-- How the run's own lookups end, in order, while the added ones happen too. -/
def ownOutcomes (l : Lifetimes) : List (Step ρ) → Clocked ρ → List Bool
  | [], _ => []
  | .own op :: steps, s => s.outcome l op ++ ownOutcomes l steps (s.after l op)
  | .added file :: steps, s => ownOutcomes l steps (s.after l (.get file))

end Clocked

section Owners

variable {l : Lifetimes} {now : Double} {file g dir : String} {value : ρ} {c : Cache ρ}

theorem ownerOf_insert_owner {files packages : OrderedMap String (Stored ρ)} :
    (⟨files, packages, c.owners.insert file dir⟩ : Cache ρ).ownerOf g
      = if file = g then dir else c.ownerOf g := by
  by_cases h : file = g <;> simp [ownerOf, OrderedMap.getD, h]

theorem packages_get : (c.get l now file).2.packages = c.packages := by
  rcases get_cases l now file c with ⟨e, -, hget⟩ | ⟨e, -, hget⟩ | hget <;> rw [hget]

/-- What a lookup records about a file is what held of it before. -/
theorem ownerOf_get : (c.get l now file).2.ownerOf g = c.ownerOf g := by
  rcases get_cases l now file c with ⟨e, -, hget⟩ | ⟨e, -, hget⟩ | hget
  · rw [hget]
  · rw [hget, ownerOf_insert_owner]
    split
    next h => rw [h]
    next => rfl
  · rw [hget]

end Owners

section Alike

variable {l : Lifetimes} {now : Double} {file : String} {value : ρ} {c c' : Cache ρ}

/-- The same package tier, and the same package for every file, whether recorded or not. -/
structure Alike (c c' : Cache ρ) : Prop where
  packages : c.packages = c'.packages
  owners : ∀ file, c.ownerOf file = c'.ownerOf file

theorem Alike.refl (c : Cache ρ) : Alike c c :=
  ⟨rfl, fun _ => rfl⟩

theorem Alike.symm (h : Alike c c') : Alike c' c :=
  ⟨h.packages.symm, fun file => (h.owners file).symm⟩

/-- A lookup on one side goes unnoticed. -/
theorem Alike.get_left (h : Alike c c') : Alike (c.get l now file).2 c' := by
  refine ⟨?_, ?_⟩
  · rw [packages_get, h.packages]
  · intro g
    rw [ownerOf_get, h.owners]

theorem Alike.put [HasHome ρ] (h : Alike c c') : Alike (c.put now file value) (c'.put now file value) := by
  cases hhome : HasHome.home? value with
  | none =>
      rw [put_of_empty hhome, put_of_empty hhome]
      exact h
  | some dir =>
      rw [put_of_home hhome, put_of_home hhome]
      refine ⟨by simp [h.packages], ?_⟩
      intro g
      rw [ownerOf_insert_owner, ownerOf_insert_owner, h.owners]

theorem Alike.invalidate (h : Alike c c') : Alike (c.invalidate file) (c'.invalidate file) := by
  refine ⟨?_, ?_⟩
  · show c.packages.erase (c.ownerOf file) = c'.packages.erase (c'.ownerOf file)
    rw [h.packages, h.owners]
  · intro g
    rw [ownerOf_invalidate, ownerOf_invalidate, h.owners, h.owners]

end Alike

namespace Clocked

variable [HasHome ρ] {l : Lifetimes} {s t : Clocked ρ} {file : String}

section Deciding

/-- A result is found exactly if the package of the file has a fresh one. -/
theorem finds_eq (hl : l.file.le l.package = true) (h : Consistent s.now s.cache) :
    s.finds l file
      = (fresh? l.package s.now s.cache.packages (s.cache.ownerOf file)).isSome := by
  cases hfile : fresh? l.file s.now s.cache.files file with
  | none =>
      cases hpackage : fresh? l.package s.now s.cache.packages (s.cache.ownerOf file) with
      | none => rw [finds, get_of_none hfile hpackage]; rfl
      | some e => rw [finds, get_of_package hfile hpackage]; rfl
  | some e =>
      rw [finds, get_of_file hfile]
      obtain ⟨he, hfresh⟩ := fresh?_eq_some_iff.1 hfile
      obtain ⟨dir, e', hdir, -, he', htime⟩ := h.files file e he
      -- The entry of the package is no older than the one of the file.
      have hyoung : (s.now.sub e'.time).lt l.file = true := by
        by_contra hold
        rw [not_isFresh_of_elapsed htime (h.packages dir e' he').2
          (Bool.eq_false_iff.2 hold)] at hfresh
        cases hfresh
      have hpackage : fresh? l.package s.now s.cache.packages (s.cache.ownerOf file) = some e' := by
        rw [ownerOf_of_get?_eq_some hdir]
        exact fresh?_eq_some_iff.2 ⟨he', lt_of_lt_of_le hyoung hl⟩
      rw [hpackage]
      rfl

/-- Two clocked caches show the same time and are alike. -/
def InStep (s t : Clocked ρ) : Prop :=
  s.now = t.now ∧ Alike s.cache t.cache

theorem InStep.finds_eq (h : InStep s t) (hl : l.file.le l.package = true)
    (hs : Consistent s.now s.cache) (ht : Consistent t.now t.cache) :
    s.finds l file = t.finds l file := by
  rw [Clocked.finds_eq hl hs, Clocked.finds_eq hl ht, h.1, h.2.packages, h.2.owners]

theorem InStep.outcome_eq (h : InStep s t) (hl : l.file.le l.package = true)
    (hs : Consistent s.now s.cache) (ht : Consistent t.now t.cache) (op : Operation ρ) :
    s.outcome l op = t.outcome l op := by
  cases op with
  | get file => simp only [outcome, h.finds_eq hl hs ht]
  | put | invalidate | clear | wait => rfl

theorem InStep.after (h : InStep s t) (op : Operation ρ) :
    InStep (s.after l op) (t.after l op) := by
  obtain ⟨hnow, halike⟩ := h
  cases op with
  | put file value =>
      refine ⟨hnow, ?_⟩
      simp only [Clocked.after, hnow]
      exact halike.put
  | get file => exact ⟨hnow, halike.get_left.symm.get_left.symm⟩
  | invalidate file => exact ⟨hnow, halike.invalidate⟩
  | clear => exact ⟨hnow, .refl _⟩
  | wait time =>
      simp only [Clocked.after, hnow]
      split
      next => exact ⟨rfl, halike⟩
      next => exact ⟨hnow, halike⟩

end Deciding

section Main

theorem ownOutcomes_eq_of_inStep (hl : l.file.le l.package = true) (steps : List (Step ρ))
    (h : InStep s t) (hs : Consistent s.now s.cache) (ht : Consistent t.now t.cache) :
    ownOutcomes l steps s = outcomes l (ownOperations steps) t := by
  induction steps generalizing s t with
  | nil => rfl
  | cons step steps ih =>
      cases step with
      | own op =>
          simp only [ownOutcomes, ownOperations, outcomes, h.outcome_eq hl hs ht op]
          rw [ih (h.after op) (consistent_after hs op) (consistent_after ht op)]
      | added file =>
          -- Only the left side looks the file up.
          exact ih ⟨h.1, h.2.get_left⟩ (consistent_after hs (.get file)) ht

/--
**Lookups change no lifetimes.**  Let the file tier live no longer than the package tier, and add
lookups of any files anywhere to a run from an empty cache: each of the run's own lookups finds a
result exactly if it does so without the added ones.
-/
theorem ownOutcomes_eq_outcomes (l : Lifetimes) (hl : l.file.le l.package = true) (now : Double)
    (steps : List (Step ρ)) :
    ownOutcomes l steps (start now) = outcomes l (ownOperations steps) (start now) :=
  ownOutcomes_eq_of_inStep hl steps ⟨rfl, .refl _⟩ (consistent_empty now) (consistent_empty now)

/-- An added lookup of a sibling neither keeps a result alive nor ends its time early. -/
theorem ownOutcomes_with_sibling_read :
    let l : Lifetimes := ⟨30, 300⟩
    let stored : Revision := ⟨some 7, .ofPackage { path := "/w", name := "a" }⟩
    let steps := [.own (.put "/w/a.go" stored), .own (.wait 1250), .added "/w/b.go",
      .own (.get "/w/b.go"), .own (.wait 1350), .added "/w/a.go", .own (.get "/w/b.go")]
    l.file.le l.package = true ∧
      ownOutcomes l steps (start 1000) = outcomes l (ownOperations steps) (start 1000) ∧
      outcomes l (ownOperations steps) (start 1000) = [true, false] := by
  intro l stored steps
  have hl : l.file.le l.package = true := by decide +kernel
  exact ⟨hl, ownOutcomes_eq_outcomes l hl 1000 steps, by decide +kernel⟩

/-- Where the file tier lives longer, an added lookup keeps a result alive. -/
example :
    let l : Lifetimes := ⟨300, 30⟩
    let stored : Revision := ⟨some 7, .ofPackage { path := "/w", name := "a" }⟩
    let steps := [.own (.put "/w/a.go" stored), .added "/w/b.go", .own (.wait 1100),
      .own (.get "/w/b.go")]
    ownOutcomes l steps (start 1000) = [true] ∧
      outcomes l (ownOperations steps) (start 1000) = [false] := by
  decide +kernel

end Main

end Clocked
end Cache
end Conformance
