import Conformance.Assembly

/-!
# Which package the files make up

A file may name another package than the files beside it.  This module says which name is chosen,
file by file, and that the choice does not depend on files that are left out of the package.

**Rules.**  A `Rule` says by which files and with which names a package may be named.  The rules are
tried one after the other; of the names that a rule lets through, the first in the order of the
files counts (`Rule.Names`), and a rule that lets none through is silent (`Rule.IsSilent`).

**Thinning.**  `Thinned` takes files away that name no package, or another one than the chosen.  A
rule that was silent stays silent, as there are no new names; a rule that has chosen a name chooses
it again, as what was taken away before did not name a package by the rule.

**Results.**
* `chooseName_eq_some_iff`: the chosen name is that of the first rule that is not silent;
* `chooseName_thinned`, `filesOf_thinned`: neither the name nor the files that have it change when
  others are taken away;
* `assemble_chosen`: so the package is made of the files of the chosen name, in their order, and
  depends on these only.
-/

namespace Conformance
namespace Assembly

section Specification

/-- Whether a file may give the package this name. -/
abbrev Rule := FileFacts → String → Bool

/-- The target file may give the package its name. -/
def Rule.ofTarget (target : Option String) : Rule := fun f _ => some f.file == target

/-- Any file may give the package its name, if this does not end like that of external tests. -/
def Rule.ordinary : Rule := fun _ name => !decide ("_test".toList <:+ name.toList)

/-- Any file may give the package its name. -/
def Rule.any : Rule := fun _ _ => true

/-- By this rule, no file names a package. -/
def Rule.IsSilent (rule : Rule) (files : List FileFacts) : Prop :=
  ∀ f ∈ files, ∀ name, f.package = some name → rule f name = false

/-- By this rule, the first file that names a package gives it this name. -/
def Rule.Names (rule : Rule) (files : List FileFacts) (name : String) : Prop :=
  ∃ before f after, files = before ++ f :: after ∧ f.package = some name ∧ rule f name = true
    ∧ rule.IsSilent before

/-- This is the name that counts for a package of these files. -/
inductive IsChosen (files : List FileFacts) (target : Option String) (name : String) : Prop
  | target (h : (Rule.ofTarget target).Names files name)
  | ordinary (hsilent : (Rule.ofTarget target).IsSilent files) (h : Rule.ordinary.Names files name)
  | any (hsilent : (Rule.ofTarget target).IsSilent files) (htests : Rule.ordinary.IsSilent files)
      (h : Rule.any.Names files name)

/--
Some of the files are taken away, and those that name the chosen package stay: `Thinned chosen files
kept` says that `kept` is what may be left of `files`.
-/
inductive Thinned (chosen : Option String) : List FileFacts → List FileFacts → Prop
  | nil : Thinned chosen [] []
  | keep {f : FileFacts} {files kept : List FileFacts} (h : Thinned chosen files kept) :
      Thinned chosen (f :: files) (f :: kept)
  | drop {f : FileFacts} {files kept : List FileFacts} (hf : f.package = none ∨ f.package ≠ chosen)
      (h : Thinned chosen files kept) : Thinned chosen (f :: files) kept

end Specification

section Rules

variable {rule : Rule} {f : FileFacts} {files : List FileFacts} {target : Option String}
  {name : String}

theorem isTestName_eq (name : String) :
    isTestName name = decide ("_test".toList <:+ name.toList) := by
  rw [Bool.eq_iff_iff, decide_eq_true_iff, isTestName, ← String.endsWith_toSlice,
    String.Slice.endsWith_string_iff, String.copy_toSlice]

/-- The name that a file gives to the package by a rule. -/
def Rule.name? (rule : Rule) (f : FileFacts) : Option String := f.package.filter (rule f)

theorem Rule.name?_eq_some_iff :
    rule.name? f = some name ↔ f.package = some name ∧ rule f name = true :=
  Option.filter_eq_some_iff

theorem Rule.name?_eq_none_iff :
    rule.name? f = none ↔ ∀ name, f.package = some name → rule f name = false := by
  simp [Rule.name?, Option.filter_eq_none_iff]

theorem Rule.findSome?_eq_none_iff : files.findSome? rule.name? = none ↔ rule.IsSilent files := by
  rw [List.findSome?_eq_none_iff]
  exact forall₂_congr fun f _ => Rule.name?_eq_none_iff

theorem Rule.findSome?_eq_some_iff :
    files.findSome? rule.name? = some name ↔ rule.Names files name := by
  rw [List.findSome?_eq_some_iff]
  constructor
  · rintro ⟨before, f, after, hfiles, hname, hbefore⟩
    obtain ⟨hpackage, hrule⟩ := Rule.name?_eq_some_iff.1 hname
    exact ⟨before, f, after, hfiles, hpackage, hrule,
      fun g hg => Rule.name?_eq_none_iff.1 (hbefore g hg)⟩
  · rintro ⟨before, f, after, hfiles, hpackage, hrule, hbefore⟩
    exact ⟨before, f, after, hfiles, Rule.name?_eq_some_iff.2 ⟨hpackage, hrule⟩,
      fun g hg => Rule.name?_eq_none_iff.2 (hbefore g hg)⟩

/-- A file gives its own name by a rule that lets every name of it through. -/
theorem Rule.name?_eq_package (h : ∀ name, rule f name = true) : rule.name? f = f.package := by
  ext name
  rw [Rule.name?_eq_some_iff, and_iff_left (h name)]

theorem targetName?_eq (files : List FileFacts) (target : Option String) :
    targetName? files target = files.findSome? (Rule.ofTarget target).name? := by
  rw [targetName?, ← List.head?_filterMap, List.filterMap_filter, List.head?_filterMap]
  congr 1
  funext f
  split
  next hf => exact (Rule.name?_eq_package fun _ => hf).symm
  next hf => exact (Rule.name?_eq_none_iff.2 fun _ _ => Bool.eq_false_iff.2 hf).symm

theorem find?_names_eq (files : List FileFacts) :
    ((names files).find? fun name => !isTestName name) = files.findSome? Rule.ordinary.name? := by
  simp only [isTestName_eq]
  rw [← List.head?_filter, names, List.filter_filterMap, List.head?_filterMap]
  rfl

theorem head?_names_eq (files : List FileFacts) :
    (names files).head? = files.findSome? Rule.any.name? := by
  rw [names, List.head?_filterMap]
  exact congrArg files.findSome? (funext fun f => (Rule.name?_eq_package fun _ => rfl).symm)

/-- The rules are tried one after the other. -/
theorem chooseName_eq (files : List FileFacts) (target : Option String) :
    chooseName files target
      = (files.findSome? (Rule.ofTarget target).name?).or
          ((files.findSome? Rule.ordinary.name?).or (files.findSome? Rule.any.name?)) := by
  rw [chooseName, targetName?_eq, find?_names_eq, head?_names_eq]

/-- The chosen name is that of the first rule that is not silent. -/
theorem chooseName_eq_some_iff :
    chooseName files target = some name ↔ IsChosen files target name := by
  rw [chooseName_eq, Option.or_eq_some_iff, Option.or_eq_some_iff]
  simp only [Rule.findSome?_eq_some_iff, Rule.findSome?_eq_none_iff]
  constructor
  · rintro (h | ⟨hsilent, h | ⟨htests, h⟩⟩)
    · exact .target h
    · exact .ordinary hsilent h
    · exact .any hsilent htests h
  · intro h
    cases h with
    | target h => exact .inl h
    | ordinary hsilent h => exact .inr ⟨hsilent, .inl h⟩
    | any hsilent htests h => exact .inr ⟨hsilent, .inr ⟨htests, h⟩⟩

end Rules

section Thinning

variable {rule : Rule} {files kept : List FileFacts} {target chosen : Option String} {name : String}

theorem Thinned.subset (h : Thinned chosen files kept) : kept ⊆ files := by
  induction h with
  | nil => exact List.Subset.refl []
  | keep _ ih => exact List.cons_subset_cons _ ih
  | drop _ _ ih => exact List.subset_cons_of_subset _ ih

theorem Rule.IsSilent.thinned (h : rule.IsSilent files) (hkept : Thinned chosen files kept) :
    rule.IsSilent kept :=
  fun f hf => h f (hkept.subset hf)

/-- By each rule, the first file that names the chosen package stays the first one. -/
theorem findSome?_thinned (hkept : Thinned (some name) files kept)
    (h : files.findSome? rule.name? = some name) : kept.findSome? rule.name? = some name := by
  induction hkept with
  | nil => exact h
  | @keep f files kept hkept ih =>
      rw [List.findSome?_cons] at h ⊢
      cases hf : rule.name? f with
      | some other =>
          rw [hf] at h
          exact h
      | none =>
          rw [hf] at h
          exact ih h
  | @drop f files kept hdropped hkept ih =>
      rw [List.findSome?_cons] at h
      cases hf : rule.name? f with
      | some other =>
          rw [hf] at h
          have hpackage : f.package = some name := h ▸ (Rule.name?_eq_some_iff.1 hf).1
          rcases hdropped with hdropped | hdropped
          · rw [hdropped] at hpackage
            cases hpackage
          · exact absurd hpackage hdropped
      | none =>
          rw [hf] at h
          exact ih h

theorem Rule.Names.thinned (h : rule.Names files name) (hkept : Thinned (some name) files kept) :
    rule.Names kept name :=
  Rule.findSome?_eq_some_iff.1 (findSome?_thinned hkept (Rule.findSome?_eq_some_iff.2 h))

theorem IsChosen.thinned (h : IsChosen files target name) (hkept : Thinned (some name) files kept) :
    IsChosen kept target name := by
  cases h with
  | target h => exact .target (h.thinned hkept)
  | ordinary hsilent h => exact .ordinary (hsilent.thinned hkept) (h.thinned hkept)
  | any hsilent htests h =>
      exact .any (hsilent.thinned hkept) (htests.thinned hkept) (h.thinned hkept)

/-- The same name is chosen when files are taken away that do not have it. -/
theorem chooseName_thinned (hkept : Thinned (chooseName files target) files kept) :
    chooseName kept target = chooseName files target := by
  cases h : chooseName files target with
  | none =>
      rw [chooseName_eq_none_iff] at h ⊢
      exact fun f hf => h f (hkept.subset hf)
  | some name =>
      rw [h] at hkept
      exact chooseName_eq_some_iff.2 ((chooseName_eq_some_iff.1 h).thinned hkept)

/-- The files of the chosen name stay, in their order. -/
theorem filesOf_thinned (hkept : Thinned (some name) files kept) :
    filesOf name kept = filesOf name files := by
  induction hkept with
  | nil => rfl
  | @keep f files kept hkept ih =>
      rw [filesOf, filesOf, List.filter_cons, List.filter_cons]
      exact ite_congr rfl (fun _ => congrArg (f :: ·) ih) fun _ => ih
  | @drop f files kept hdropped hkept ih =>
      have hf : (f.package == some name) = false := by
        rw [beq_eq_false_iff_ne]
        rcases hdropped with hdropped | hdropped
        · rw [hdropped]
          exact nofun
        · exact hdropped
      rw [ih, filesOf, filesOf, List.filter_cons, hf]
      rfl

end Thinning

section Packages

variable {dir name path : String} {files : List FileFacts} {target : Option String} {p : Package}

/-- Only if no file names a package, there is none. -/
theorem assemble_eq_none_iff :
    assemble dir files target = none ↔ ∀ f ∈ files, f.package = none := by
  rw [assemble, Option.map_eq_none_iff, chooseName_eq_none_iff]

/-- The target gives the name if all files under its path name this package. -/
theorem targetName?_eq_some {f : FileFacts} (hf : f ∈ files) (hpath : f.file = path)
    (h : ∀ g ∈ files, g.file = path → g.package = some name) :
    targetName? files (some path) = some name := by
  have hmem : f ∈ files.filter fun g => some g.file == some path := by
    rw [List.mem_filter, hpath]
    exact ⟨hf, beq_self_eq_true _⟩
  rw [targetName?]
  cases hfound : (files.filter fun g => some g.file == some path).findSome? (·.package) with
  | none =>
      have hnone := List.findSome?_eq_none_iff.1 hfound f hmem
      rw [h f hf hpath] at hnone
      cases hnone
  | some found =>
      obtain ⟨g, hg, hclause⟩ := List.exists_of_findSome?_eq_some hfound
      obtain ⟨hg, heq⟩ := List.mem_filter.1 hg
      rw [h g hg (Option.some.inj (beq_iff_eq.1 heq))] at hclause
      exact hclause.symm

/-- The facts of a file that names the package are in it, in one piece. -/
theorem findings_of_mem (h : assemble dir files target = some p) {f : FileFacts} (hf : f ∈ files)
    (hname : f.package = some p.name) :
    ∃ before after, p.findings = before ++ f.findings ++ after := by
  obtain ⟨name, -, rfl⟩ := Option.map_eq_some_iff.1 h
  have hmem : f ∈ filesOf name files := List.mem_filter.2 ⟨hf, beq_iff_eq.2 hname⟩
  obtain ⟨before, after, heq⟩ := List.append_of_mem hmem
  refine ⟨.concat (before.map (·.findings)), .concat (after.map (·.findings)), ?_⟩
  show Findings.concat ((filesOf name files).map (·.findings)) = _
  rw [heq, List.map_append, List.map_cons, Findings.concat_append, Findings.concat_cons,
    Findings.append_assoc]

end Packages

section Main

/--
**The chosen package.**  There is a package unless all files are empty.  Its name is that of the
first file that has the path of the target and is not empty; if there is none, the first name that
is not one of external tests; if there is none, the first name.  Its facts of each sort are those of
the files that have this name, in the order of the files.  Hence files that are empty or have
another name than the chosen one may be taken away.
-/
theorem assemble_chosen (dir : String) (files : List FileFacts) (target : Option String) :
    (assemble dir files target = none ↔ ∀ f ∈ files, f.isEmpty = true)
    ∧
    (∀ name, IsChosen files target name ↔ ∃ p, assemble dir files target = some p ∧ p.name = name)
    ∧
    (∀ p, assemble dir files target = some p →
      p.path = dir
      ∧ p.findings.interfaces = (filesOf p.name files).flatMap (·.findings.interfaces)
      ∧ p.findings.structs = (filesOf p.name files).flatMap (·.findings.structs)
      ∧ p.findings.methods = (filesOf p.name files).flatMap (·.findings.methods)
      ∧ p.findings.directives = (filesOf p.name files).flatMap (·.findings.directives))
    ∧
    ∀ kept, Thinned (chooseName files target) files kept →
      assemble dir kept target = assemble dir files target := by
  refine ⟨?_, ?_, ?_, ?_⟩
  · rw [assemble_eq_none_iff]
    exact forall₂_congr fun f _ => Option.isNone_iff_eq_none.symm
  · intro name
    rw [← chooseName_eq_some_iff]
    constructor
    · intro h
      rw [assemble, h]
      exact ⟨_, rfl, rfl⟩
    · rintro ⟨p, hp, rfl⟩
      exact assemble_name hp
  · intro p hp
    obtain ⟨name, -, rfl⟩ := Option.map_eq_some_iff.1 hp
    simp only [Findings.concat_eq, List.flatMap_map, and_self]
  · intro kept hkept
    rw [assemble, assemble, chooseName_thinned hkept]
    cases h : chooseName files target with
    | none => rfl
    | some name =>
        rw [h] at hkept
        rw [Option.map_some, Option.map_some, filesOf_thinned hkept]

/-- A struct that is declared in this file. -/
def declaredIn (file name : String) : Findings where
  structs := [{ name, location := ⟨3, file⟩ }]

/-- External tests come first, and the target names no package. -/
def testsFirst : List FileFacts := [
  ⟨"/w/a_test.go", some "store_test", declaredIn "/w/a_test.go" "Fake"⟩,
  ⟨"/w/b.go", none, declaredIn "/w/b.go" "Lost"⟩,
  ⟨"/w/c.go", some "store", declaredIn "/w/c.go" "Store"⟩,
  ⟨"/w/d.go", some "store", declaredIn "/w/d.go" "Cache"⟩]

/-- The tests and the target may be taken away. -/
theorem assemble_chosen_testsFirst :
    ∃ p, assemble "/w" testsFirst (some "/w/b.go") = some p
      ∧ p.name = "store"
      ∧ p.findings.structs = [⟨"Store", ⟨3, "/w/c.go"⟩, []⟩, ⟨"Cache", ⟨3, "/w/d.go"⟩, []⟩]
      ∧ assemble "/w" (testsFirst.drop 2) (some "/w/b.go") = some p := by
  obtain ⟨-, hname, hfindings, hthinned⟩ := assemble_chosen "/w" testsFirst (some "/w/b.go")
  have hchosen : IsChosen testsFirst (some "/w/b.go") "store" :=
    chooseName_eq_some_iff.1 (by decide +kernel)
  obtain ⟨p, hp, hpname⟩ := (hname "store").1 hchosen
  refine ⟨p, hp, hpname, ?_, ?_⟩
  · rw [(hfindings p hp).2.2.1, hpname]
    decide +kernel
  · rw [← hp]
    refine hthinned _ ?_
    rw [chooseName_eq_some_iff.2 hchosen]
    exact .drop (.inr (by decide)) (.drop (.inl rfl) (.keep (.keep .nil)))

end Main

end Assembly
end Conformance
