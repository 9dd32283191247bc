import Conformance.Event

/-!
# Assembling a package

The files of a directory need not agree on the package they name, as tests may live in a package of
their own.  One name is chosen, and only the files of that name make up the package.

**Choice.**  The name of the target file comes first, if it is among the files and names a package;
then the first name without the suffix `_test`; then the first name.

**Results.**
* `chooseName_eq_none_iff`: there is no package exactly if no file names one;
* `assemble_path`, `assemble_name`: the package is that of the directory and of the chosen name.
-/

namespace Conformance
namespace Assembly

section Defs

/-- The packages that the files name, in order. -/
def names (files : List FileFacts) : List String :=
  files.filterMap (·.package)

/-- Whether a package name is that of external tests. -/
def isTestName (name : String) : Bool :=
  name.endsWith "_test"

/-- The package that the target file names, if it is among the files and names one. -/
def targetName? (files : List FileFacts) (target : Option String) : Option String :=
  (files.filter fun f => some f.file == target).findSome? (·.package)

/-- The name of the package that the files make up. -/
def chooseName (files : List FileFacts) (target : Option String) : Option String :=
  (targetName? files target).or
    (((names files).find? fun name => !isTestName name).or (names files).head?)

/-- The files that name this package. -/
def filesOf (name : String) (files : List FileFacts) : List FileFacts :=
  files.filter fun f => f.package == some name

/-- The package that the files of a directory make up, if any of them names one. -/
def assemble (dir : String) (files : List FileFacts) (target : Option String) : Option Package :=
  (chooseName files target).map fun name =>
    { path := dir, name, findings := .concat ((filesOf name files).map (·.findings)) }

/-- What is told about the files that are left out and about the package. -/
def events (files : List FileFacts) : Option Package → List Event
  | none => []
  | some package =>
      (files.filterMap fun f =>
        f.package.bind fun name =>
          if name = package.name then none
          else some (.otherPackage f.file name package.name))
      ++ [.assembled package]

end Defs

section Lemmas

theorem chooseName_eq_none_iff {files : List FileFacts} {target : Option String} :
    chooseName files target = none ↔ ∀ f ∈ files, f.package = none := by
  constructor
  · intro h
    rw [chooseName, Option.or_eq_none_iff, Option.or_eq_none_iff, List.head?_eq_none_iff] at h
    exact List.filterMap_eq_nil_iff.1 h.2.2
  · intro h
    have hnames : names files = [] := List.filterMap_eq_nil_iff.2 h
    have htarget : targetName? files target = none := by
      rw [targetName?, List.findSome?_eq_none_iff]
      intro f hf
      exact h f (List.mem_filter.1 hf).1
    simp [chooseName, hnames, htarget]

theorem assemble_path {dir : String} {files : List FileFacts} {target : Option String} {p : Package}
    (h : assemble dir files target = some p) : p.path = dir := by
  obtain ⟨name, -, rfl⟩ := Option.map_eq_some_iff.1 h
  rfl

theorem assemble_name {dir : String} {files : List FileFacts} {target : Option String} {p : Package}
    (h : assemble dir files target = some p) : chooseName files target = some p.name := by
  obtain ⟨name, hname, rfl⟩ := Option.map_eq_some_iff.1 h
  exact hname

end Lemmas

end Assembly
end Conformance
