import Conformance.Event
import Conformance.FileTree
import Conformance.Options
import Conformance.Pattern.File

/-!
# Scanning a directory

Which files of a directory are source files of its package: those with one of the endings that
neither the patterns of the options nor the pattern file of the directory leave out.  The two sets
of patterns are independent; a negated pattern of one takes nothing back that the other left out.

**Results.**
* `mem_select`: the condition on a single name;
* `select_select`: the files are those that pass both sets of patterns one after the other;
* `patternsOf_value`, `scan_value`: what is read and what is given, apart from what is told.
-/

namespace Conformance
namespace Scan

section Defs

/-- The name of the pattern file of a directory. -/
def patternFile : String := ".gitignore"

/-- Whether a name has one of the endings. -/
def hasEnding (endings : List String) (name : String) : Bool :=
  endings.any fun ending => name.endsWith ending

/-- The names with one of the endings that neither of two conditions leaves out. -/
def select (endings : List String) (excluded ignored : String → Bool) (names : List String) :
    List String :=
  names.filter fun name => hasEnding endings name && !excluded name && !ignored name

variable [PatternLanguage]

/-- The patterns of the pattern file of a directory, if it has one that is to be respected. -/
def patternsOf (o : Options) (t : FileTree) (dir : String) :
    Logged (Except Fault (List Pattern)) :=
  let path := Path.join dir patternFile
  if !o.respectIgnore then pure (.ok [])
  else
    match t.find? path with
    | none => pure (.ok [])
    | some .directory => do
        Logged.tell (.patternsAreDirectory path)
        pure (.ok [])
    | some (.file bytes) => pure (Pattern.ofFile bytes)

/-- The source files of a directory in order; none, if it cannot be listed. -/
def scan (o : Options) (excluded : List Pattern) (t : FileTree) (dir : String) :
    Logged (Except Fault (List String)) := do
  match t.names? dir with
  | none => pure (.ok [])
  | some names =>
      match ← patternsOf o t dir with
      | .error fault => pure (.error fault)
      | .ok ignored =>
          let present := names.filter fun name => t.isFile (Path.join dir name)
          let selected :=
            select o.extensions (Pattern.excludes excluded) (Pattern.excludes ignored) present
          Logged.tell (.scanned selected.length dir)
          pure (.ok (selected.map (Path.join dir)))

end Defs

section Lemmas

variable {endings names : List String} {excluded ignored : String → Bool}

theorem mem_select {name : String} :
    name ∈ select endings excluded ignored names ↔
      name ∈ names ∧ hasEnding endings name = true ∧ excluded name = false
        ∧ ignored name = false := by
  simp [select, and_assoc]

/-- The files are those that pass both sets of patterns one after the other. -/
theorem select_select :
    select endings (fun _ => false) ignored (select endings excluded (fun _ => false) names)
      = select endings excluded ignored names := by
  simp only [select, List.filter_filter]
  congr 1
  funext name
  cases hasEnding endings name <;> cases excluded name <;> cases ignored name <;> rfl

variable [PatternLanguage]

theorem patternsOf_value {o : Options} {t : FileTree} {dir : String} :
    (patternsOf o t dir).value
      = if o.respectIgnore = true then
          ((t.read? (Path.join dir patternFile)).map Pattern.ofFile).getD (.ok [])
        else .ok [] := by
  rw [patternsOf, FileTree.read?]
  cases o.respectIgnore with
  | false => rfl
  | true =>
      cases t.find? (Path.join dir patternFile) with
      | none => rfl
      | some e =>
          cases e with
          | file bytes => rfl
          | directory => rfl

/-- A scan selects from the names that stand for files. -/
theorem scan_value {o : Options} {excluded : List Pattern} {t : FileTree} {dir : String} :
    (scan o excluded t dir).value
      = match t.names? dir with
        | none => .ok []
        | some names =>
            (patternsOf o t dir).value.map fun ignored =>
              (select o.extensions (Pattern.excludes excluded) (Pattern.excludes ignored)
                (names.filter fun name => t.isFile (Path.join dir name))).map (Path.join dir) := by
  rw [scan]
  cases t.names? dir with
  | none => rfl
  | some names =>
      rw [Logged.value_bind]
      cases (patternsOf o t dir).value with
      | error fault => rfl
      | ok ignored => rfl

end Lemmas

end Scan
end Conformance
