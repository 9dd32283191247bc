import Conformance.FileTree
import Conformance.Proofs.Files.Paths

/-!
# What a directory holds

A tree is searched in two ways: a path is followed, and a directory is listed.  This module says
that the two agree on what lies directly in a directory.

**Following.**  The way to a name in a directory is the way to the directory and one step more,
however the path of the directory is written.

**Listing.**  Whatever is found under a segment in a directory is listed there, whether or not the
tree holds the directories above the entries in it.

**Agreement.**  Two trees have the same entries in a directory if they list the same names there and
find the same under each of them.  What lies in the directories below need not be the same.

**Results.**
* `follow_join`: a name is one step more;
* `join_of_isFile`: a file lies in its parent, under its name;
* `mem_names_of_find?`: what is found is listed;
* `SameEntries.find?_eq`: trees with the same entries find the same under every segment.
-/

namespace Conformance
namespace FileTree

section Following

variable {t : FileTree} {dir name : String}

/-- The path that a path speaks of is canonical, if the working directory is absolute. -/
theorem canonical_of_absolute? {path file : String}
    (hrooted : ∀ here, t.workingDirectory = some here → Path.isAbsolute here = true)
    (h : t.absolute? path = some file) : Path.Canonical file := by
  rw [absolute?] at h
  split at h
  next habsolute =>
    cases h
    exact Path.canonical_normalize habsolute
  next =>
    obtain ⟨here, hhere, rfl⟩ := Option.map_eq_some_iff.1 h
    exact Path.canonical_absolute (hrooted here hhere) path

/-- An empty segment leads on only from a directory, and then nowhere else. -/
theorem eq_of_step_empty {place : Option String} {here : String}
    (h : t.step place "" = some here) : place = some here ∧ t.isDirectoryAt here = true := by
  obtain ⟨here', rfl, hstep⟩ := Option.bind_eq_some_iff.1 h
  cases hplace : t.isDirectoryAt here' with
  | false => simp [hplace] at hstep
  | true =>
      simp only [hplace, Bool.not_true, Bool.false_eq_true, if_false, true_or, if_true,
        Option.some.injEq] at hstep
      subst hstep
      exact ⟨rfl, hplace⟩

/-- So it makes no difference to a step that comes after it. -/
theorem step_step_empty (place : Option String) (segment : String) :
    t.step (t.step place "") segment = t.step place segment := by
  cases place with
  | none => rfl
  | some here =>
      cases hplace : t.isDirectoryAt here with
      | false => simp [step, hplace]
      | true => simp [step, hplace]

/-- Absolute paths start at the root. -/
theorem follow_of_absolute {path : String} (h : Path.isAbsolute path = true) :
    t.follow path = (Path.segments path).foldl t.step (some root) := by
  have hpath : path.isEmpty = false := by
    rw [← Bool.not_eq_true, String.isEmpty_iff]
    rintro rfl
    revert h
    decide +kernel
  rw [follow, hpath, h]
  rfl

/-- A name in a directory is one step further than the directory. -/
theorem follow_join (hdir : dir ≠ "") (hname : '/' ∉ name.toList) :
    t.follow (Path.join dir name) = t.step (t.follow dir) name := by
  have hrelative := Path.isAbsolute_of_not_mem hname
  have hjoin : (Path.join dir name).isEmpty = false := by
    rw [← Bool.not_eq_true, String.isEmpty_iff]
    exact Path.join_ne_empty hdir hrelative
  have hdir' : dir.isEmpty = false := by
    rw [← Bool.not_eq_true, String.isEmpty_iff]
    exact hdir
  rw [follow, follow, hjoin, hdir', Path.isAbsolute_join hdir hrelative]
  simp only [Bool.false_eq_true, if_false]
  obtain ⟨before, hsegments, hbefore | hbefore⟩ := Path.segments_join hdir hname
  · simp only [hsegments, hbefore, List.foldl_append, List.foldl_cons, List.foldl_nil]
  · simp only [hsegments, hbefore, List.foldl_append, List.foldl_cons, List.foldl_nil,
      step_step_empty]

theorem step_of_isSegment (hname : Path.IsSegment name) (here : String) :
    t.step (some here) name
      = if t.isDirectoryAt here then some (Path.join here name) else none := by
  have hskip : ¬ (name = "" ∨ name = ".") := not_or.2 ⟨hname.nonempty, hname.ne_dot⟩
  cases hplace : t.isDirectoryAt here with
  | false => simp [step, hplace]
  | true => simp [step, hplace, hskip, hname.ne_dots]

/-- Canonical paths lead to canonical places. -/
theorem canonical_of_follow (h : Path.Canonical dir) {here : String}
    (hfollow : t.follow dir = some here) : Path.Canonical here := by
  induction h generalizing here with
  | root =>
      have hsegments : Path.segments "/" = ["", ""] := by decide +kernel
      rw [follow_of_absolute (by decide +kernel), hsegments] at hfollow
      cases (eq_of_step_empty (eq_of_step_empty hfollow).1).1
      exact .root
  | doubleRoot =>
      have hsegments : Path.segments "//" = ["", "", ""] := by decide +kernel
      rw [follow_of_absolute (by decide +kernel), hsegments] at hfollow
      cases (eq_of_step_empty (eq_of_step_empty (eq_of_step_empty hfollow).1).1).1
      exact .root
  | @join dir name hdir hname ih =>
      rw [follow_join hdir.ne_empty hname.slashless] at hfollow
      cases hplace : t.follow dir with
      | none =>
          rw [hplace] at hfollow
          cases hfollow
      | some above =>
          rw [hplace, step_of_isSegment hname, Option.ite_none_right_eq_some] at hfollow
          obtain ⟨-, heq⟩ := hfollow
          cases heq
          exact .join (ih hplace) hname

/-- What is found under a segment is the entry at one place in the directory. -/
theorem find?_join (hdir : dir ≠ "") (hname : Path.IsSegment name) :
    t.find? (Path.join dir name)
      = (t.follow dir).bind fun here =>
          if t.isDirectoryAt here then t.entryAt (Path.join here name) else none := by
  rw [find?, follow_join hdir hname.slashless]
  cases t.follow dir with
  | none => rfl
  | some here =>
      rw [step_of_isSegment hname, Option.bind_some]
      split <;> rfl

/-- An empty name stands for the directory itself, which is no file. -/
theorem isFile_join_empty (hdir : dir ≠ "") : t.isFile (Path.join dir "") = false := by
  rw [isFile, find?, follow_join hdir (by simp)]
  cases hstep : t.step (t.follow dir) "" with
  | none => rfl
  | some here =>
      obtain ⟨-, hplace⟩ := eq_of_step_empty hstep
      rw [isDirectoryAt] at hplace
      rw [Option.bind_some]
      cases hentry : t.entryAt here with
      | none => rfl
      | some e =>
          rw [hentry] at hplace
          cases e with
          | file bytes => cases hplace
          | directory => rfl

/-- A file has a name, by which it lies in its parent. -/
theorem join_of_isFile {path : String} (h : Path.Canonical path) (hfile : t.isFile path = true) :
    Path.IsSegment (Path.name path) ∧ Path.join (Path.parent path) (Path.name path) = path := by
  rcases h.eq_root_or_join with rfl | rfl | hjoin
  · have hroot : Path.join "/" "" = "/" := by decide +kernel
    rw [← hroot, isFile_join_empty (by decide)] at hfile
    cases hfile
  · have hroot : Path.join "//" "" = "//" := by decide +kernel
    rw [← hroot, isFile_join_empty (by decide)] at hfile
    cases hfile
  · exact hjoin

end Following

section Listing

variable {t t' : FileTree} {dir name : String} {names : List String}

/-- The names in a directory are the names of the entries that lie in its place. -/
theorem names?_eq_some_iff :
    t.names? dir = some names ↔
      ∃ place, t.follow dir = some place ∧ t.isDirectoryAt place = true ∧
        Text.sorted ((t.entries.keys.filter (liesIn place)).map Path.name) = names := by
  rw [names?, Option.bind_eq_some_iff]
  simp only [Option.ite_none_right_eq_some, Option.some.injEq]

theorem slashless_of_mem_names (h : t.names? dir = some names) (hname : name ∈ names) :
    '/' ∉ name.toList := by
  obtain ⟨place, -, -, rfl⟩ := names?_eq_some_iff.1 h
  obtain ⟨key, -, rfl⟩ := List.mem_map.1 (Text.mem_sorted.1 hname)
  exact Path.slashless_name key

/-- What lies at a segment of a directory is listed. -/
theorem mem_names_of_entryAt {place : String} (hcanonical : Path.Canonical place)
    (hname : Path.IsSegment name) (hfollow : t.follow dir = some place)
    (hplace : t.isDirectoryAt place = true) {e : FileEntry}
    (hentry : t.entryAt (Path.join place name) = some e) :
    ∃ names, t.names? dir = some names ∧ name ∈ names := by
  have hnamed : Path.name (Path.join place name) = name :=
    Path.name_join hcanonical.ne_empty hname.slashless
  have hroot : Path.join place name ≠ root := by
    intro heq
    have hempty : Path.name root = "" := by decide +kernel
    rw [heq, hempty] at hnamed
    exact hname.nonempty hnamed.symm
  have hlies : liesIn place (Path.join place name) = true := by
    rw [liesIn, Path.parent_join hcanonical hname.slashless]
    simp [hroot]
  refine ⟨_, names?_eq_some_iff.2 ⟨place, hfollow, hplace, rfl⟩, Text.mem_sorted.2 ?_⟩
  rw [← hnamed]
  exact List.mem_map_of_mem (List.mem_filter.2 ⟨OrderedMap.mem_keys_iff.2 ⟨e, hentry⟩, hlies⟩)

/-- What is found under a segment is listed. -/
theorem mem_names_of_find? (hdir : Path.Canonical dir) (hname : Path.IsSegment name)
    {e : FileEntry} (h : t.find? (Path.join dir name) = some e) :
    ∃ names, t.names? dir = some names ∧ name ∈ names := by
  rw [find?_join hdir.ne_empty hname, Option.bind_eq_some_iff] at h
  obtain ⟨place, hfollow, hentry⟩ := h
  rw [Option.ite_none_right_eq_some] at hentry
  obtain ⟨hplace, hentry⟩ := hentry
  exact mem_names_of_entryAt (canonical_of_follow hdir hfollow) hname hfollow hplace hentry

end Listing

section Agreement

variable {t t' : FileTree} {dir name : String}

/-- Two trees list the same names in a directory and find the same under each of them. -/
structure SameEntries (t t' : FileTree) (dir : String) : Prop where
  names : t.names? dir = t'.names? dir
  found : ∀ names, t.names? dir = some names → ∀ name ∈ names,
    t.find? (Path.join dir name) = t'.find? (Path.join dir name)

theorem SameEntries.symm (h : SameEntries t t' dir) : SameEntries t' t dir where
  names := h.names.symm
  found names hnames name hname := (h.found names (h.names.trans hnames) name hname).symm

/-- Trees with the same entries in a directory find the same under every segment. -/
theorem SameEntries.find?_eq (h : SameEntries t t' dir) (hdir : Path.Canonical dir)
    (hname : Path.IsSegment name) :
    t.find? (Path.join dir name) = t'.find? (Path.join dir name) := by
  cases hfind : t.find? (Path.join dir name) with
  | some e =>
      obtain ⟨names, hnames, hmem⟩ := mem_names_of_find? hdir hname hfind
      rw [← h.found names hnames name hmem, hfind]
  | none =>
      cases hfind' : t'.find? (Path.join dir name) with
      | none => rfl
      | some e =>
          obtain ⟨names, hnames, hmem⟩ := mem_names_of_find? hdir hname hfind'
          rw [← hfind, ← hfind', h.symm.found names hnames name hmem]

end Agreement

end FileTree
end Conformance
