import Conformance.Proofs.Files.Listing
import Conformance.Proofs.Text.Sorting

/-!
# Well-formed trees

A tree is a list of entries, each under its path.  This module says which lists of entries are trees
of files and directories, what a directory of such a tree holds, and that the order of the entries
does not matter.

**Well-formed trees.**  A tree is well-formed if all its entries stand under canonical paths and its
working directory, if it has one, is absolute.  The new tree is, and every change keeps it so.

**Files in a directory.**  A directory holds a file under a name if the name is a single segment and
the entry at this segment of the directory is a file (`HoldsFile`).

**Order.**  Two trees may list the same entries in different orders (`Reordered`).  Nothing that is
looked up, followed or listed tells them apart.

**Results.**
* `wellFormed_run`: changes lead from the new tree to well-formed trees only;
* `names_pairwise_lt`: a directory lists every name once, in strict order;
* `holdsFile_iff`: the files of a directory are the listed names that lead to a file;
* `Reordered.names?_eq`, `Reordered.find?_eq`: the order of the entries does not matter.
-/

namespace Conformance
namespace FileTree

section WellFormed

variable {t : FileTree} {path : String}

/-- All entries stand under canonical paths, and the working directory is absolute. -/
structure WellFormed (t : FileTree) : Prop where
  canonical : ∀ path ∈ t.entries.keys, Path.Canonical path
  rooted : ∀ here, t.workingDirectory = some here → Path.isAbsolute here = true

theorem WellFormed.canonical_of_isDirectoryAt (h : t.WellFormed)
    (hplace : t.isDirectoryAt path = true) : Path.Canonical path := by
  rw [isDirectoryAt, Option.any_eq_true] at hplace
  obtain ⟨e, hentry, -⟩ := hplace
  exact h.canonical path (OrderedMap.mem_keys_iff.2 ⟨e, hentry⟩)

theorem WellFormed.insert (h : t.WellFormed) (hpath : Path.Canonical path) (e : FileEntry) :
    WellFormed { t with entries := t.entries.insert path e } where
  canonical p hp := by
    rcases OrderedMap.mem_keys_insert.1 hp with hp | rfl
    · exact h.canonical p hp
    · exact hpath
  rooted := h.rooted

theorem WellFormed.addDirectory (h : t.WellFormed) (hpath : Path.Canonical path) :
    (t.addDirectory path).WellFormed := by
  rw [FileTree.addDirectory]
  split
  next => exact h
  next => exact h.insert hpath .directory

/-- The directories above a canonical path have canonical paths. -/
theorem canonical_of_mem_lineage {fuel : Nat} (hpath : Path.Canonical path) {p : String}
    (hp : p ∈ lineage fuel path) : Path.Canonical p := by
  induction fuel generalizing path with
  | zero => cases hp
  | succ fuel ih =>
      rw [lineage] at hp
      split at hp
      next => cases hp
      next =>
        rcases List.mem_cons.1 hp with rfl | hp
        · exact hpath
        · exact ih hpath.parent hp

theorem WellFormed.addDirectories (h : t.WellFormed) (hpath : Path.Canonical path) :
    (t.addDirectories path).WellFormed :=
  List.foldrRecOn _ _ h fun _ ht' _ hp => ht'.addDirectory (canonical_of_mem_lineage hpath hp)

theorem WellFormed.makeDirectory (h : t.WellFormed) (path : String) :
    (t.makeDirectory path).WellFormed := by
  rw [FileTree.makeDirectory]
  cases hpath : t.absolute? path with
  | none => exact h
  | some place => exact h.addDirectories (canonical_of_absolute? h.rooted hpath)

theorem WellFormed.write (h : t.WellFormed) (path : String) (bytes : List UInt8) :
    (t.write path bytes).WellFormed := by
  rw [FileTree.write]
  cases hpath : t.absolute? path with
  | none => exact h
  | some place =>
      have hplace : Path.Canonical place := canonical_of_absolute? h.rooted hpath
      exact (h.addDirectories hplace.parent).insert hplace (.file bytes)

theorem WellFormed.remove (h : t.WellFormed) (path : String) : (t.remove path).WellFormed := by
  rw [FileTree.remove]
  cases t.absolute? path with
  | none => exact h
  | some place =>
      refine ⟨fun p hp => ?_, fun here hhere => ?_⟩
      · refine h.canonical p ?_
        rw [Option.elim_some, OrderedMap.keys_filterKeys] at hp
        exact List.mem_of_mem_filter hp
      · exact h.rooted here (Option.filter_eq_some_iff.1 hhere).1

theorem wellFormed_empty {cwd : String} (h : Path.isAbsolute cwd = true) :
    (FileTree.empty cwd).WellFormed := by
  have hroot : WellFormed ⟨OrderedMap.empty.insert root .directory, some cwd⟩ := by
    refine ⟨fun p hp => ?_, ?_⟩
    · rcases OrderedMap.mem_keys_insert.1 hp with hp | rfl
      · cases hp
      · exact .root
    · rintro here ⟨⟩
      exact h
  exact hroot.makeDirectory cwd

/-- What may be done to the files. -/
inductive Change
  | write (path : String) (bytes : List UInt8)
  | makeDirectory (path : String)
  | remove (path : String)

/-- The tree after a change. -/
def after (t : FileTree) : Change → FileTree
  | .write path bytes => t.write path bytes
  | .makeDirectory path => t.makeDirectory path
  | .remove path => t.remove path

/-- The tree after several changes. -/
def run (changes : List Change) (t : FileTree) : FileTree :=
  changes.foldl after t

theorem WellFormed.after (h : t.WellFormed) (change : Change) : (t.after change).WellFormed := by
  cases change with
  | write path bytes => exact h.write path bytes
  | makeDirectory path => exact h.makeDirectory path
  | remove path => exact h.remove path

/-- Changes lead from the new tree to well-formed trees only. -/
theorem wellFormed_run {cwd : String} (h : Path.isAbsolute cwd = true) (changes : List Change) :
    ((FileTree.empty cwd).run changes).WellFormed :=
  List.foldlRecOn changes FileTree.after (wellFormed_empty h) fun _ ht change _ => ht.after change

end WellFormed

section Files

variable {t : FileTree} {dir place name : String}

/--
The directory that a path leads to holds a file under this name: the name is a single segment, and
the entry at this segment of the directory is a file.
-/
def HoldsFile (t : FileTree) (dir name : String) : Prop :=
  ∃ place, t.follow dir = some place ∧ t.isDirectoryAt place = true ∧ Path.IsSegment name ∧
    ∃ bytes, t.entryAt (Path.join place name) = some (.file bytes)

theorem ne_empty_of_follow (h : t.follow dir = some place) : dir ≠ "" := by
  rintro rfl
  cases h

/-- What lies in a directory is a segment of it, or the second root. -/
theorem eq_join_of_liesIn {path : String} (hpath : Path.Canonical path)
    (hlies : liesIn place path = true) :
    Path.name path = "" ∧ path = "//"
    ∨
    Path.IsSegment (Path.name path) ∧ path = Path.join place (Path.name path) := by
  rw [liesIn, Bool.and_eq_true, bne_iff_ne, beq_iff_eq] at hlies
  obtain ⟨hroot, rfl⟩ := hlies
  rcases hpath.eq_root_or_join with rfl | rfl | ⟨hname, hjoin⟩
  · exact absurd rfl hroot
  · exact .inl ⟨by decide +kernel, rfl⟩
  · exact .inr ⟨hname, hjoin.symm⟩

/-- The entries of a directory have different names. -/
theorem eq_of_liesIn_of_name_eq {p q : String} (hp : Path.Canonical p) (hq : Path.Canonical q)
    (hplies : liesIn place p = true) (hqlies : liesIn place q = true)
    (hname : Path.name p = Path.name q) : p = q := by
  rcases eq_join_of_liesIn hp hplies with ⟨hpname, hp'⟩ | ⟨hpname, hp'⟩
  · rcases eq_join_of_liesIn hq hqlies with ⟨-, hq'⟩ | ⟨hqname, -⟩
    · rw [hp', hq']
    · exact absurd (hname.symm.trans hpname) hqname.nonempty
  · rcases eq_join_of_liesIn hq hqlies with ⟨hqname, -⟩ | ⟨-, hq'⟩
    · exact absurd (hname.trans hqname) hpname.nonempty
    · rw [hp', hq', hname]

/-- A directory lists every name once, in strict order. -/
theorem WellFormed.names_pairwise_lt (h : t.WellFormed) {names : List String}
    (hnames : t.names? dir = some names) : names.Pairwise (· < ·) := by
  obtain ⟨place, -, -, rfl⟩ := names?_eq_some_iff.1 hnames
  have hkeys : (t.entries.keys.filter (liesIn place)).Nodup := t.entries.nodup.filter _
  refine Text.sorted_pairwise_lt (hkeys.map_on ?_)
  intro p hp q hq hname
  obtain ⟨hpkey, hplies⟩ := List.mem_filter.1 hp
  obtain ⟨hqkey, hqlies⟩ := List.mem_filter.1 hq
  exact eq_of_liesIn_of_name_eq (h.canonical p hpkey) (h.canonical q hqkey) hplies hqlies hname

/-- The files that a directory holds are the listed names that lead to a file. -/
theorem WellFormed.holdsFile_iff (h : t.WellFormed) :
    t.HoldsFile dir name ↔
      (∃ names, t.names? dir = some names ∧ name ∈ names) ∧
        t.isFile (Path.join dir name) = true := by
  constructor
  · rintro ⟨place, hfollow, hplace, hname, bytes, hentry⟩
    have hdir : dir ≠ "" := ne_empty_of_follow hfollow
    refine ⟨mem_names_of_entryAt (h.canonical_of_isDirectoryAt hplace) hname hfollow hplace hentry,
      isFile_iff.2 ⟨bytes, ?_⟩⟩
    rw [find?_join hdir hname, hfollow, Option.bind_some, if_pos hplace, hentry]
  · rintro ⟨⟨names, hnames, hmem⟩, hfile⟩
    obtain ⟨place, hfollow, hplace, rfl⟩ := names?_eq_some_iff.1 hnames
    have hdir : dir ≠ "" := ne_empty_of_follow hfollow
    obtain ⟨path, hpath, rfl⟩ := List.mem_map.1 (Text.mem_sorted.1 hmem)
    obtain ⟨hkey, hlies⟩ := List.mem_filter.1 hpath
    rcases eq_join_of_liesIn (h.canonical path hkey) hlies with ⟨hempty, -⟩ | ⟨hname, -⟩
    · rw [hempty, isFile_join_empty hdir] at hfile
      cases hfile
    · obtain ⟨bytes, hbytes⟩ := isFile_iff.1 hfile
      rw [find?_join hdir hname, hfollow, Option.bind_some, if_pos hplace] at hbytes
      exact ⟨place, hfollow, hplace, hname, bytes, hbytes⟩

end Files

section Order

variable {t t' : FileTree}

/-- Two trees have the same entries, perhaps in different orders, and one working directory. -/
structure Reordered (t t' : FileTree) : Prop where
  entries : t.entries.entries.Perm t'.entries.entries
  workingDirectory : t.workingDirectory = t'.workingDirectory

theorem Reordered.entryAt_eq (h : Reordered t t') (path : String) :
    t.entryAt path = t'.entryAt path := by
  ext e
  rw [entryAt, entryAt, OrderedMap.get?_eq_some_iff, OrderedMap.get?_eq_some_iff,
    h.entries.mem_iff]

theorem Reordered.isDirectoryAt_eq (h : Reordered t t') (path : String) :
    t.isDirectoryAt path = t'.isDirectoryAt path := by
  rw [isDirectoryAt, isDirectoryAt, h.entryAt_eq]

theorem Reordered.follow_eq (h : Reordered t t') (path : String) :
    t.follow path = t'.follow path := by
  have hstep : t.step = t'.step := by
    funext place segment
    simp only [step, h.isDirectoryAt_eq]
  rw [follow, follow, h.workingDirectory, hstep]

theorem Reordered.find?_eq (h : Reordered t t') (path : String) :
    t.find? path = t'.find? path := by
  have hentry : t.entryAt = t'.entryAt := funext h.entryAt_eq
  rw [find?, find?, h.follow_eq, hentry]

theorem Reordered.isFile_eq (h : Reordered t t') : t.isFile = t'.isFile := by
  funext path
  rw [isFile, isFile, h.find?_eq]

/-- Names are listed in order, whatever the order of the entries. -/
theorem Reordered.names?_eq (h : Reordered t t') (path : String) :
    t.names? path = t'.names? path := by
  have hkeys : t.entries.keys.Perm t'.entries.keys := h.entries.map Prod.fst
  have hsorted : ∀ place,
      Text.sorted ((t.entries.keys.filter (liesIn place)).map Path.name)
        = Text.sorted ((t'.entries.keys.filter (liesIn place)).map Path.name) :=
    fun place => Text.sorted_congr ((hkeys.filter (liesIn place)).map Path.name)
  simp only [names?, h.follow_eq, h.isDirectoryAt_eq, hsorted]

end Order

end FileTree
end Conformance
