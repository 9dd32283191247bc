import Conformance.Proofs.Files.Listing
import Conformance.Scan

/-!
# Which files are admitted

A scan of a directory lists it, reads its pattern file and leaves out what is no source file.  This
module says of a single name what the scan makes of it, and what the scan depends on.

**Admission.**  A name is admitted if it is listed, stands for a file, has one of the endings, and
is left out neither by the patterns of the options nor by those of the pattern file.

**Results.**
* `mem_scan_iff`: a scan gives the paths of the admitted names;
* `Admits.ne_empty`, `Admits.slashless`: an admitted name is a name of a single file;
* `scan_congr`: a scan depends on the entries of the directory only.
-/

namespace Conformance
namespace Scan

section Admission

variable [PatternLanguage] {o : Options} {excluded : List Pattern} {t : FileTree}
  {dir name : String}

/-- The scan of a directory admits a name. -/
structure Admits (o : Options) (excluded : List Pattern) (t : FileTree) (dir name : String) :
    Prop where
  listed : ∃ names, t.names? dir = some names ∧ name ∈ names
  present : t.isFile (Path.join dir name) = true
  ending : hasEnding o.extensions name = true
  kept : Pattern.excludes excluded name = false
  respected : ∃ ignored, (patternsOf o t dir).value = .ok ignored ∧
    Pattern.excludes ignored name = false

/-- A scan gives the paths of the admitted names. -/
theorem mem_scan_iff {paths : List String} (h : (scan o excluded t dir).value = .ok paths)
    {path : String} :
    path ∈ paths ↔ ∃ name, Admits o excluded t dir name ∧ Path.join dir name = path := by
  rw [scan_value] at h
  cases hnames : t.names? dir with
  | none =>
      rw [hnames] at h
      cases h
      refine iff_of_false (by simp) ?_
      rintro ⟨name, hadmits, -⟩
      obtain ⟨names, hlisted, -⟩ := hadmits.listed
      rw [hnames] at hlisted
      cases hlisted
  | some names =>
      rw [hnames] at h
      cases hpatterns : (patternsOf o t dir).value with
      | error fault =>
          rw [hpatterns] at h
          cases h
      | ok ignored =>
          rw [hpatterns] at h
          cases h
          rw [List.mem_map]
          refine exists_congr fun name => and_congr_left fun _ => ?_
          rw [mem_select, List.mem_filter]
          constructor
          · rintro ⟨⟨hmem, hpresent⟩, hending, hkept, hignored⟩
            exact ⟨⟨names, hnames, hmem⟩, hpresent, hending, hkept, ignored, hpatterns, hignored⟩
          · rintro ⟨⟨names', hnames', hmem⟩, hpresent, hending, hkept, ignored', hignored', hignored⟩
            rw [hnames] at hnames'
            cases hnames'
            rw [hpatterns] at hignored'
            cases hignored'
            exact ⟨⟨hmem, hpresent⟩, hending, hkept, hignored⟩

theorem Admits.slashless (h : Admits o excluded t dir name) : '/' ∉ name.toList := by
  obtain ⟨names, hnames, hname⟩ := h.listed
  exact FileTree.slashless_of_mem_names hnames hname

/-- An empty name stands for the directory itself, which is no file. -/
theorem Admits.ne_empty (h : Admits o excluded t dir name) : name ≠ "" := by
  rintro rfl
  obtain ⟨names, hnames, -⟩ := h.listed
  obtain ⟨place, hfollow, -⟩ := FileTree.names?_eq_some_iff.1 hnames
  have hdir : dir ≠ "" := by
    rintro rfl
    cases hfollow
  have hpresent := h.present
  rw [FileTree.isFile_join_empty hdir] at hpresent
  cases hpresent

end Admission

section Agreement

theorem isSegment_patternFile : Path.IsSegment patternFile := by
  refine ⟨?_, ?_, ?_, ?_⟩ <;> decide +kernel

variable [PatternLanguage] {o : Options} {excluded : List Pattern} {t t' : FileTree} {dir : String}

/-- The pattern file is one of the entries. -/
theorem patternsOf_congr (h : FileTree.SameEntries t t' dir) (hdir : Path.Canonical dir) :
    patternsOf o t dir = patternsOf o t' dir := by
  rw [patternsOf, patternsOf, h.find?_eq hdir isSegment_patternFile]

/-- A scan depends on the entries of the directory only. -/
theorem scan_congr (h : FileTree.SameEntries t t' dir) (hdir : Path.Canonical dir) :
    (scan o excluded t dir).value = (scan o excluded t' dir).value := by
  rw [scan_value, scan_value, ← patternsOf_congr h hdir, ← h.names]
  cases hnames : t.names? dir with
  | none => rfl
  | some names =>
      have hfiles : (names.filter fun name => t.isFile (Path.join dir name))
          = names.filter fun name => t'.isFile (Path.join dir name) := by
        refine List.filter_congr fun name hname => ?_
        rw [FileTree.isFile, FileTree.isFile, h.found names hnames name hname]
      simp only [hfiles]

end Agreement

end Scan
end Conformance
