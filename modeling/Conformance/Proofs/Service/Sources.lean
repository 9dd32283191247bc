import Conformance.Proofs.Assembly.Choice
import Conformance.Proofs.Files.Admission
import Conformance.Proofs.Service.Invalidation
import Conformance.Proofs.Service.Faults

/-!
# Which directory is reported

A request that is not answered from the cache reports the package of the directory of the file or of
its parent.  This module says which of the two, in any state of the service, and what the answer
depends on.

**Holding a package.**  A directory holds a package if the scan admits a file there that names one.
Its package is made up from the facts of the admitted files (`IsPackageOf`), and a target file among
them gives the name.

**Reading.**  What is read of a directory is its listing and, by name, the entries in it: the pattern
file and the admitted files.  The parent is not even listed if the directory holds a package.

**Results.**
* `surveyDirectory_of_holdsPackage`, `surveyDirectory_of_not_holdsPackage`: a directory that is not
  at fault has a package exactly if it holds one;
* `IsPackageOf.of_declares`: the target file gives the name, and its facts are in the package;
* `survey_of_sameEntries`: what is found depends on the entries of the two directories;
* `parse_reports_directory`: all this for requests.
-/

namespace Conformance

namespace Service

section Directories

theorem file_readFile [Grammar] {t : FileTree} (path : String) :
    (readFile t path).value.file = path := by
  rw [readFile]
  cases t.read? path with
  | none => rfl
  | some bytes =>
      dsimp only
      cases Grammar.parse bytes with
      | error reason => rfl
      | ok root =>
          show (Extraction.factsOfTree path root).file = path
          rw [Extraction.factsOfTree]
          split <;> rfl

variable [PatternLanguage] {o : Options} {excluded : List Pattern} {t t' : FileTree}
  {dir name : String} {target : Option String} {p : Package} {files : List FileFacts}
  {package : String}

/-- A directory is scanned unless its pattern file is at fault. -/
theorem exists_scan (excluded : List Pattern) (h : ∀ fault, ¬ Scan.PatternFault o t dir fault) :
    ∃ paths, (Scan.scan o excluded t dir).value = .ok paths := by
  cases hscan : (Scan.scan o excluded t dir).value with
  | error fault => exact absurd (Scan.scan_eq_error_iff.1 hscan) (h fault)
  | ok paths => exact ⟨paths, rfl⟩

variable [Grammar]

/-- The scan of a directory admits a name, and the file of that name names a package. -/
structure Declares (o : Options) (excluded : List Pattern) (t : FileTree) (dir name package : String) :
    Prop where
  admitted : Scan.Admits o excluded t dir name
  clause : (readFile t (Path.join dir name)).value.package = some package

/-- An admitted file of the directory names a package. -/
def HoldsPackage (o : Options) (excluded : List Pattern) (t : FileTree) (dir : String) : Prop :=
  ∃ name package, Declares o excluded t dir name package

/-- The package that is made up from the admitted files of a directory. -/
structure IsPackageOf (o : Options) (excluded : List Pattern) (t : FileTree) (dir : String)
    (target : Option String) (p : Package) : Prop where
  path : p.path = dir
  files : ∃ paths, (Scan.scan o excluded t dir).value = .ok paths ∧
    Assembly.assemble dir (paths.map fun path => (readFile t path).value) target = some p

theorem not_patternFault_of_holdsPackage (h : HoldsPackage o excluded t dir) (fault : Fault) :
    ¬ Scan.PatternFault o t dir fault := by
  obtain ⟨name, package, hdeclares⟩ := h
  obtain ⟨ignored, hignored, -⟩ := hdeclares.admitted.respected
  rintro ⟨-, hrespected, hread⟩
  rw [Scan.patternsOf_eq_error_iff.2 ⟨hrespected, hread⟩] at hignored
  cases hignored

/-- A directory that is scanned has a package exactly if it holds one. -/
theorem assemble_eq_none_iff_holdsPackage {paths : List String}
    (h : (Scan.scan o excluded t dir).value = .ok paths) (target : Option String) :
    Assembly.assemble dir (paths.map fun path => (readFile t path).value) target = none ↔
      ¬ HoldsPackage o excluded t dir := by
  rw [Assembly.assemble_eq_none_iff]
  constructor
  · rintro hnone ⟨name, package, hadmits, hclause⟩
    have hpath := (Scan.mem_scan_iff h).2 ⟨name, hadmits, rfl⟩
    rw [hnone _ (List.mem_map_of_mem hpath)] at hclause
    cases hclause
  · intro hholds f hf
    obtain ⟨path, hpath, rfl⟩ := List.mem_map.1 hf
    obtain ⟨name, hadmits, rfl⟩ := (Scan.mem_scan_iff h).1 hpath
    cases hclause : (readFile t (Path.join dir name)).value.package with
    | none => rfl
    | some package => exact absurd ⟨name, package, hadmits, hclause⟩ hholds

theorem surveyDirectory_of_holdsPackage {s : Service}
    (h : HoldsPackage s.options s.excluded t dir) (target : Option String) :
    ∃ p, (surveyDirectory s t dir target).value = .ok (some p) ∧
      IsPackageOf s.options s.excluded t dir target p := by
  obtain ⟨paths, hscan⟩ := exists_scan s.excluded (not_patternFault_of_holdsPackage h)
  have hfiles := factsOf_eq_ok_iff.2 ⟨paths, hscan, rfl⟩
  cases hassemble : Assembly.assemble dir (paths.map fun path => (readFile t path).value) target with
  | none => exact absurd h ((assemble_eq_none_iff_holdsPackage hscan target).1 hassemble)
  | some p =>
      exact ⟨p, surveyDirectory_eq_some_iff.2 ⟨_, hfiles, hassemble⟩,
        Assembly.assemble_path hassemble, paths, hscan, hassemble⟩

theorem surveyDirectory_of_not_holdsPackage {s : Service}
    (hreadable : ∀ fault, ¬ Scan.PatternFault s.options t dir fault)
    (h : ¬ HoldsPackage s.options s.excluded t dir) (target : Option String) :
    (surveyDirectory s t dir target).value = .ok none := by
  obtain ⟨paths, hscan⟩ := exists_scan s.excluded hreadable
  rw [surveyDirectory_value, factsOf_eq_ok_iff.2 ⟨paths, hscan, rfl⟩]
  exact congrArg Except.ok ((assemble_eq_none_iff_holdsPackage hscan target).2 h)

/-- A target among the admitted files gives the name of the package, and its facts are in it. -/
theorem IsPackageOf.of_declares {path : String} (hpath : Path.join dir name = path)
    (h : IsPackageOf o excluded t dir (some path) p)
    (hdeclares : Declares o excluded t dir name package) :
    p.name = package ∧
      ∃ before after, p.findings = before ++ (readFile t path).value.findings ++ after := by
  obtain ⟨-, paths, hscan, hassemble⟩ := h
  have hmem : (readFile t path).value ∈ paths.map fun path => (readFile t path).value :=
    List.mem_map_of_mem ((Scan.mem_scan_iff hscan).2 ⟨name, hdeclares.admitted, hpath⟩)
  have hclause := hdeclares.clause
  rw [hpath] at hclause
  have htarget : Assembly.targetName? (paths.map fun path => (readFile t path).value) (some path)
      = some package := by
    refine Assembly.targetName?_eq_some hmem (file_readFile path) fun g hg hfile => ?_
    obtain ⟨path', -, rfl⟩ := List.mem_map.1 hg
    rw [file_readFile] at hfile
    rw [hfile, hclause]
  have hname : p.name = package := by
    have hchosen := Assembly.assemble_name hassemble
    rw [Assembly.chooseName, htarget, Option.some_or] at hchosen
    exact (Option.some.inj hchosen).symm
  refine ⟨hname, Assembly.findings_of_mem hassemble hmem ?_⟩
  rw [hclause, hname]

end Directories

section Agreement

theorem readFile_congr [Grammar] {t t' : FileTree} {path : String}
    (h : t.find? path = t'.find? path) : readFile t path = readFile t' path := by
  rw [readFile, readFile, FileTree.read?, FileTree.read?, h]

variable [PatternLanguage] [Grammar] {s : Service} {t t' : FileTree} {dir file : String}
  {target : Option String}

/-- What is read of a directory are its entries. -/
theorem factsOf_of_sameEntries {o : Options} {excluded : List Pattern}
    (h : FileTree.SameEntries t t' dir) (hdir : Path.Canonical dir) :
    factsOf o excluded t dir = factsOf o excluded t' dir := by
  rw [factsOf, factsOf, ← Scan.scan_congr h hdir]
  cases hscan : (Scan.scan o excluded t dir).value with
  | error fault => rfl
  | ok paths =>
      show Except.ok (readFiles t paths).value = .ok (readFiles t' paths).value
      rw [readFiles_value, readFiles_value]
      refine congrArg Except.ok (List.map_congr_left fun path hpath => ?_)
      obtain ⟨name, hadmits, rfl⟩ := (Scan.mem_scan_iff hscan).1 hpath
      obtain ⟨names, hnames, hname⟩ := hadmits.listed
      rw [readFile_congr (h.found names hnames name hname)]

theorem surveyDirectory_of_sameEntries (h : FileTree.SameEntries t t' dir)
    (hdir : Path.Canonical dir) :
    (surveyDirectory s t dir target).value = (surveyDirectory s t' dir target).value := by
  rw [surveyDirectory_value, surveyDirectory_value, factsOf_of_sameEntries h hdir]

/-- The parent is read only where the directory holds no package. -/
theorem survey_of_sameEntries (hfile : Path.Canonical file)
    (hdir : FileTree.SameEntries t t' (Path.parent file))
    (habove : HoldsPackage s.options s.excluded t (Path.parent file) ∨
      FileTree.SameEntries t t' (Path.parent (Path.parent file))) :
    (survey s t file).value = (survey s t' file).value := by
  have hown : ∀ target, (surveyDirectory s t (Path.parent file) target).value
      = (surveyDirectory s t' (Path.parent file) target).value :=
    fun target => surveyDirectory_of_sameEntries hdir hfile.parent
  rcases habove with hholds | habove
  · obtain ⟨p, hp, -⟩ := surveyDirectory_of_holdsPackage hholds (some file)
    rw [survey_of_own hp, survey_of_own ((hown _).symm.trans hp)]
  · rw [survey_value, survey_value, hown,
      surveyDirectory_of_sameEntries habove hfile.parent.parent]

end Agreement

section Main

/--
**Which directory is reported.**  A request that the cache does not answer, with the grammar there
and for a file that is there, in any state of the service:
* if the directory of the file holds a package, that one is the answer; if the file itself is
  admitted and names a package, it gives the name, and its facts are in the package;
* otherwise, if the parent is tried and holds a package, the answer is the one that it has without a
  target;
* otherwise the answer is empty.

The answer is the same in every tree with the same entries in the directory and in the parent, and
those of the parent do not matter where the directory holds a package.
-/
theorem parse_reports_directory [PatternLanguage] [Grammar] (w : World) (path file : String)
    (s : Service)
    (habsolute : ∀ here, w.tree.workingDirectory = some here → Path.isAbsolute here = true)
    (hpath : w.tree.absolute? path = some file) (hreads : Reads w file s) :
    let dir := Path.parent file
    let above := Path.parent dir
    let holds (d : String) : Prop := HoldsPackage s.options s.excluded w.tree d
    let readable (d : String) : Prop := ∀ fault, ¬ Scan.PatternFault s.options w.tree d fault
    let tried : Prop := s.options.fallback = true ∧ above ≠ dir
    let answer (t : FileTree) : Except Fault Result :=
      (parse { w with tree := t } path s).value.1.map (·.result)
    (holds dir →
      ∃ p, answer w.tree = .ok (.ofPackage p) ∧
        IsPackageOf s.options s.excluded w.tree dir (some file) p ∧
        ∀ package, Declares s.options s.excluded w.tree dir (Path.name file) package →
          p.name = package ∧
            ∃ before after, p.findings = before ++ (readFile w.tree file).value.findings ++ after)
    ∧
    (readable dir → ¬ holds dir → tried → holds above →
      ∃ p, answer w.tree = .ok (.ofPackage p) ∧
        IsPackageOf s.options s.excluded w.tree above none p)
    ∧
    (readable dir → ¬ holds dir → (tried → readable above ∧ ¬ holds above) →
      answer w.tree = .ok .empty)
    ∧
    (∀ t : FileTree, t.workingDirectory = w.tree.workingDirectory →
      FileTree.SameEntries w.tree t dir → (holds dir ∨ FileTree.SameEntries w.tree t above) →
        answer t = answer w.tree) := by
  intro dir above holds readable tried answer
  have hfile : Path.Canonical file := FileTree.canonical_of_absolute? habsolute hpath
  obtain ⟨hname, hjoin⟩ := FileTree.join_of_isFile hfile hreads.present
  have hanswer : ∀ found, (survey s w.tree file).value = .ok found →
      answer w.tree = .ok (resultOf found) := by
    intro found hfound
    show (parse w path s).value.1.map (·.result) = _
    rw [parse_of_absolute hpath, answer_of_reads hreads, hfound]
    rfl
  have hnone : readable dir → ¬ holds dir → (survey s w.tree file).value
      = if (s.options.fallback && above != dir) = true then (surveyDirectory s w.tree above none).value
        else .ok none := by
    intro hreadable hholds
    rw [survey_value, surveyDirectory_of_not_holdsPackage hreadable hholds]
  refine ⟨?_, ?_, ?_, ?_⟩
  · intro hholds
    obtain ⟨p, hsurvey, hp⟩ := surveyDirectory_of_holdsPackage hholds (some file)
    refine ⟨p, hanswer (some p) (survey_of_own hsurvey), hp, fun package hdeclares => ?_⟩
    exact hp.of_declares hjoin hdeclares
  · rintro hreadable hholds ⟨hfallback, hne⟩ habove
    obtain ⟨p, hsurvey, hp⟩ := surveyDirectory_of_holdsPackage habove none
    refine ⟨p, hanswer (some p) ?_, hp⟩
    rw [hnone hreadable hholds, hfallback, Bool.true_and, if_pos (bne_iff_ne.2 hne), hsurvey]
  · intro hreadable hholds htried
    refine hanswer none ?_
    rw [hnone hreadable hholds]
    split
    next hpassed =>
      rw [Bool.and_eq_true, bne_iff_ne] at hpassed
      obtain ⟨hreadable', hholds'⟩ := htried hpassed
      exact surveyDirectory_of_not_holdsPackage hreadable' hholds' none
    next => rfl
  · intro t hworking hsame habove
    have hpath' : t.absolute? path = some file := by
      rw [FileTree.absolute?, hworking]
      exact hpath
    have hfound : w.tree.find? file = t.find? file := by
      have hfound := hsame.find?_eq hfile.parent hname
      rwa [hjoin] at hfound
    have hreads' : Reads { w with tree := t } file s := by
      refine ⟨hreads.missed, hreads.grammar, ?_⟩
      rw [FileTree.isFile, ← hfound]
      exact hreads.present
    show (parse { w with tree := t } path s).value.1.map (·.result)
      = (parse w path s).value.1.map (·.result)
    rw [parse_of_absolute hpath', parse_of_absolute hpath, answer_of_reads hreads',
      answer_of_reads hreads, survey_of_sameEntries hfile hsame habove]

/-- A file without a package clause is answered with the package of the parent. -/
theorem nested_file_reports_parent :
    ∃ s p, Service.create {} = .ok s ∧
      (∀ here, Moment.nestedWorld.tree.workingDirectory = some here →
        Path.isAbsolute here = true) ∧
      Moment.nestedWorld.tree.absolute? "sub/f.go" = some "/w/sub/f.go" ∧
      Reads Moment.nestedWorld "/w/sub/f.go" s ∧
      (parse Moment.nestedWorld "sub/f.go" s).value.1.map (·.result) = .ok (.ofPackage p) ∧
      IsPackageOf {} [] Moment.nestedWorld.tree "/w" none p := by
  let s : Service := { options := {}, excluded := [] }
  have habsolute : ∀ here, Moment.nestedWorld.tree.workingDirectory = some here →
      Path.isAbsolute here = true := by
    rintro here ⟨⟩
    decide +kernel
  have hpath : Moment.nestedWorld.tree.absolute? "sub/f.go" = some "/w/sub/f.go" := by
    decide +kernel
  have hdir : Path.parent "/w/sub/f.go" = "/w/sub" := by decide +kernel
  have habove : Path.parent "/w/sub" = "/w" := by decide +kernel
  have hreads : Reads Moment.nestedWorld "/w/sub/f.go" s := ⟨rfl, rfl, by decide +kernel⟩
  have hlists : Lists {} [] Moment.nestedWorld.tree "/w/sub" "/w/sub" ["f.go"] ["/w/sub/f.go"] := by
    decide +kernel
  have hlists' : Lists {} [] Moment.nestedWorld.tree "/w" "/w" ["root.go", "sub"]
      ["/w/root.go"] := by decide +kernel
  obtain ⟨paths, hscan, hfiles⟩ := factsOf_eq_ok_iff.1 (factsOf_of_lists hlists)
  obtain ⟨paths', hscan', hfiles'⟩ := factsOf_eq_ok_iff.1 (factsOf_of_lists hlists')
  have hnone : ¬ HoldsPackage {} [] Moment.nestedWorld.tree "/w/sub" := by
    refine (assemble_eq_none_iff_holdsPackage hscan none).1 ?_
    rw [hfiles]
    decide +kernel
  have hholds : HoldsPackage {} [] Moment.nestedWorld.tree "/w" := by
    refine Classical.byContradiction fun hnone' => ?_
    have hempty := (assemble_eq_none_iff_holdsPackage hscan' none).2 hnone'
    rw [hfiles'] at hempty
    revert hempty
    decide +kernel
  have hreadable : ∀ fault, ¬ Scan.PatternFault {} Moment.nestedWorld.tree "/w/sub" fault := by
    rintro fault ⟨-, -, bytes, hbytes, -⟩
    have habsent : Moment.nestedWorld.tree.find? (Path.join "/w/sub" Scan.patternFile) = none := by
      decide +kernel
    rw [habsent] at hbytes
    cases hbytes
  obtain ⟨-, hparent, -, -⟩ :=
    parse_reports_directory Moment.nestedWorld "sub/f.go" "/w/sub/f.go" s habsolute hpath hreads
  rw [hdir, habove] at hparent
  obtain ⟨p, hanswer, hp⟩ := hparent hreadable hnone ⟨rfl, by decide⟩ hholds
  exact ⟨s, p, rfl, habsolute, hpath, hreads, hanswer, hp⟩

end Main

end Service
end Conformance
