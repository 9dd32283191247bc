import Conformance.Proofs.Service.History

/-!
# Where the package of a file comes from

What a service reads for a file that the cache knows nothing of.

**Directories.**  `factsOf` are the facts of the source files of a directory.  The package of a file
is made up from those of its own directory, with the file as the target, or else from those of the
parent directory, without a target.

**Results.**
* `package?_source`: the directory, the facts and the target that a package is made up from;
* `package?_sibling_iff`: when a file of the directory of a package has that very package;
* `package?_unique`: without a target, a directory has one package;
* `package?_of_own`, `package?_of_parent`: the two ways to a package.
-/

namespace Conformance
namespace Service

section Directories

theorem readFiles_value [Grammar] {t : FileTree} (paths : List String) :
    (readFiles t paths).value = paths.map fun path => (readFile t path).value := by
  induction paths with
  | nil => rfl
  | cons path paths ih =>
      rw [readFiles, Logged.value_bind, Logged.value_bind, Logged.value_pure, ih, List.map_cons]

variable [PatternLanguage] [Grammar] {s : Service} {t : FileTree} {dir file : String}
  {target : Option String}

/-- The facts of the source files of a directory. -/
def factsOf (o : Options) (excluded : List Pattern) (t : FileTree) (dir : String) :
    Except Fault (List FileFacts) :=
  (Scan.scan o excluded t dir).value.map fun paths => (readFiles t paths).value

theorem factsOf_eq_ok_iff {o : Options} {excluded : List Pattern} {files : List FileFacts} :
    factsOf o excluded t dir = .ok files ↔
      ∃ paths, (Scan.scan o excluded t dir).value = .ok paths ∧
        (paths.map fun path => (readFile t path).value) = files := by
  rw [factsOf]
  cases (Scan.scan o excluded t dir).value with
  | error fault => exact iff_of_false (by rintro ⟨⟩) (by rintro ⟨paths, ⟨⟩, -⟩)
  | ok paths =>
      constructor
      · rintro ⟨⟩
        exact ⟨paths, rfl, (readFiles_value paths).symm⟩
      · rintro ⟨paths', ⟨⟩, rfl⟩
        exact congrArg Except.ok (readFiles_value paths)

theorem surveyDirectory_value :
    (surveyDirectory s t dir target).value
      = (factsOf s.options s.excluded t dir).map fun files =>
          Assembly.assemble dir files target := by
  rw [surveyDirectory, factsOf, Logged.value_bind]
  cases (Scan.scan s.options s.excluded t dir).value with
  | error fault => rfl
  | ok paths => rfl

theorem surveyDirectory_eq_some_iff {package : Package} :
    (surveyDirectory s t dir target).value = .ok (some package) ↔
      ∃ files, factsOf s.options s.excluded t dir = .ok files ∧
        Assembly.assemble dir files target = some package := by
  rw [surveyDirectory_value]
  cases hfiles : factsOf s.options s.excluded t dir with
  | error fault =>
      constructor
      · rintro ⟨⟩
      · rintro ⟨files, ⟨⟩, -⟩
  | ok files =>
      constructor
      · intro h
        exact ⟨files, rfl, Except.ok.inj h⟩
      · rintro ⟨files', hfiles', hassemble⟩
        cases hfiles'
        rw [← hassemble]
        rfl

/-- The directory of a file comes first, and the parent directory only where that has no package. -/
theorem survey_value :
    (survey s t file).value
      = match (surveyDirectory s t (Path.parent file) (some file)).value with
        | .ok none =>
            if (s.options.fallback && Path.parent (Path.parent file) != Path.parent file) = true then
              (surveyDirectory s t (Path.parent (Path.parent file)) none).value
            else .ok none
        | found => found := by
  rw [survey, Logged.value_bind]
  cases (surveyDirectory s t (Path.parent file) (some file)).value with
  | error fault => rfl
  | ok found =>
      cases found with
      | some own => rfl
      | none =>
          by_cases hfallback :
              (s.options.fallback && Path.parent (Path.parent file) != Path.parent file) = true
          · simp only [hfallback, if_true, Logged.value_bind]
          · simp only [hfallback, Bool.false_eq_true, if_false, Logged.value_pure]

theorem survey_of_own {package : Package}
    (h : (surveyDirectory s t (Path.parent file) (some file)).value = .ok (some package)) :
    (survey s t file).value = .ok (some package) := by
  rw [survey_value, h]

theorem survey_eq_some {package : Package} (h : (survey s t file).value = .ok (some package)) :
    (surveyDirectory s t (Path.parent file) (some file)).value = .ok (some package)
    ∨
    (s.options.fallback = true ∧ Path.parent (Path.parent file) ≠ Path.parent file ∧
      (surveyDirectory s t (Path.parent (Path.parent file)) none).value = .ok (some package)) := by
  rw [survey_value] at h
  split at h
  next =>
    split at h
    next hfallback =>
      rw [Bool.and_eq_true, bne_iff_ne] at hfallback
      exact .inr ⟨hfallback.1, hfallback.2, h⟩
    next => cases h
  next => exact .inl h

end Directories

section Packages

theorem assemble_of_chooseName {dir : String} {files : List FileFacts}
    {target target' : Option String} {package : Package}
    (h : Assembly.assemble dir files target = some package)
    (hname : Assembly.chooseName files target' = some package.name) :
    Assembly.assemble dir files target' = some package := by
  obtain ⟨name, -, rfl⟩ := Option.map_eq_some_iff.1 h
  rw [Assembly.assemble, hname]
  rfl

variable [PatternLanguage] [Grammar] {o : Options} {excluded : List Pattern} {w : World}
  {f g : String} {package package' : Package}

/-- The time does not matter to what is read. -/
theorem package?_of_now {time : Double} :
    package? o excluded { w with now := time } f = package? o excluded w f := by
  rw [package?, package?]

theorem package?_eq_some_iff :
    package? o excluded w f = .ok (some package) ↔
      w.grammarFault = none ∧ w.tree.isFile f = true ∧
        (survey { options := o, excluded } w.tree f).value = .ok (some package) := by
  rw [package?]
  cases hfault : w.grammarFault with
  | some reason => simp
  | none =>
      cases hfile : w.tree.isFile f with
      | false => simp
      | true =>
          cases hfound : (survey { options := o, excluded } w.tree f).value with
          | error fault =>
              cases htolerated : fault.isTolerated with
              | false => simp [htolerated]
              | true => simp [htolerated]
          | ok found => simp

/-- The directory, the facts and the target that a package is made up from. -/
theorem package?_source (h : package? o excluded w f = .ok (some package)) :
    ∃ files target, factsOf o excluded w.tree package.path = .ok files ∧
      Assembly.assemble package.path files target = some package ∧
      ((target = some f ∧ package.path = Path.parent f)
      ∨
      (target = none ∧ o.fallback = true ∧ package.path = Path.parent (Path.parent f) ∧
        package.path ≠ Path.parent f)) := by
  obtain ⟨-, -, hsurvey⟩ := package?_eq_some_iff.1 h
  rcases survey_eq_some hsurvey with hown | ⟨hfallback, hne, hparent⟩
  · have hpath : package.path = Path.parent f := surveyDirectory_path hown
    obtain ⟨files, hfiles, hassemble⟩ := surveyDirectory_eq_some_iff.1 hown
    rw [← hpath] at hfiles hassemble
    exact ⟨files, some f, hfiles, hassemble, .inl ⟨rfl, hpath⟩⟩
  · have hpath : package.path = Path.parent (Path.parent f) := surveyDirectory_path hparent
    obtain ⟨files, hfiles, hassemble⟩ := surveyDirectory_eq_some_iff.1 hparent
    rw [← hpath] at hfiles hassemble hne
    exact ⟨files, none, hfiles, hassemble, .inr ⟨rfl, hfallback, hpath, hne⟩⟩

/-- A file of the directory of a package has that package exactly if it chooses its name. -/
theorem package?_sibling_iff (h : package? o excluded w f = .ok (some package))
    (hpath : package.path = Path.parent g) :
    package? o excluded w g = .ok (some package) ↔
      w.tree.isFile g = true ∧
        ∃ files, factsOf o excluded w.tree package.path = .ok files ∧
          Assembly.chooseName files (some g) = some package.name := by
  constructor
  · intro hg
    refine ⟨(package?_eq_some_iff.1 hg).2.1, ?_⟩
    obtain ⟨files, target, hfiles, hassemble, ⟨rfl, -⟩ | ⟨-, -, -, hne⟩⟩ := package?_source hg
    · exact ⟨files, hfiles, Assembly.assemble_name hassemble⟩
    · exact absurd hpath hne
  · rintro ⟨hfile, files, hfiles, hname⟩
    obtain ⟨files', target, hfiles', hassemble, -⟩ := package?_source h
    rw [hfiles'] at hfiles
    cases hfiles
    refine package?_eq_some_iff.2 ⟨(package?_eq_some_iff.1 h).1, hfile, survey_of_own ?_⟩
    rw [← hpath]
    exact surveyDirectory_eq_some_iff.2 ⟨files, hfiles', assemble_of_chooseName hassemble hname⟩

/-- Two files that fell back to one directory have one package. -/
theorem package?_unique (hf : package? o excluded w f = .ok (some package))
    (hg : package? o excluded w g = .ok (some package')) (hpath : package.path = package'.path)
    (hnef : package.path ≠ Path.parent f) (hneg : package'.path ≠ Path.parent g) :
    package = package' := by
  obtain ⟨files, target, hfiles, hassemble, ⟨-, heq⟩ | ⟨rfl, -⟩⟩ := package?_source hf
  · exact absurd heq hnef
  · obtain ⟨files', target', hfiles', hassemble', ⟨-, heq⟩ | ⟨rfl, -⟩⟩ := package?_source hg
    · exact absurd heq hneg
    · rw [← hpath] at hfiles' hassemble'
      rw [hfiles] at hfiles'
      cases hfiles'
      rw [hassemble] at hassemble'
      exact Option.some.inj hassemble'

end Packages

section Listings

variable {t : FileTree} {dir : String} {names : List String}

/-- The names in a directory, if their order in the tree is the right one. -/
theorem names?_of_pairwise {place : String} (hfollow : t.follow dir = some place)
    (hplace : t.isDirectoryAt place = true)
    (hnames : (t.entries.keys.filter (FileTree.liesIn place)).map Path.name = names)
    (hpairwise : names.Pairwise fun a b => Text.le a b = true) : t.names? dir = some names := by
  rw [FileTree.names?, hfollow, Option.bind_some, if_pos hplace, hnames, Text.sorted,
    List.mergeSort_of_pairwise hpairwise]

variable [PatternLanguage] {o : Options} {excluded : List Pattern}

/-- The facts of a directory that has no pattern file. -/
theorem factsOf_of_names [Grammar] (hnames : t.names? dir = some names)
    (habsent : t.find? (Path.join dir Scan.patternFile) = none) :
    factsOf o excluded t dir
      = .ok (readFiles t ((Scan.select o.extensions (Pattern.excludes excluded)
          (Pattern.excludes []) (names.filter fun name => t.isFile (Path.join dir name))).map
            (Path.join dir))).value := by
  have hpatterns : (Scan.patternsOf o t dir).value = .ok [] := by
    rw [Scan.patternsOf_value, FileTree.read?, habsent]
    exact ite_self _
  rw [factsOf, Scan.scan_value, hnames, hpatterns]
  rfl

/--
A path leads to a directory without pattern file, which holds these names, of which these files are
selected.
-/
def Lists (o : Options) (excluded : List Pattern) (t : FileTree) (dir place : String)
    (names paths : List String) : Prop :=
  t.follow dir = some place ∧ t.isDirectoryAt place = true ∧
    (t.entries.keys.filter (FileTree.liesIn place)).map Path.name = names ∧
    (names.Pairwise fun a b => Text.le a b = true) ∧
    t.find? (Path.join dir Scan.patternFile) = none ∧
    (Scan.select o.extensions (Pattern.excludes excluded) (Pattern.excludes [])
      (names.filter fun name => t.isFile (Path.join dir name))).map (Path.join dir) = paths

instance (place : String) (paths : List String) :
    Decidable (Lists o excluded t dir place names paths) :=
  inferInstanceAs (Decidable (_ ∧ _ ∧ _ ∧ _ ∧ _ ∧ _))

theorem factsOf_of_lists [Grammar] {place : String} {paths : List String}
    (h : Lists o excluded t dir place names paths) :
    factsOf o excluded t dir = .ok (readFiles t paths).value := by
  obtain ⟨hfollow, hplace, hnames, hpairwise, habsent, hselected⟩ := h
  have hlisted := names?_of_pairwise hfollow hplace hnames hpairwise
  rw [factsOf_of_names hlisted habsent, hselected]

end Listings

section Choice

/-- The findings that make up the package of this name. -/
def findingsOf (name : String) (files : List FileFacts) : Findings :=
  .concat ((Assembly.filesOf name files).map (·.findings))

variable [PatternLanguage] [Grammar] {o : Options} {excluded : List Pattern} {w : World}
  {f name : String} {files files' : List FileFacts}

/-- The package that the directory of a file holds for it. -/
theorem package?_of_own (hfault : w.grammarFault = none) (hfile : w.tree.isFile f = true)
    (hfacts : factsOf o excluded w.tree (Path.parent f) = .ok files)
    (hname : Assembly.chooseName files (some f) = some name) :
    package? o excluded w f = .ok (some ⟨Path.parent f, name, findingsOf name files⟩) := by
  refine package?_eq_some_iff.2 ⟨hfault, hfile, survey_of_own ?_⟩
  refine surveyDirectory_eq_some_iff.2 ⟨files, hfacts, ?_⟩
  rw [Assembly.assemble, hname]
  rfl

/-- The package that the parent directory holds, where the directory of a file has none. -/
theorem package?_of_parent (hfault : w.grammarFault = none) (hfile : w.tree.isFile f = true)
    (hfallback : o.fallback = true) (hne : Path.parent (Path.parent f) ≠ Path.parent f)
    (hown : factsOf o excluded w.tree (Path.parent f) = .ok files')
    (hnone : Assembly.chooseName files' (some f) = none)
    (hfacts : factsOf o excluded w.tree (Path.parent (Path.parent f)) = .ok files)
    (hname : Assembly.chooseName files none = some name) :
    package? o excluded w f
      = .ok (some ⟨Path.parent (Path.parent f), name, findingsOf name files⟩) := by
  refine package?_eq_some_iff.2 ⟨hfault, hfile, ?_⟩
  have hempty : (surveyDirectory { options := o, excluded } w.tree (Path.parent f) (some f)).value
      = .ok none := by
    rw [surveyDirectory_value, hown]
    show Except.ok (Assembly.assemble (Path.parent f) files' (some f)) = _
    rw [Assembly.assemble, hnone]
    rfl
  have htried : (o.fallback && Path.parent (Path.parent f) != Path.parent f) = true := by
    rw [hfallback, Bool.true_and, bne_iff_ne]
    exact hne
  rw [survey_value, hempty]
  simp only [htried, if_true]
  refine surveyDirectory_eq_some_iff.2 ⟨files, hfacts, ?_⟩
  rw [Assembly.assemble, hname]
  rfl

end Choice

end Service
end Conformance
