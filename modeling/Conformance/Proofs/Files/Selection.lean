import Conformance.Pattern.Wildcard
import Conformance.Proofs.Files.Trees
import Conformance.Scan

/-!
# A scan is a sorted intersection

A scan selects from the files of a directory by their names.  Two filters may leave a name out, the
patterns of the options and those of the pattern file.  For what a scan gives, a filter is no more
than a condition on names.

**Sources.**  `sources` are the files that a scan gives under any two conditions.  They come in
strict order of their names, do not depend on the order of the entries, and are those that both
conditions let through on their own.

**Filters.**  A scan gives the sources under the conditions of its two filters, as long as the
pattern file can be read if it is respected (`Loadable`).  Without the pattern file, or without
patterns of the options, the condition of that filter lets everything through.

**Results.**
* `mem_present_iff`: a scan selects from the files that the directory holds;
* `sources_inter`: two conditions leave out what one of them leaves out;
* `scan_sorted_inter`: what a scan gives.
-/

namespace Conformance
namespace Scan

section Sources

variable {endings : List String} {excluded ignored : String → Bool} {t t' : FileTree}
  {dir name : String}

/-- The condition that leaves nothing out. -/
def nothing : String → Bool := fun _ => false

/-- The names in a directory that stand for files, in order. -/
def present (t : FileTree) (dir : String) : List String :=
  ((t.names? dir).getD []).filter fun name => t.isFile (Path.join dir name)

/-- The files of a directory that a scan gives where two conditions leave names out. -/
def sources (endings : List String) (excluded ignored : String → Bool) (t : FileTree)
    (dir : String) : List String :=
  (select endings excluded ignored (present t dir)).map (Path.join dir)

theorem hasEnding_iff : hasEnding endings name = true ↔ ∃ e ∈ endings, e.toList <:+ name.toList := by
  simp only [hasEnding, List.any_eq_true, ← String.endsWith_toSlice,
    String.Slice.endsWith_string_iff, String.copy_toSlice]

/-- A scan selects from the files that the directory holds. -/
theorem mem_present_iff (ht : t.WellFormed) : name ∈ present t dir ↔ t.HoldsFile dir name := by
  rw [present, List.mem_filter, ht.holdsFile_iff]
  refine and_congr_left fun _ => ?_
  cases t.names? dir with
  | none => simp
  | some names => simp

theorem present_pairwise_lt (ht : t.WellFormed) : (present t dir).Pairwise (· < ·) := by
  cases hnames : t.names? dir with
  | none => simp [present, hnames]
  | some names =>
      rw [present, hnames]
      exact (ht.names_pairwise_lt hnames).filter _

theorem present_congr (h : t.Reordered t') : present t' dir = present t dir := by
  rw [present, present, h.isFile_eq, h.names?_eq]

/-- The path of a held file tells its name. -/
theorem eq_of_join_eq (h : t.HoldsFile dir name) {name' : String} (h' : t.HoldsFile dir name')
    (heq : Path.join dir name = Path.join dir name') : name = name' := by
  obtain ⟨place, hfollow, -, hname, -⟩ := h
  obtain ⟨-, -, -, hname', -⟩ := h'
  have hdir : dir ≠ "" := FileTree.ne_empty_of_follow hfollow
  rw [← Path.name_join hdir hname.slashless, heq, Path.name_join hdir hname'.slashless]

/-- Two conditions leave out what one of them leaves out. -/
theorem sources_inter (ht : t.WellFormed) :
    sources endings excluded ignored t dir
      = sources endings excluded nothing t dir ∩ sources endings nothing ignored t dir := by
  have hinter : ∀ name ∈ select endings excluded nothing (present t dir),
      (hasEnding endings name && !nothing name && !ignored name)
        = (sources endings nothing ignored t dir).elem (Path.join dir name) := by
    intro name hname
    obtain ⟨hpresent, hending, -, -⟩ := mem_select.1 hname
    rw [Bool.eq_iff_iff, List.elem_iff, hending]
    simp only [Bool.true_and, nothing, Bool.not_false, Bool.not_eq_true']
    constructor
    · intro hkept
      exact List.mem_map_of_mem (mem_select.2 ⟨hpresent, hending, rfl, hkept⟩)
    · intro hmem
      obtain ⟨name', hname', heq⟩ := List.mem_map.1 hmem
      obtain ⟨hpresent', -, -, hkept⟩ := mem_select.1 hname'
      have hsame : name' = name :=
        eq_of_join_eq ((mem_present_iff ht).1 hpresent') ((mem_present_iff ht).1 hpresent) heq
      rw [← hsame]
      exact hkept
  calc sources endings excluded ignored t dir
      = (select endings nothing ignored (select endings excluded nothing (present t dir))).map
          (Path.join dir) := by rw [sources, ← select_select]; rfl
    _ = ((select endings excluded nothing (present t dir)).filter fun name =>
          (sources endings nothing ignored t dir).elem (Path.join dir name)).map
            (Path.join dir) := by rw [select, List.filter_congr hinter]
    _ = sources endings excluded nothing t dir ∩ sources endings nothing ignored t dir := by
          show _ = List.filter _ (List.map _ _)
          rw [List.filter_map]
          rfl

end Sources

section Filters

variable [PatternLanguage] {o : Options} {excluded : List Pattern} {t t' : FileTree} {dir : String}

/-- The pattern file of a directory leaves a name out. -/
def Ignores (t : FileTree) (dir name : String) : Prop :=
  ∃ bytes patterns, t.read? (Path.join dir patternFile) = some bytes ∧
    Pattern.ofFile bytes = .ok patterns ∧ Pattern.excludes patterns name = true

/-- The pattern file of a directory can be read, if there is one that is to be respected. -/
def Loadable (o : Options) (t : FileTree) (dir : String) : Prop :=
  o.respectIgnore = true → ∀ bytes, t.read? (Path.join dir patternFile) = some bytes →
    ∃ patterns, Pattern.ofFile bytes = .ok patterns

/-- The patterns that a scan respects leave out what the pattern file does. -/
theorem Loadable.exists_patterns (h : Loadable o t dir) :
    ∃ patterns, (patternsOf o t dir).value = .ok patterns ∧
      ∀ name, Pattern.excludes patterns name = true ↔
        o.respectIgnore = true ∧ Ignores t dir name := by
  rw [patternsOf_value]
  cases hrespect : o.respectIgnore with
  | false => exact ⟨[], rfl, by simp⟩
  | true =>
      cases hread : t.read? (Path.join dir patternFile) with
      | none =>
          refine ⟨[], rfl, fun name => iff_of_false (by simp) ?_⟩
          rintro ⟨-, bytes, -, hbytes, -⟩
          rw [hread] at hbytes
          cases hbytes
      | some bytes =>
          obtain ⟨patterns, hpatterns⟩ := h hrespect bytes hread
          refine ⟨patterns, hpatterns, fun name => ⟨fun hexcludes => ?_, ?_⟩⟩
          · exact ⟨rfl, bytes, patterns, hread, hpatterns, hexcludes⟩
          · rintro ⟨-, bytes', patterns', hread', hpatterns', hexcludes⟩
            rw [hread] at hread'
            cases hread'
            rw [hpatterns] at hpatterns'
            cases hpatterns'
            exact hexcludes

theorem scan_eq_sources {patterns : List Pattern} (h : (patternsOf o t dir).value = .ok patterns) :
    (scan o excluded t dir).value
      = .ok (sources o.extensions (Pattern.excludes excluded) (Pattern.excludes patterns) t dir) := by
  rw [scan_value, h, sources, present]
  cases t.names? dir with
  | none => rfl
  | some names => rfl

/-- Without the pattern file only the patterns of the options leave names out. -/
theorem scan_of_not_respected :
    (scan { o with respectIgnore := false } excluded t dir).value
      = .ok (sources o.extensions (Pattern.excludes excluded) nothing t dir) := by
  have hpatterns : (patternsOf { o with respectIgnore := false } t dir).value = .ok [] := rfl
  exact scan_eq_sources hpatterns

theorem scan_reordered (h : t.Reordered t') :
    (scan o excluded t' dir).value = (scan o excluded t dir).value := by
  rw [scan_value, scan_value, patternsOf, patternsOf, h.find?_eq, h.isFile_eq, h.names?_eq]

end Filters

section Main

/--
**A scan is the sorted intersection of its filters.**  In a well-formed tree, let the pattern file
of a directory be readable if it is to be respected.  Then a scan of the directory gives the sources
under two conditions on names: what the patterns of the options leave out, and what the pattern file
leaves out if it is respected.  A scan with one of the two filters only gives the sources under its
condition only, and a tree that lists its entries in another order gives the same.

Under any two conditions the sources of a directory are its paths joined with names, strictly in
order, of exactly those files that the directory holds, that have one of the endings, and that
neither condition leaves out.  They do not depend on the order of the entries, and they are what the
sources under the first condition only and those under the second condition only have in common.
-/
theorem scan_sorted_inter [PatternLanguage] (t : FileTree) (ht : t.WellFormed) (dir : String) :
    (∀ (o : Options) (excluded : List Pattern), Loadable o t dir →
      ∃ ignored : String → Bool,
        (∀ name, ignored name = true ↔ o.respectIgnore = true ∧ Ignores t dir name)
        ∧
        (scan o excluded t dir).value
          = .ok (sources o.extensions (Pattern.excludes excluded) ignored t dir)
        ∧
        (scan { o with respectIgnore := false } excluded t dir).value
          = .ok (sources o.extensions (Pattern.excludes excluded) nothing t dir)
        ∧
        (scan o [] t dir).value = .ok (sources o.extensions nothing ignored t dir)
        ∧
        ∀ t', t.Reordered t' → (scan o excluded t' dir).value = (scan o excluded t dir).value)
    ∧
    ∀ (endings : List String) (excluded ignored : String → Bool),
      let found := sources endings excluded ignored t dir
      (∃ names : List String, found = names.map (Path.join dir) ∧ names.Pairwise (· < ·) ∧
        ∀ name, name ∈ names ↔
          t.HoldsFile dir name ∧ (∃ e ∈ endings, e.toList <:+ name.toList) ∧
            excluded name = false ∧ ignored name = false)
      ∧
      (∀ t', t.Reordered t' → sources endings excluded ignored t' dir = found)
      ∧
      found = sources endings excluded nothing t dir ∩ sources endings nothing ignored t dir := by
  refine ⟨fun o excluded hload => ?_, fun endings excluded ignored => ⟨?_, ?_, ?_⟩⟩
  · obtain ⟨patterns, hpatterns, hignores⟩ := hload.exists_patterns
    exact ⟨Pattern.excludes patterns, hignores, scan_eq_sources hpatterns, scan_of_not_respected,
      scan_eq_sources hpatterns, fun t' h => scan_reordered h⟩
  · refine ⟨select endings excluded ignored (present t dir), rfl, ?_, fun name => ?_⟩
    · exact (present_pairwise_lt ht).filter _
    · rw [mem_select, mem_present_iff ht, hasEnding_iff]
  · intro t' h
    rw [sources, sources, present_congr h]
  · exact sources_inter ht

/-- A pattern that speaks of a single name. -/
def named (negated : Bool) (name : String) : Wildcard :=
  ⟨negated, false, [.anyDepth, .glob (name.toList.map .char)]⟩

/-- A directory whose pattern file leaves out one file and takes back another. -/
def mixedTree : FileTree :=
  (FileTree.empty "/w").run [
    .write "gen.go" (Utf8.encode "package a\n"), .write "b.go" (Utf8.encode "package a\n"),
    .write "a.go" (Utf8.encode "package a\n"), .makeDirectory "sub.go",
    .write ".gitignore" (Utf8.encode "b.go\n!gen.go\n")]

/-- The pattern file of that directory. -/
def mixedPatterns : List Wildcard := [named false "b.go", named true "gen.go"]

/-- Patterns of the options that do the opposite. -/
def oppositePatterns : List Wildcard := [named false "gen.go", named true "b.go"]

theorem read_mixedTree :
    mixedTree.read? (Path.join "/w" patternFile) = some (Utf8.encode "b.go\n!gen.go\n") := by
  decide +kernel

theorem ofFile_mixedTree : Pattern.ofFile (Utf8.encode "b.go\n!gen.go\n") = .ok mixedPatterns := by
  decide +kernel

theorem ignores_mixedTree {name : String} :
    Ignores mixedTree "/w" name ↔ Pattern.excludes mixedPatterns name = true := by
  constructor
  · rintro ⟨bytes, patterns, hbytes, hpatterns, hexcludes⟩
    rw [read_mixedTree] at hbytes
    cases hbytes
    rw [ofFile_mixedTree] at hpatterns
    cases hpatterns
    exact hexcludes
  · intro hexcludes
    exact ⟨_, _, read_mixedTree, ofFile_mixedTree, hexcludes⟩

/-- Neither filter takes back what the other leaves out, and a directory is no source file. -/
theorem scan_sorted_inter_mixedTree :
    Pattern.readAll ["gen.go", "!b.go"] = .ok oppositePatterns ∧
      mixedTree.WellFormed ∧ Loadable {} mixedTree "/w" ∧
      ∃ names : List String,
        (scan {} oppositePatterns mixedTree "/w").value = .ok (names.map (Path.join "/w")) ∧
        names.Pairwise (· < ·) ∧
        "a.go" ∈ names ∧ "b.go" ∉ names ∧ "gen.go" ∉ names ∧ "sub.go" ∉ names := by
  have htree : mixedTree.WellFormed := FileTree.wellFormed_run (by decide +kernel) _
  have hload : Loadable {} mixedTree "/w" := by
    intro _ bytes hbytes
    rw [read_mixedTree] at hbytes
    cases hbytes
    exact ⟨mixedPatterns, ofFile_mixedTree⟩
  obtain ⟨hscan, hsources⟩ := scan_sorted_inter mixedTree htree "/w"
  obtain ⟨ignored, hignored, hfound, -⟩ := hscan {} oppositePatterns hload
  obtain ⟨⟨names, hnames, hsorted, hmem⟩, -⟩ :=
    hsources [".go"] (Pattern.excludes oppositePatterns) ignored
  have hcondition : ∀ name, ignored name = Pattern.excludes mixedPatterns name := by
    intro name
    rw [Bool.eq_iff_iff, hignored, ignores_mixedTree]
    exact and_iff_right rfl
  refine ⟨by decide +kernel, htree, hload, names, ?_, hsorted, (hmem "a.go").2 ?_, ?_, ?_, ?_⟩
  · rw [hfound]
    exact congrArg Except.ok hnames
  · have hheld : mixedTree.HoldsFile "/w" "a.go" :=
      ⟨"/w", by decide +kernel, by decide +kernel,
        ⟨by decide, by decide, by decide, by decide⟩, Utf8.encode "package a\n", by decide +kernel⟩
    have hkept : ignored "a.go" = false := (hcondition "a.go").trans (by cbv)
    exact ⟨hheld, ⟨".go", by decide, by decide⟩, by cbv, hkept⟩
  · intro hb
    have hdropped : ignored "b.go" = true := (hcondition "b.go").trans (by cbv)
    rw [((hmem "b.go").1 hb).2.2.2] at hdropped
    cases hdropped
  · intro hgen
    have hdropped : Pattern.excludes oppositePatterns "gen.go" = true := by cbv
    rw [((hmem "gen.go").1 hgen).2.2.1] at hdropped
    cases hdropped
  · intro hsub
    obtain ⟨⟨place, hfollow, -, -, bytes, hentry⟩, -⟩ := (hmem "sub.go").1 hsub
    have hplace : mixedTree.follow "/w" = some "/w" := by decide +kernel
    rw [hplace] at hfollow
    cases hfollow
    have hdirectory : mixedTree.entryAt (Path.join "/w" "sub.go") = some .directory := by
      decide +kernel
    rw [hdirectory] at hentry
    cases hentry

end Main

end Scan
end Conformance
