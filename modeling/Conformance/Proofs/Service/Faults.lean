import Conformance.Pattern.Wildcard
import Conformance.Proofs.Service.Reading
import Conformance.Proofs.Text.Chunks
import Conformance.Source.Outline

/-!
# What makes a request fail

A request looks for a directory to start from, and reads directories, pattern files and source
files.  This module follows every fault from where it starts to where it is answered, and says which
one gets through, whatever the language of the patterns and the grammar of the source files.

**Origin.**  A relative path is at fault if the working directory has been removed.  Source files
never fail: bytes that are no text are replaced, and a file that the grammar refuses has no facts.
All other faults come from pattern files, from that of the directory of the file or, where that
directory holds no package, of its parent.

**Handling.**  A pattern file that is no text, or has a line that is refused, is answered by an
empty result.  A line that no expression can be made of is not; nor is a path without a place to
start from, which fails before anything is read.

**Results.**
* `Pattern.readAll_eq_error_iff`: the first line at fault counts;
* `Pattern.linesRead_of_text`: a pattern file that is text is read whole;
* `Service.survey_eq_error_iff`: the pattern files that make the reading of a package fail;
* `Service.compute_fst`, `Service.answer_of_reads`: what is found is the answer, in any state;
* `Service.parse_eq_error_iff`: of their faults, a request fails with those that are not tolerated;
* `Service.fails_iff_bad_expression`: exactly when a request fails;
* `Service.reversed_range_gets_through`: how a request fails where patterns have wildcards.
-/

namespace Conformance

namespace Pattern

section Faults

variable [PatternLanguage] {line : String} {ls : List String} {bytes : List UInt8}
  {fault : LineFault}

/-- The first of these lines that is at fault has this one. -/
def FirstFault (ls : List String) (fault : LineFault) : Prop :=
  ∃ before line after, ls = before ++ line :: after ∧ read line = .error fault ∧
    ∀ l ∈ before, ∃ p, read l = .ok p

theorem not_firstFault_nil : ¬ FirstFault [] fault := by
  rintro ⟨before, line, after, heq, -⟩
  cases before <;> cases heq

theorem firstFault_cons_of_error (h : read line = .error fault) {fault' : LineFault} :
    FirstFault (line :: ls) fault' ↔ fault = fault' := by
  constructor
  · rintro ⟨before, line', after, heq, hline, hbefore⟩
    cases before with
    | nil =>
        cases heq
        exact Except.error.inj (h.symm.trans hline)
    | cons first before =>
        cases heq
        obtain ⟨p, hp⟩ := hbefore line List.mem_cons_self
        rw [h] at hp
        cases hp
  · rintro rfl
    exact ⟨[], line, ls, rfl, h, by simp⟩

theorem firstFault_cons_of_ok {p : Option Pattern} (h : read line = .ok p) :
    FirstFault (line :: ls) fault ↔ FirstFault ls fault := by
  constructor
  · rintro ⟨before, line', after, heq, hline, hbefore⟩
    cases before with
    | nil =>
        cases heq
        rw [h] at hline
        cases hline
    | cons first before =>
        cases heq
        exact ⟨before, line', after, rfl, hline,
          fun l hl => hbefore l (List.mem_cons_of_mem line hl)⟩
  · rintro ⟨before, line', after, rfl, hline, hbefore⟩
    refine ⟨line :: before, line', after, rfl, hline, ?_⟩
    intro l hl
    rcases List.mem_cons.1 hl with rfl | hl
    · exact ⟨p, h⟩
    · exact hbefore l hl

theorem readAll_cons (line : String) (ls : List String) :
    readAll (line :: ls)
      = match read line with
        | .error fault => .error fault
        | .ok p => (readAll ls).map fun ps => p.toList ++ ps := by
  rw [readAll, List.mapM_cons]
  cases hread : read line with
  | error fault => rfl
  | ok p =>
      rw [readAll]
      cases hall : ls.mapM read with
      | error fault => rfl
      | ok ps => cases p <;> rfl

/-- Of several lines, the first one at fault counts. -/
theorem readAll_eq_error_iff : readAll ls = .error fault ↔ FirstFault ls fault := by
  induction ls with
  | nil => exact iff_of_false (by rintro ⟨⟩) not_firstFault_nil
  | cons line ls ih =>
      rw [readAll_cons]
      cases hread : read line with
      | error fault' =>
          rw [firstFault_cons_of_error hread]
          exact ⟨Except.error.inj, congrArg _⟩
      | ok p =>
          rw [firstFault_cons_of_ok hread, ← ih]
          cases readAll ls with
          | error fault' => rfl
          | ok ps => exact iff_of_false (by rintro ⟨⟩) (by rintro ⟨⟩)

/-- The reading of a pattern file fails at a line exactly if that is the first one at fault. -/
theorem ofFile_eq_line_iff :
    ofFile bytes = .error (.line fault) ↔ FirstFault (linesRead bytes).1 fault := by
  rw [ofFile, ← readAll_eq_error_iff]
  cases readAll (linesRead bytes).1 with
  | error fault' =>
      constructor
      · rintro ⟨⟩
        rfl
      · rintro ⟨⟩
        rfl
  | ok ps =>
      cases (linesRead bytes).2 with
      | none => exact iff_of_false (by rintro ⟨⟩) (by rintro ⟨⟩)
      | some undecodable => exact iff_of_false (by rintro ⟨⟩) (by rintro ⟨⟩)

instance {fault : Fault} (answer : Except Fault (List Pattern)) :
    Decidable (answer = .error fault) :=
  match answer with
  | .error fault' => decidable_of_iff (fault' = fault) ⟨congrArg _, Except.error.inj⟩
  | .ok _ => isFalse (by rintro ⟨⟩)

end Faults

section Texts

/-- A pattern file that is text is read whole, whatever chunks it comes in. -/
theorem linesRead_of_text {bytes : List UInt8} {text : List Char}
    (h : Utf8.decodeStrict bytes = (text, none)) : linesRead bytes = (lines text, none) := by
  rw [linesRead, Utf8.decodeChunks_chunks chunkSize h]

end Texts

end Pattern

namespace Scan

section Faults

variable [PatternLanguage] {o : Options} {excluded : List Pattern} {t : FileTree} {dir : String}
  {fault : Fault} {message : String}

theorem patternsOf_eq_error_iff :
    (patternsOf o t dir).value = .error fault ↔
      o.respectIgnore = true ∧
        ∃ bytes, t.find? (Path.join dir patternFile) = some (.file bytes) ∧
          Pattern.ofFile bytes = .error fault := by
  simp only [patternsOf_value, ← FileTree.read?_eq_some_iff]
  cases o.respectIgnore with
  | false => exact iff_of_false (by rintro ⟨⟩) (by rintro ⟨⟨⟩, -⟩)
  | true =>
      cases t.read? (Path.join dir patternFile) with
      | none => exact iff_of_false (by rintro ⟨⟩) (by rintro ⟨-, bytes, ⟨⟩, -⟩)
      | some bytes => simp

/-- The directory is listed, and its pattern file is read and has this fault. -/
structure PatternFault (o : Options) (t : FileTree) (dir : String) (fault : Fault) : Prop where
  listed : t.names? dir ≠ none
  respected : o.respectIgnore = true
  read : ∃ bytes, t.find? (Path.join dir patternFile) = some (.file bytes) ∧
    Pattern.ofFile bytes = .error fault

/-- A scan fails at the pattern file of the directory alone. -/
theorem scan_eq_error_iff :
    (scan o excluded t dir).value = .error fault ↔ PatternFault o t dir fault := by
  have hiff : PatternFault o t dir fault ↔
      t.names? dir ≠ none ∧ (patternsOf o t dir).value = .error fault := by
    rw [patternsOf_eq_error_iff]
    exact ⟨fun h => ⟨h.listed, h.respected, h.read⟩, fun h => ⟨h.1, h.2.1, h.2.2⟩⟩
  rw [hiff, scan_value]
  cases t.names? dir with
  | none => exact iff_of_false (by rintro ⟨⟩) fun h => h.1 rfl
  | some names =>
      cases (patternsOf o t dir).value with
      | error fault' => simp [Except.map]
      | ok ignored => simp [Except.map]

/-- The directory is listed, and of the lines that are read from its pattern file, no expression can
be made of the first one at fault. -/
structure BadExpression (o : Options) (t : FileTree) (dir message : String) : Prop where
  listed : t.names? dir ≠ none
  respected : o.respectIgnore = true
  first : ∃ bytes, t.find? (Path.join dir patternFile) = some (.file bytes) ∧
    Pattern.FirstFault (Pattern.linesRead bytes).1 (.badExpression message)

theorem patternFault_badExpression_iff :
    PatternFault o t dir (.line (.badExpression message)) ↔ BadExpression o t dir message := by
  constructor
  · rintro ⟨hlisted, hrespected, bytes, hfind, hread⟩
    exact ⟨hlisted, hrespected, bytes, hfind, Pattern.ofFile_eq_line_iff.1 hread⟩
  · rintro ⟨hlisted, hrespected, bytes, hfind, hfirst⟩
    exact ⟨hlisted, hrespected, bytes, hfind, Pattern.ofFile_eq_line_iff.2 hfirst⟩

end Faults

end Scan

namespace Service

section Grammars

variable [PatternLanguage] {s : Service} {w : World}

/-- What the state says of the grammar decides, and what can be loaded as long as it says nothing. -/
theorem ensureGrammar_fst :
    (ensureGrammar w s).value.1 = s.grammarReady.getD w.grammarFault.isNone := by
  rw [ensureGrammar]
  cases s.grammarReady with
  | some ready => rfl
  | none => cases w.grammarFault <;> rfl

theorem revisionOf_ensureGrammar (found : Option Package) :
    (ensureGrammar w s).value.2.revisionOf found = s.revisionOf found := by
  rw [ensureGrammar]
  cases s.grammarReady with
  | some ready => rfl
  | none => cases w.grammarFault <;> rfl

end Grammars

section Faults

variable [PatternLanguage] [Grammar] {s : Service} {w : World} {t : FileTree}
  {dir file path : String} {target : Option String} {fault : Fault}

/-- Source files never make the reading of a directory fail. -/
theorem surveyDirectory_eq_error_iff :
    (surveyDirectory s t dir target).value = .error fault ↔
      Scan.PatternFault s.options t dir fault := by
  rw [← Scan.scan_eq_error_iff, surveyDirectory, Logged.value_bind]
  cases (Scan.scan s.options s.excluded t dir).value with
  | error fault' =>
      constructor
      · rintro ⟨⟩
        rfl
      · rintro ⟨⟩
        rfl
  | ok paths => exact iff_of_false (by rintro ⟨⟩) (by rintro ⟨⟩)

/-- The fault of a pattern file that is read for the package of a file. -/
def Meets (s : Service) (t : FileTree) (file : String) (fault : Fault) : Prop :=
  let dir := Path.parent file
  let parent := Path.parent dir
  Scan.PatternFault s.options t dir fault
  ∨
  ((surveyDirectory s t dir (some file)).value = .ok none ∧ s.options.fallback = true ∧
    parent ≠ dir ∧ Scan.PatternFault s.options t parent fault)

theorem survey_eq_error_iff : (survey s t file).value = .error fault ↔ Meets s t file fault := by
  rw [survey_value, Meets, ← surveyDirectory_eq_error_iff]
  cases hown : (surveyDirectory s t (Path.parent file) (some file)).value with
  | error fault' =>
      constructor
      · intro h
        exact .inl h
      · rintro (h | ⟨⟨⟩, -⟩)
        exact h
  | ok found =>
      cases found with
      | some own => exact iff_of_false (by rintro ⟨⟩) (by rintro (⟨⟨⟩⟩ | ⟨⟨⟩, -⟩))
      | none =>
          by_cases htried :
              (s.options.fallback && Path.parent (Path.parent file) != Path.parent file) = true
          · simp only [htried, if_true]
            rw [Bool.and_eq_true, bne_iff_ne] at htried
            rw [surveyDirectory_eq_error_iff]
            constructor
            · intro h
              exact .inr ⟨trivial, htried.1, htried.2, h⟩
            · rintro (⟨⟨⟩⟩ | ⟨-, -, -, h⟩)
              exact h
          · simp only [if_neg htried]
            rw [Bool.and_eq_true, bne_iff_ne] at htried
            refine iff_of_false (by rintro ⟨⟩) ?_
            rintro (⟨⟨⟩⟩ | ⟨-, hfallback, hne, -⟩)
            exact htried ⟨hfallback, hne⟩

theorem survey_ensureGrammar :
    survey (ensureGrammar w s).value.2 t file = survey s t file := by
  rw [ensureGrammar]
  cases s.grammarReady with
  | some ready => rfl
  | none => cases w.grammarFault <;> exact survey_congr rfl rfl t file

/-- What is found is the answer, if the grammar and the file are there. -/
theorem compute_fst :
    (compute w file s).value.1
      = if s.grammarReady.getD w.grammarFault.isNone = true ∧ w.tree.isFile file = true then
          match (survey s w.tree file).value with
          | .error fault => if fault.isTolerated then .ok .empty else .error fault
          | .ok found => .ok (s.revisionOf found)
        else .ok .empty := by
  have hrevision := revisionOf_ensureGrammar (w := w) (s := s)
  rw [← ensureGrammar_fst, ← survey_ensureGrammar (w := w), compute, Logged.value_bind]
  revert hrevision
  obtain ⟨ready, s'⟩ := (ensureGrammar w s).value
  intro hrevision
  cases ready with
  | false => simp
  | true =>
      cases hfile : w.tree.isFile file with
      | false => simp
      | true =>
          simp only [Bool.not_true, Bool.false_eq_true, if_false, Logged.value_bind, and_self,
            if_true]
          cases (survey s' w.tree file).value with
          | error fault =>
              cases htolerated : fault.isTolerated with
              | true => simp [htolerated]
              | false => simp [htolerated]
          | ok found =>
              simp only [← hrevision]
              cases found with
              | none => rfl
              | some package => rfl

/-- Of the faults that are met, those get through that are not tolerated. -/
theorem compute_eq_error_iff :
    (compute w file s).value.1 = .error fault ↔
      fault.isTolerated = false ∧ s.grammarReady.getD w.grammarFault.isNone = true ∧
        w.tree.isFile file = true ∧ Meets s w.tree file fault := by
  rw [compute_fst, ← survey_eq_error_iff]
  by_cases hthere : s.grammarReady.getD w.grammarFault.isNone = true ∧ w.tree.isFile file = true
  · rw [if_pos hthere]
    obtain ⟨hready, hfile⟩ := hthere
    simp only [hready, hfile, true_and]
    cases (survey s w.tree file).value with
    | error fault' =>
        cases htolerated : fault'.isTolerated with
        | true =>
            simp only [htolerated, if_true]
            refine iff_of_false (by rintro ⟨⟩) ?_
            rintro ⟨hescapes, ⟨⟩⟩
            rw [htolerated] at hescapes
            cases hescapes
        | false =>
            simp only [htolerated, Bool.false_eq_true, if_false]
            constructor
            · rintro ⟨⟩
              exact ⟨htolerated, rfl⟩
            · rintro ⟨-, ⟨⟩⟩
              rfl
    | ok found => exact iff_of_false (by rintro ⟨⟩) (by rintro ⟨-, ⟨⟩⟩)
  · rw [if_neg hthere]
    refine iff_of_false (by rintro ⟨⟩) ?_
    rintro ⟨-, hready, hfile, -⟩
    exact hthere ⟨hready, hfile⟩

/-- The cache does not answer, the grammar is there, and so is the file. -/
structure Reads (w : World) (file : String) (s : Service) : Prop where
  missed : (s.cache.get s.options.lifetimes w.now file).1 = none
  grammar : s.grammarReady.getD w.grammarFault.isNone = true
  present : w.tree.isFile file = true

/-- A request that is read is answered by what is found. -/
theorem answer_of_reads (h : Reads w file s) :
    (answer w file s).value.1
      = match (survey s w.tree file).value with
        | .error fault => if fault.isTolerated then .ok .empty else .error fault
        | .ok found => .ok (s.revisionOf found) := by
  obtain ⟨cache, hget⟩ : ∃ cache, s.cache.get s.options.lifetimes w.now file = (none, cache) :=
    ⟨_, Prod.ext h.missed rfl⟩
  rw [answer, hget]
  show (compute w file s).value.1 = _
  rw [compute_fst, if_pos ⟨h.grammar, h.present⟩]

theorem answer_eq_error_iff :
    (answer w file s).value.1 = .error fault ↔
      fault.isTolerated = false ∧ Reads w file s ∧ Meets s w.tree file fault := by
  rw [answer]
  cases hget : s.cache.get s.options.lifetimes w.now file with
  | mk given cache =>
      cases given with
      | some revision =>
          refine iff_of_false (by rintro ⟨⟩) ?_
          rintro ⟨-, hreads, -⟩
          have hmissed := hreads.missed
          rw [hget] at hmissed
          cases hmissed
      | none =>
          show (compute w file s).value.1 = _ ↔ _
          rw [compute_eq_error_iff]
          constructor
          · rintro ⟨htolerated, hgrammar, hpresent, hmeets⟩
            exact ⟨htolerated, ⟨congrArg Prod.fst hget, hgrammar, hpresent⟩, hmeets⟩
          · rintro ⟨htolerated, hreads, hmeets⟩
            exact ⟨htolerated, hreads.grammar, hreads.present, hmeets⟩

/-- A request fails for want of a directory to start from, or with a fault that it meets. -/
theorem parse_eq_error_iff :
    (parse w path s).value.1 = .error fault ↔
      (fault = .noWorkingDirectory ∧ w.tree.absolute? path = none)
      ∨
      ∃ file, w.tree.absolute? path = some file ∧
        fault.isTolerated = false ∧ Reads w file s ∧ Meets s w.tree file fault := by
  cases hfile : w.tree.absolute? path with
  | none =>
      rw [parse_of_not_absolute hfile]
      constructor
      · rintro ⟨⟩
        exact .inl ⟨rfl, rfl⟩
      · rintro (⟨rfl, -⟩ | ⟨file, ⟨⟩, -⟩)
        rfl
  | some file =>
      rw [parse_of_absolute hfile, answer_eq_error_iff]
      constructor
      · intro h
        exact .inr ⟨file, rfl, h⟩
      · rintro (⟨-, ⟨⟩⟩ | ⟨file', ⟨⟩, h⟩)
        exact h

/-- Whatever a package holds, the implementations in it are found. -/
theorem analyze_eq_error_iff :
    (analyze w path s).value.1 = .error fault ↔ (parse w path s).value.1 = .error fault := by
  rw [analyze, Logged.value_bind]
  obtain ⟨answer, s'⟩ := (parse w path s).value
  cases answer with
  | error fault' =>
      constructor
      · rintro ⟨⟩
        rfl
      · rintro ⟨⟩
        rfl
  | ok revision => exact iff_of_false (by rintro ⟨⟩) (by rintro ⟨⟩)

end Faults

section Main

theorem isTolerated_eq_false_iff {fault : Fault} :
    fault.isTolerated = false ↔ ∃ message, fault = .line (.badExpression message) := by
  cases fault with
  | line fault =>
      cases fault with
      | refused message => exact iff_of_false (by rintro ⟨⟩) (by rintro ⟨message', ⟨⟩⟩)
      | badExpression message => exact iff_of_true rfl ⟨message, rfl⟩
  | undecodable fault => exact iff_of_false (by rintro ⟨⟩) (by rintro ⟨message, ⟨⟩⟩)
  | grammarMissing reason => exact iff_of_false (by rintro ⟨⟩) (by rintro ⟨message, ⟨⟩⟩)
  | noWorkingDirectory => exact iff_of_false (by rintro ⟨⟩) (by rintro ⟨message, ⟨⟩⟩)

/--
**Failures.**  Whatever the language of the patterns and the grammar, in any state and whatever the
files hold, a request for a package, or for the implementations in it, fails in two cases only:
* its path is relative, and the working directory has been removed;
* it reads a pattern file in which no expression can be made of the first line at fault: that of the
  directory of the file or, where that directory holds no package and the parent is tried, that of
  the parent.

In all other cases there is an answer.  The lines of a pattern file that are read are all its lines,
unless it is no text.
-/
theorem fails_iff_bad_expression [PatternLanguage] [Grammar] (w : World) (path : String)
    (s : Service) (fault : Fault) :
    let lost : Prop :=
      fault = .noWorkingDirectory ∧ Path.isAbsolute path = false ∧ w.tree.workingDirectory = none
    let stopped : Prop :=
      ∃ file message, w.tree.absolute? path = some file ∧
        fault = .line (.badExpression message) ∧ Reads w file s ∧
        let dir := Path.parent file
        let parent := Path.parent dir
        (Scan.BadExpression s.options w.tree dir message
        ∨
        ((surveyDirectory s w.tree dir (some file)).value = .ok none ∧
          s.options.fallback = true ∧ parent ≠ dir ∧
          Scan.BadExpression s.options w.tree parent message))
    ((parse w path s).value.1 = .error fault ↔ lost ∨ stopped)
    ∧
    ((analyze w path s).value.1 = .error fault ↔ lost ∨ stopped)
    ∧
    ∀ bytes text, Utf8.decodeStrict bytes = (text, none) →
      Pattern.linesRead bytes = (Pattern.lines text, none) := by
  intro lost stopped
  have hstopped : (∃ file, w.tree.absolute? path = some file ∧
      fault.isTolerated = false ∧ Reads w file s ∧ Meets s w.tree file fault) ↔ stopped := by
    refine exists_congr fun file => ?_
    rw [isTolerated_eq_false_iff]
    constructor
    · rintro ⟨hfile, ⟨message, rfl⟩, hreads, hmeets⟩
      rw [Meets] at hmeets
      simp only [Scan.patternFault_badExpression_iff] at hmeets
      exact ⟨message, hfile, rfl, hreads, hmeets⟩
    · rintro ⟨message, hfile, rfl, hreads, hbad⟩
      simp only [← Scan.patternFault_badExpression_iff] at hbad
      exact ⟨hfile, ⟨message, rfl⟩, hreads, hbad⟩
  have hparse : (parse w path s).value.1 = .error fault ↔ lost ∨ stopped := by
    rw [parse_eq_error_iff, hstopped, FileTree.absolute?_eq_none_iff]
  exact ⟨hparse, analyze_eq_error_iff.trans hparse, fun _ _ => Pattern.linesRead_of_text⟩

/-- A source file beside a pattern file with a range that ends before it starts. -/
def reversedWorld : World where
  tree :=
    { entries := .ofList [("/", .directory), ("/w", .directory),
        ("/w/.gitignore", .file (Utf8.encode "[z-a]\n")),
        ("/w/a.go", .file (Utf8.encode "package a\n"))]
      workingDirectory := some "/w" }
  grammarFault := none
  now := 1000

/-- A new service fails for a file beside which a pattern file has a reversed range. -/
theorem reversed_range_gets_through :
    ∃ s, Service.create {} = .ok s ∧
      (parse reversedWorld "a.go" s).value.1 = .error (.line Wildcard.reversal) ∧
      (analyze reversedWorld "a.go" s).value.1 = .error (.line Wildcard.reversal) := by
  let s : Service := { options := {}, excluded := [] }
  have hfile : reversedWorld.tree.absolute? "a.go" = some "/w/a.go" := by decide +kernel
  have hreads : Reads reversedWorld "/w/a.go" s := ⟨rfl, rfl, by decide +kernel⟩
  have hlisted : reversedWorld.tree.names? "/w" ≠ none := by
    have hfollow : reversedWorld.tree.follow "/w" = some "/w" := by decide +kernel
    have hplace : reversedWorld.tree.isDirectoryAt "/w" = true := by decide +kernel
    rw [FileTree.names?, hfollow, Option.bind_some, if_pos hplace]
    rintro ⟨⟩
  have hdir : Path.parent "/w/a.go" = "/w" := by decide +kernel
  have hmeets : Meets s reversedWorld.tree "/w/a.go" (.line Wildcard.reversal) := by
    rw [Meets, hdir]
    exact .inl ⟨hlisted, rfl, Utf8.encode "[z-a]\n", by decide +kernel, by decide +kernel⟩
  have hparse := parse_eq_error_iff.2 (.inr ⟨_, hfile, rfl, hreads, hmeets⟩)
  exact ⟨s, rfl, hparse, analyze_eq_error_iff.2 hparse⟩

end Main

end Service

end Conformance
