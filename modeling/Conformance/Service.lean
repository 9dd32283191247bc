import Conformance.Assembly
import Conformance.Cache
import Conformance.Extraction
import Conformance.Resolution.Rules
import Conformance.Scan
import Conformance.Syntax.Grammar

/-!
# The analysis service

Answers requests about files: the package of a file is read from its directory, or from the parent
directory where there is none, and is kept in a cache for later requests.

**Languages.**  The language of the file patterns and the grammar of the source files are not the
business of the service: it works with any (`PatternLanguage`, `Grammar`).

**Surroundings.**  A request is answered in a `World`: the files there are, whether the grammar can
be loaded, and the time.  The service itself keeps its options, the cache, whether the grammar has
been loaded, and a count of the results that it has computed.

**Revisions.**  A result that is computed gets a number of its own, so that an answer from the cache
can be told from a new one.  Empty results have no number and are never kept.

**Failures.**  Faults that are met while a package is read are answered by an empty result, as far
as they are tolerated (`Fault.isTolerated`).  A path is made absolute before that, so a request
fails if its path is relative and the working directory has been removed.

**Results.**
* `surveyDirectory_path`: a package that is read from a directory lies under that directory;
* `parse_of_absolute`, `parse_of_not_absolute`: a request speaks of an absolute path, or fails;
* `answer_of_fresh`: a fresh result in the cache is the answer.
-/

namespace Conformance

/-- What a request is answered in. -/
structure World where
  tree : FileTree
  /-- Why the grammar cannot be loaded, if it cannot. -/
  grammarFault : Option String
  now : Double

/-- A result, and its number if it is not empty. -/
structure Revision where
  number : Option Nat
  result : Result

namespace Revision

/-- The empty result. -/
def empty : Revision := ⟨none, .empty⟩

instance : Inhabited Revision := ⟨empty⟩

instance : HasHome Revision := ⟨fun r => r.result.home?⟩

end Revision

/-- The state of the service. -/
structure Service [PatternLanguage] where
  options : Options
  excluded : List Pattern
  cache : Cache Revision := .empty
  /-- Whether the grammar could be loaded, once that has been tried. -/
  grammarReady : Option Bool := none
  /-- The number of results computed so far. -/
  computed : Nat := 0

namespace Service

section Reading

variable [Grammar]

/--
The facts of the file that a path leads to; none, if there is no such file or the grammar refuses
it.
-/
def readFile (t : FileTree) (path : String) : Logged FileFacts :=
  match t.read? path with
  | none => pure { file := path }
  | some bytes =>
      match Grammar.parse bytes with
      | .error reason => do
          Logged.tell (.unparsable path reason)
          pure { file := path }
      | .ok root =>
          let facts := Extraction.factsOfTree path root
          ⟨facts,
            if facts.isEmpty then [.noPackageClause path]
            else if root.hasError then [.mistakes path]
            else []⟩

/-- The facts of several files, in order. -/
def readFiles (t : FileTree) : List String → Logged (List FileFacts)
  | [] => pure []
  | path :: rest => do
      let facts ← readFile t path
      let more ← readFiles t rest
      pure (facts :: more)

variable [PatternLanguage]

/-- The package of a directory, named by the target file if there is one. -/
def surveyDirectory (s : Service) (t : FileTree) (dir : String) (target : Option String) :
    Logged (Except Fault (Option Package)) := do
  match ← Scan.scan s.options s.excluded t dir with
  | .error fault => pure (.error fault)
  | .ok paths =>
      let files ← readFiles t paths
      let package := Assembly.assemble dir files target
      Logged.tellAll (Assembly.events files package)
      pure (.ok package)

/-- The package of a file: that of its directory, or else that of the parent directory. -/
def survey (s : Service) (t : FileTree) (file : String) :
    Logged (Except Fault (Option Package)) := do
  let dir := Path.parent file
  let parent := Path.parent dir
  match ← surveyDirectory s t dir (some file) with
  | .ok none =>
      if s.options.fallback && parent != dir then
        Logged.tell (.tryingParent dir parent)
        surveyDirectory s t parent none
      else pure (.ok none)
  | answer => pure answer

end Reading

section Requests

variable [PatternLanguage]

/-- A new service; there is none if one of the patterns of the options is at fault. -/
def create (o : Options) : Except Fault Service :=
  match Pattern.readAll o.exclude with
  | .error fault => .error (.line fault)
  | .ok excluded => .ok { options := o, excluded }

/-- Tries to load the grammar, unless that has been tried, and says whether it is there. -/
def ensureGrammar (w : World) (s : Service) : Logged (Bool × Service) :=
  match s.grammarReady with
  | some ready => pure (ready, s)
  | none =>
      match w.grammarFault with
      | none => pure (true, { s with grammarReady := some true })
      | some reason =>
          ⟨(false, { s with grammarReady := some false }),
            [.grammarMissing (Fault.grammarMissing reason).message]⟩

variable [Grammar]

/-- The answer that is not in the cache, for the absolute path of a file. -/
def compute (w : World) (file : String) (s : Service) :
    Logged (Except Fault Revision × Service) := do
  let (ready, s) ← ensureGrammar w s
  if !ready then pure (.ok .empty, s)
  else if !w.tree.isFile file then
    Logged.tell (.fileMissing file)
    pure (.ok .empty, s)
  else
    match ← survey s w.tree file with
    | .error fault =>
        if fault.isTolerated then
          Logged.tell (.parseFailed file fault.message)
          pure (.ok .empty, s)
        else pure (.error fault, s)
    | .ok none =>
        Logged.tell (.noPackage file)
        pure (.ok .empty, s)
    | .ok (some package) =>
        let revision : Revision := ⟨some s.computed, .ofPackage package⟩
        Logged.tell (.parsed file revision.result.packages.size)
        pure (.ok revision,
          { s with cache := s.cache.put w.now file revision, computed := s.computed + 1 })

/-- The answer for the absolute path of a file. -/
def answer (w : World) (file : String) (s : Service) :
    Logged (Except Fault Revision × Service) :=
  match s.cache.get s.options.lifetimes w.now file with
  | (some revision, cache) => pure (.ok revision, { s with cache })
  | (none, _) => compute w file s

/-- The package of a file. -/
def parse (w : World) (path : String) (s : Service) : Logged (Except Fault Revision × Service) :=
  match w.tree.absolute? path with
  | none => pure (.error .noWorkingDirectory, s)
  | some file => answer w file s

/-- The package of a file and the implementations in it. -/
def analyze (w : World) (path : String) (s : Service) :
    Logged (Except Fault (Revision × Resolution) × Service) := do
  match ← parse w path s with
  | (.error fault, s) => pure (.error fault, s)
  | (.ok revision, s) =>
      let resolution ← Resolution.logged s.options revision.result
      pure (.ok (revision, resolution), s)

/-- Forgets what is kept for a file, or everything if no file is given. -/
def invalidate (w : World) (path : Option String) (s : Service) : Except Fault Service :=
  match path.filter fun p => !p.isEmpty with
  | none => .ok { s with cache := s.cache.clear }
  | some p =>
      match w.tree.absolute? p with
      | none => .error .noWorkingDirectory
      | some file => .ok { s with cache := s.cache.invalidate file }

/-- The facts of a single file, which need the grammar if there is such a file. -/
def parseFile (w : World) (path : String) (_s : Service) : Logged (Except Fault FileFacts) :=
  if w.tree.isFile path then
    match w.grammarFault with
    | some reason => pure (.error (.grammarMissing reason))
    | none => .ok <$> readFile w.tree path
  else pure (.ok { file := path })

/-- The source files of a directory. -/
def scan (w : World) (dir : String) (s : Service) : Logged (Except Fault (List String)) :=
  Scan.scan s.options s.excluded w.tree dir

end Requests

section Lemmas

variable [PatternLanguage] [Grammar] {w : World} {path file : String} {s : Service}

/-- A package that is read from a directory lies under that directory. -/
theorem surveyDirectory_path {t : FileTree} {dir : String} {target : Option String}
    {p : Package} (h : (surveyDirectory s t dir target).value = .ok (some p)) : p.path = dir := by
  rw [surveyDirectory, Logged.value_bind] at h
  split at h
  · cases h
  · simp only [Logged.value_bind, Logged.value_pure, Except.ok.injEq] at h
    exact Assembly.assemble_path h

/-- A request is answered for the absolute path that it speaks of. -/
theorem parse_of_absolute (h : w.tree.absolute? path = some file) :
    parse w path s = answer w file s := by
  rw [parse, h]

/-- A request fails if its path has no directory to start from. -/
theorem parse_of_not_absolute (h : w.tree.absolute? path = none) :
    (parse w path s).value = (.error .noWorkingDirectory, s) := by
  rw [parse, h]
  rfl

/-- A fresh result in the cache is the answer. -/
theorem answer_of_fresh {r : Revision} {cache : Cache Revision}
    (h : s.cache.get s.options.lifetimes w.now file = (some r, cache)) :
    (answer w file s).value = (.ok r, { s with cache }) := by
  simp [answer, h]

end Lemmas

end Service
end Conformance
