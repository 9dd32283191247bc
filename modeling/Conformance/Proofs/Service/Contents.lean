import Conformance.Proofs.Cache.Runs
import Conformance.Proofs.Extraction.Records
import Conformance.Proofs.Files.Admission
import Conformance.Proofs.Service.Transparency

/-!
# What the answers hold

Whatever a service answers has come a long way: from the trees of source files, through the files of
a directory and possibly its parent, into one tier of the cache and from there into the other.  This
module says what can be relied on at the end of it.

**Sources.**  `SourceOf` are the paths of the files that a package of a directory may be made up
from: a name with one of the endings, right below that directory.

**Invariant.**  `Grounded`: every entry of both tiers holds one package, under its own path, and all
records of that package are grounded in the sources of its directory.

**Results.**
* `grounded_of_assemble`, `package?_grounded`: a package that is read is grounded;
* `grounded_run`: the invariant holds after every history;
* `answers_are_grounded`: so every answer that is not empty is one grounded package.
-/

namespace Conformance
namespace Service

section Reading

/-- The paths right below a directory whose names have one of the endings. -/
def SourceOf (o : Options) (dir file : String) : Prop :=
  ∃ name, name ≠ "" ∧ '/' ∉ name.toList ∧ Scan.hasEnding o.extensions name = true ∧
    file = Path.join dir name

theorem grounded_readFile [Grammar] {t : FileTree} (path : String) :
    (readFile t path).value.findings.Grounded (· = path) := by
  rw [readFile]
  cases t.read? path with
  | none => exact .empty
  | some bytes =>
      dsimp only
      cases Grammar.parse bytes with
      | error reason => exact .empty
      | ok root => exact Extraction.grounded_factsOfTree root

/-- A package that is made up from grounded findings is grounded. -/
theorem grounded_of_assemble {lies : String → Prop} {dir : String} {files : List FileFacts}
    {target : Option String} {package : Package}
    (h : Assembly.assemble dir files target = some package)
    (hfiles : ∀ f ∈ files, f.findings.Grounded lies) : package.findings.Grounded lies := by
  obtain ⟨name, -, rfl⟩ := Option.map_eq_some_iff.1 h
  refine .concat fun findings hfindings => ?_
  obtain ⟨f, hf, rfl⟩ := List.mem_map.1 hfindings
  exact hfiles f (List.mem_filter.1 hf).1

variable [PatternLanguage] [Grammar] {o : Options} {excluded : List Pattern} {t : FileTree}
  {w : World} {dir file : String} {files : List FileFacts} {package : Package}

/-- The facts of a directory are grounded in its sources. -/
theorem grounded_of_mem_factsOf (h : factsOf o excluded t dir = .ok files) {f : FileFacts}
    (hf : f ∈ files) : f.findings.Grounded (SourceOf o dir) := by
  obtain ⟨paths, hscan, rfl⟩ := factsOf_eq_ok_iff.1 h
  obtain ⟨path, hpath, rfl⟩ := List.mem_map.1 hf
  obtain ⟨name, hadmits, hjoin⟩ := (Scan.mem_scan_iff hscan).1 hpath
  refine (grounded_readFile path).mono fun file heq => ?_
  rw [heq, ← hjoin]
  exact ⟨name, hadmits.ne_empty, hadmits.slashless, hadmits.ending, rfl⟩

/-- A package that is read is grounded in the sources of its directory. -/
theorem package?_grounded (h : package? o excluded w file = .ok (some package)) :
    package.findings.Grounded (SourceOf o package.path) := by
  obtain ⟨files, target, hfiles, hassemble, -⟩ := package?_source h
  exact grounded_of_assemble hassemble fun f hf => grounded_of_mem_factsOf hfiles hf

end Reading

end Service

namespace Moment

open Double Service

section Invariant

/-- One package under its own path, grounded in the sources of its directory. -/
def IsGrounded (o : Options) (r : Result) : Prop :=
  ∃ p : Package, r.packages.entries = [(p.path, p)] ∧ p.findings.Grounded (SourceOf o p.path)

theorem isGrounded_ofPackage {o : Options} {p : Package}
    (h : p.findings.Grounded (SourceOf o p.path)) :
    IsGrounded o (.ofPackage p) :=
  ⟨p, rfl, h⟩

variable [PatternLanguage] {o : Options} {excluded : List Pattern} {fault : Option String}
  {m : Moment}

/-- Both tiers hold grounded packages only. -/
structure Grounded (o : Options) (excluded : List Pattern) (fault : Option String) (m : Moment) :
    Prop where
  configured : Configured o excluded fault m
  entries : m.service.cache.Entrywise (fun _ e => IsGrounded o e.value.result)
    (fun _ e => IsGrounded o e.value.result) (fun _ _ => True)

theorem grounded_start (o : Options) (excluded : List Pattern) (w : World) :
    Grounded o excluded w.grammarFault (start o excluded w) :=
  ⟨configured_start o excluded w, Cache.entrywise_empty⟩

variable [Grammar]

/-- A request copies a grounded package, or reads one; nothing else adds any. -/
theorem grounded_after (h : Grounded o excluded fault m) (a : Action) :
    Grounded o excluded fault (m.after a) := by
  refine ⟨configured_after h.configured a, ?_⟩
  cases a with
  | parse path =>
      refine entrywise_parse h.configured h.entries path ?_ ?_
      · intro file hfile e he
        obtain ⟨he, -⟩ := Cache.fresh?_eq_some_iff.1 he
        exact ⟨h.entries.packages _ e he, trivial⟩
      · intro file hfile package e hpackage htime hresult
        have hgrounded : IsGrounded o e.value.result := by
          rw [hresult]
          exact isGrounded_ofPackage (package?_grounded hpackage)
        exact ⟨hgrounded, hgrounded, trivial⟩
  | invalidate path => exact entrywise_invalidate h.entries path
  | wait time =>
      rw [after]
      split
      · exact h.entries
      · exact h.entries
  | change tree => exact h.entries

/-- Both tiers hold grounded packages after every history. -/
theorem grounded_run (h : Grounded o excluded fault m) (actions : List Action) :
    Grounded o excluded fault (m.run actions) :=
  run_induction h fun _ a _ hm => grounded_after hm a

theorem Grounded.answer (h : Grounded o excluded fault m) {path : String} {r : Result}
    (hanswer : m.answer path = .ok r) (hr : r.isEmpty = false) : IsGrounded o r := by
  obtain ⟨file, hfile⟩ := exists_absolute_of_answer hanswer
  cases hget : (m.service.cache.get o.lifetimes m.world.now file).1 with
  | some revision =>
      rw [answer_of_hit h.configured hfile hget] at hanswer
      cases hanswer
      obtain ⟨e, rfl, ⟨he, -⟩ | ⟨he, -⟩⟩ := Cache.entry_of_get hget
      · exact h.entries.files _ e he
      · exact h.entries.packages _ e he
  | none =>
      rw [answer_of_miss h.configured hfile hget] at hanswer
      cases hpackage : package? o excluded m.world file with
      | error fault =>
          rw [hpackage] at hanswer
          cases hanswer
      | ok found =>
          rw [hpackage] at hanswer
          cases hanswer
          cases found with
          | none => cases hr
          | some package => exact isGrounded_ofPackage (package?_grounded hpackage)

end Invariant

section Main

/--
**What the answers hold.**  After every history, an answer that is not empty holds exactly one
package, under its own path, and whatever the package holds lies in a file right below that path
whose name has one of the endings: every interface with its methods, every struct with its fields,
every method and every directive.  Every embedded field is named like its type and has a name, every
method has a receiver with a name, and no interface embeds a nameless one.
-/
theorem answers_are_grounded [PatternLanguage] [Grammar] (o : Options) (excluded : List Pattern)
    (w : World) (actions : List Action) (path : String) (r : Result)
    (hanswer : ((start o excluded w).run actions).answer path = .ok r) (hr : r.isEmpty = false) :
    ∃ p : Package, r.packages.entries = [(p.path, p)] ∧
      p.findings.Grounded fun file =>
        ∃ name, name ≠ "" ∧ '/' ∉ name.toList ∧ Scan.hasEnding o.extensions name = true ∧
          file = Path.join p.path name :=
  (grounded_run (grounded_start o excluded w) actions).answer hanswer hr

/-- The working directory holds a struct that embeds a type, and a method of it. -/
def embeddingWorld : World where
  tree :=
    { entries := .ofList [("/", .directory), ("/w", .directory),
        ("/w/a.go", .file (Utf8.encode
          "package a\ntype S struct \x7b\n\tT\n\x7d\nfunc (s *S) M() \x7b\x7d\n"))]
      workingDirectory := some "/w" }
  grammarFault := none
  now := 1000

/-- The package of a struct is kept, and is the answer for a file that is not there. -/
theorem kept_package_is_grounded :
    let fields (r : Result) : List (List String) :=
      r.findings.flatMap fun f => f.structs.map fun s => s.fields.map (·.name)
    ∃ (r : Result) (p : Package),
      ((start {} [] embeddingWorld).run [.parse "a.go"]).answer "b.go" = .ok r ∧
        r.isEmpty = false ∧ fields r = [["T"]] ∧ r.packages.entries = [(p.path, p)] ∧
        p.findings.Grounded fun file =>
          ∃ name, name ≠ "" ∧ '/' ∉ name.toList ∧ Scan.hasEnding [".go"] name = true ∧
            file = Path.join p.path name := by
  intro fields
  let files := (readFiles embeddingWorld.tree ["/w/a.go"]).value
  have hfile : embeddingWorld.tree.absolute? "a.go" = some "/w/a.go" := by decide +kernel
  have hother : embeddingWorld.tree.absolute? "b.go" = some "/w/b.go" := by decide +kernel
  have hpackage : package? {} [] embeddingWorld "/w/a.go"
      = .ok (some ⟨"/w", "a", findingsOf "a" files⟩) := by
    have hlists : Lists {} [] embeddingWorld.tree "/w" "/w" ["a.go"] ["/w/a.go"] := by
      decide +kernel
    have hparent : Path.parent "/w/a.go" = "/w" := by decide +kernel
    have hfacts := factsOf_of_lists hlists
    rw [← hparent] at hfacts ⊢
    exact package?_of_own rfl (by decide +kernel) hfacts (by decide +kernel)
  have hclock : embeddingWorld.now = .finite false (1000 <<< unitScale) := by decide +kernel
  have hpath : "/w" = Path.parent "/w/b.go" := by decide +kernel
  have hanswer : ((start {} [] embeddingWorld).run [.parse "a.go"]).answer "b.go"
      = .ok (.ofPackage ⟨"/w", "a", findingsOf "a" files⟩) :=
    answer_after_parse hclock (by decide +kernel) hfile hother hpackage hpath (by decide)
  obtain ⟨p, hentries, hgrounded⟩ :=
    answers_are_grounded {} [] embeddingWorld [.parse "a.go"] "b.go" _ hanswer rfl
  exact ⟨_, p, hanswer, rfl, by decide +kernel, hentries, hgrounded⟩

end Main

end Moment
end Conformance
