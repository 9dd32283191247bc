import Conformance.Pattern.Wildcard
import Conformance.Proofs.Service.Reading
import Conformance.Source.Outline

/-!
# What is left after an invalidation

Invalidating a file forgets the package under which the file is recorded.  A lookup right afterwards
has no record any more and looks into the directory of the file, which may be another package.

**Left behind.**  `Cache.leftBehind` is the entry that such a lookup finds.  It exists only if the
file is recorded under another package than its own directory, and the directory has a package of
its own by now.

**Results.**
* `get_invalidate`: a lookup right after an invalidation gives what is left behind;
* `recorded_run`: a file is recorded under its own directory or, after a fallback, under the parent;
* `answer_after_invalidate_of_fallback`: how a result is left behind and given out;
* `invalidate_then_parse_iff`: an invalidation makes the next request read the files exactly if
  nothing is left behind, and without the fallback nothing ever is.
-/

namespace Conformance

namespace Cache

variable {ρ : Type} {l : Lifetimes} {now : Double} {file : String} {c : Cache ρ}

/-- The entry that a lookup of a file finds right after the file was invalidated. -/
def leftBehind (l : Lifetimes) (now : Double) (file : String) (c : Cache ρ) : Option (Stored ρ) :=
  if c.ownerOf file = Path.parent file then none
  else fresh? l.package now c.packages (Path.parent file)

theorem get_invalidate (l : Lifetimes) (now : Double) (file : String) (c : Cache ρ) :
    ((c.invalidate file).get l now file).1 = (c.leftBehind l now file).map (·.value) := by
  have hfile : fresh? l.file now (c.invalidate file).files file = none := by
    rw [fresh?, invalidate, OrderedMap.get?_filterKeys]
    simp
  have howner : (c.invalidate file).ownerOf file = Path.parent file := by
    rw [ownerOf, OrderedMap.getD, invalidate, OrderedMap.get?_filterKeys]
    simp
  have hpackage : fresh? l.package now (c.invalidate file).packages
      ((c.invalidate file).ownerOf file) = c.leftBehind l now file := by
    rw [howner, leftBehind, fresh?, invalidate, OrderedMap.get?_erase]
    by_cases h : c.ownerOf file = Path.parent file
    · rw [if_pos h, if_pos h.symm]
      rfl
    · have h' : ¬ Path.parent file = c.ownerOf file := fun heq => h heq.symm
      rw [if_neg h, if_neg h', fresh?]
  cases hleft : c.leftBehind l now file with
  | none =>
      rw [hleft] at hpackage
      rw [get_of_none hfile hpackage]
      rfl
  | some e =>
      rw [hleft] at hpackage
      rw [get_of_package hfile hpackage]
      rfl

/-- Whatever is left behind, the file was recorded under another package than its directory. -/
theorem recorded_of_leftBehind {e : Stored ρ} (h : c.leftBehind l now file = some e) :
    c.ownerOf file ≠ Path.parent file ∧ c.owners.get? file = some (c.ownerOf file) := by
  have hne : c.ownerOf file ≠ Path.parent file := by
    intro heq
    rw [leftBehind, if_pos heq] at h
    cases h
  refine ⟨hne, ?_⟩
  cases howner : c.owners.get? file with
  | none =>
      rw [ownerOf, OrderedMap.getD, howner] at hne
      exact absurd rfl hne
  | some owner =>
      rw [ownerOf, OrderedMap.getD, howner]
      rfl

/-- A result of the directory of a file is left behind if the file is recorded elsewhere. -/
theorem leftBehind_put [HasHome ρ] {g : String} {value : ρ}
    (h : HasHome.home? value = some (Path.parent file)) (hne : g ≠ file)
    (howner : c.ownerOf file ≠ Path.parent file)
    (hfresh : isFresh l.package now ⟨now, value⟩ = true) :
    (c.put now g value).leftBehind l now file = some ⟨now, value⟩ := by
  rw [leftBehind, ownerOf_put_of_ne hne, if_neg howner]
  exact fresh?_packages_put_self h hfresh

end Cache

namespace Moment

open Double Service

section Records

/-- A file is recorded under its own directory or, after a fallback, under the parent of that. -/
def RecordedNear (o : Options) (file dir : String) : Prop :=
  dir = Path.parent file
  ∨
  (o.fallback = true ∧ dir = Path.parent (Path.parent file) ∧ dir ≠ Path.parent file)

variable [PatternLanguage] {o : Options} {excluded : List Pattern} {fault : Option String}
  {m : Moment}

/-- The invariant of all histories. -/
structure Recorded (o : Options) (excluded : List Pattern) (fault : Option String) (m : Moment) :
    Prop where
  configured : Configured o excluded fault m
  entries : m.service.cache.Entrywise (fun _ _ => True) (fun _ _ => True) (RecordedNear o)

theorem Recorded.ownerOf (h : Recorded o excluded fault m) (file : String) :
    RecordedNear o file (m.service.cache.ownerOf file) := by
  rw [Cache.ownerOf, OrderedMap.getD]
  cases howner : m.service.cache.owners.get? file with
  | none => exact .inl rfl
  | some dir => exact h.entries.owners file dir howner

variable [Grammar]

theorem recorded_after (h : Recorded o excluded fault m) (a : Action) :
    Recorded o excluded fault (m.after a) := by
  refine ⟨configured_after h.configured a, ?_⟩
  cases a with
  | parse path =>
      refine entrywise_parse h.configured h.entries path ?_ ?_
      · intro file hfile e he
        exact ⟨trivial, h.ownerOf file⟩
      · intro file hfile package e hpackage htime hresult
        refine ⟨trivial, trivial, ?_⟩
        obtain ⟨files, target, -, -, ⟨-, hown⟩ | ⟨-, hparent⟩⟩ := package?_source hpackage
        · exact .inl hown
        · exact .inr hparent
  | invalidate path => exact entrywise_invalidate h.entries path
  | wait time =>
      rw [after]
      split
      next => exact h.entries
      next => exact h.entries
  | change tree => exact h.entries

theorem recorded_run (o : Options) (excluded : List Pattern) (w : World) (actions : List Action) :
    Recorded o excluded w.grammarFault ((start o excluded w).run actions) :=
  run_induction ⟨configured_start o excluded w, Cache.entrywise_empty⟩
    fun _ a _ hm => recorded_after hm a

end Records

section Requests

variable [PatternLanguage]

/-- The entry that a request finds right after its file was invalidated; an empty path stands for
everything. -/
def leftBehind (o : Options) (m : Moment) (path : String) : Option (Stored Revision) :=
  if path.isEmpty then none
  else
    (m.world.tree.absolute? path).bind fun file =>
      m.service.cache.leftBehind o.lifetimes m.world.now file

theorem leftBehind_of_absolute {m : Moment} {path file : String}
    (hpath : path.isEmpty = false) (hfile : m.world.tree.absolute? path = some file) (o : Options) :
    leftBehind o m path = m.service.cache.leftBehind o.lifetimes m.world.now file := by
  rw [leftBehind, hpath, if_neg Bool.false_ne_true, hfile]
  rfl

theorem leftBehind_of_not_absolute {m : Moment} {path : String}
    (hfile : m.world.tree.absolute? path = none) (o : Options) : leftBehind o m path = none := by
  rw [leftBehind, hfile]
  exact ite_self _

theorem get_after_invalidate [Grammar] {m : Moment} {path file : String}
    (hfile : m.world.tree.absolute? path = some file) (o : Options) :
    ((m.after (.invalidate (some path))).service.cache.get o.lifetimes m.world.now file).1
      = (leftBehind o m path).map (·.value) := by
  rw [after, Service.invalidate]
  cases hempty : path.isEmpty with
  | true =>
      have hnone : (some path).filter (fun p => !p.isEmpty) = none := by
        simp [Option.filter, hempty]
      rw [hnone, leftBehind, hempty, if_pos rfl]
      rfl
  | false =>
      have hsome : (some path).filter (fun p => !p.isEmpty) = some path := by
        simp [Option.filter, hempty]
      rw [hsome, leftBehind_of_absolute hempty hfile]
      dsimp only
      rw [hfile]
      exact Cache.get_invalidate o.lifetimes m.world.now file m.service.cache

end Requests

section Fallback

variable [PatternLanguage] [Grammar] {o : Options} {excluded : List Pattern} {w : World}
  {t t' : FileTree} {path path' file file' : String} {package package' : Package}

/--
A file falls back to another directory, its own directory gets a package, and the files change
again.  Then the package that was read in between is given out even if the file is invalidated.
-/
theorem answer_after_invalidate_of_fallback {s : Bool} {k : Nat} (hnow : w.now = .finite s k)
    (hpositive : (0 : Double).lt o.packageLifetime = true) (hpath : path.isEmpty = false)
    (hfile : w.tree.absolute? path = some file) (hfile' : t.absolute? path' = some file')
    (hlast : t'.absolute? path = some file)
    (hpackage : package? o excluded w file = .ok (some package))
    (hpackage' : package? o excluded { w with tree := t } file' = .ok (some package'))
    (hne : file ≠ file')
    (hdir : package'.path = Path.parent file) (hdir' : package'.path = Path.parent file')
    (hfallback : package.path ≠ package'.path) :
    ((start o excluded w).run [.parse path, .change t, .parse path', .change t',
      .invalidate (some path)]).answer path = .ok (.ofPackage package') := by
  have hstart := configured_start o excluded w
  -- The first request records the file under the other directory.
  obtain ⟨s₁, r₁, hafter₁, hresult₁, hcache₁⟩ := after_parse_of_miss hstart hfile
    (rfl : (Cache.get o.lifetimes w.now file .empty).1 = none) hpackage
  have hhome₁ : HasHome.home? r₁ = some package.path := home?_of_result hresult₁
  have hconfigured₁ := configured_after (configured_after hstart (.parse path)) (.change t)
  rw [hafter₁] at hconfigured₁
  have hmiss : (s₁.cache.get o.lifetimes w.now file').1 = none := by
    rw [hcache₁]
    refine Cache.get_put_of_elsewhere hhome₁ hne ?_ rfl
    rw [hdir'] at hfallback
    exact hfallback
  -- The second one stores a package for the file's own directory, but leaves the record alone.
  obtain ⟨s₂, r₂, hafter₂, hresult₂, hcache₂⟩ :=
    after_parse_of_miss hconfigured₁ hfile' hmiss hpackage'
  have hhome₂ : HasHome.home? r₂ = some (Path.parent file) := by
    rw [← hdir]
    exact home?_of_result hresult₂
  have hconfigured₂ := configured_after (configured_after (configured_after hconfigured₁
    (.parse path')) (.change t')) (.invalidate (some path))
  have hcache : s₂.cache
      = ((Cache.empty : Cache Revision).put w.now file r₁).put w.now file' r₂ := by
    rw [hcache₂]
    show s₁.cache.put w.now file' r₂ = _
    rw [hcache₁]
    rfl
  have hfresh : Cache.isFresh o.lifetimes.package w.now ⟨w.now, r₂⟩ = true :=
    Cache.isFresh_now hpositive hnow rfl
  rw [hafter₂] at hconfigured₂
  rw [run_cons, hafter₁, run_cons, run_cons, hafter₂, run_cons, run_cons, run_nil]
  have hleft : leftBehind o ⟨{ w with tree := t' }, s₂⟩ path = some ⟨w.now, r₂⟩ := by
    rw [leftBehind_of_absolute hpath hlast, hcache]
    refine Cache.leftBehind_put hhome₂ hne.symm ?_ hfresh
    rw [Cache.ownerOf_put_self hhome₁, ← hdir]
    exact hfallback
  have hget := get_after_invalidate (m := ⟨{ w with tree := t' }, s₂⟩) hlast o
  rw [hleft] at hget
  rw [answer_of_hit hconfigured₂ hlast hget, hresult₂]

end Fallback

section Example

/-- A file without a package clause lies below a package, with further files beside it. -/
def nestedTree (beside : List (String × FileEntry)) : FileTree where
  entries := .ofList ([("/", .directory), ("/w", .directory),
    ("/w/root.go", .file (Utf8.encode "package root\n")), ("/w/sub", .directory),
    ("/w/sub/f.go", .file (Utf8.encode "// c\n"))] ++ beside)
  workingDirectory := some "/w"

/-- There is nothing beside the file without a package clause. -/
def nestedWorld : World where
  tree := nestedTree []
  grammarFault := none
  now := 1000

/-- There is a file of this content beside the one without a package clause. -/
def grownTree (content : String) : FileTree :=
  nestedTree [("/w/sub/g.go", .file (Utf8.encode content))]

theorem package?_nestedWorld :
    ∃ findings, package? {} [] nestedWorld "/w/sub/f.go"
      = .ok (some ⟨"/w", "root", findings⟩) := by
  have hsub : Path.parent "/w/sub/f.go" = "/w/sub" := by decide +kernel
  have hroot : Path.parent (Path.parent "/w/sub/f.go") = "/w" := by decide +kernel
  have hlists : Lists {} [] nestedWorld.tree "/w/sub" "/w/sub" ["f.go"] ["/w/sub/f.go"] := by
    decide +kernel
  have hlists' : Lists {} [] nestedWorld.tree "/w" "/w" ["root.go", "sub"] ["/w/root.go"] := by
    decide +kernel
  have hown := factsOf_of_lists hlists
  have hfacts := factsOf_of_lists hlists'
  have hname : Assembly.chooseName (readFiles nestedWorld.tree ["/w/root.go"]).value none
      = some "root" := by decide +kernel
  rw [← hsub] at hown
  rw [← hroot] at hfacts
  rw [← hroot]
  exact ⟨_, package?_of_parent rfl (by decide +kernel) rfl (by decide +kernel) hown
    (by decide +kernel) hfacts hname⟩

/-- Beside a file of a package, the file without a package clause has that package too. -/
theorem package?_grownTree {content path name : String}
    (hlists : Lists {} [] (grownTree content) "/w/sub" "/w/sub" ["f.go", "g.go"]
      ["/w/sub/f.go", "/w/sub/g.go"])
    (hfile : (grownTree content).isFile path = true) (hparent : Path.parent path = "/w/sub")
    (hname : Assembly.chooseName
        (readFiles (grownTree content) ["/w/sub/f.go", "/w/sub/g.go"]).value (some path)
      = some name) :
    ∃ findings, package? {} [] { nestedWorld with tree := grownTree content } path
      = .ok (some ⟨"/w/sub", name, findings⟩) := by
  have hfacts := factsOf_of_lists hlists
  rw [← hparent] at hfacts ⊢
  exact ⟨_, package?_of_own rfl hfile hfacts hname⟩

end Example

section Main

/--
**Invalidation.**  After any history, when a file is invalidated, the cache misses it exactly if
nothing is left behind, and a request is answered like by a new service exactly if what is left
behind is nothing else.  Whatever is left behind comes from a fallback: the file was recorded under
the parent of its directory.
-/
theorem invalidate_then_parse_iff [PatternLanguage] [Grammar] (o : Options)
    (excluded : List Pattern) (w : World) (actions : List Action) (path : String) :
    let m := (start o excluded w).run actions
    let m' := m.after (.invalidate (some path))
    (∀ file, m.world.tree.absolute? path = some file →
      ((m'.service.cache.get o.lifetimes m'.world.now file).1 = none ↔ leftBehind o m path = none))
    ∧
    (m'.answer path = fresh o excluded m.world path ↔
      ∀ e, leftBehind o m path = some e →
        fresh o excluded m.world path = .ok e.value.result)
    ∧
    (∀ file, m.world.tree.absolute? path = some file → ∀ e, leftBehind o m path = some e →
      o.fallback = true ∧ Path.parent (Path.parent file) ≠ Path.parent file ∧
        m.service.cache.owners.get? file = some (Path.parent (Path.parent file))) := by
  intro m m'
  have hrecorded : Recorded o excluded w.grammarFault m := recorded_run o excluded w actions
  have hconfigured : Configured o excluded w.grammarFault m' :=
    configured_after hrecorded.configured (.invalidate (some path))
  have hworld : m'.world = m.world := rfl
  have hget : ∀ file, m.world.tree.absolute? path = some file →
      (m'.service.cache.get o.lifetimes m'.world.now file).1 =
        (leftBehind o m path).map (·.value) :=
    fun file hfile => get_after_invalidate hfile o
  refine ⟨?_, ?_, ?_⟩
  · intro file hfile
    rw [hget file hfile, Option.map_eq_none_iff]
  · cases hfile : m.world.tree.absolute? path with
    | none =>
        have hanswer : m'.answer path = .error .noWorkingDirectory := answer_of_not_absolute hfile
        have hfresh : fresh o excluded m.world path = .error .noWorkingDirectory :=
          answer_of_not_absolute hfile
        rw [leftBehind_of_not_absolute hfile, hanswer, hfresh]
        exact iff_of_true rfl (by rintro e ⟨⟩)
    | some file =>
        have hget := hget file hfile
        cases hleft : leftBehind o m path with
        | none =>
            rw [hleft] at hget
            rw [answer_of_miss hconfigured hfile hget, hworld, fresh_eq o excluded hfile]
            constructor
            · rintro - e ⟨⟩
            · intro _
              rfl
        | some e =>
            rw [hleft] at hget
            rw [answer_of_hit hconfigured hfile hget]
            constructor
            · rintro heq e' ⟨⟩
              exact heq.symm
            · intro h
              exact (h e rfl).symm
  · intro file hfile e he
    have hleft : m.service.cache.leftBehind o.lifetimes m.world.now file = some e := by
      rw [leftBehind, hfile] at he
      split at he
      · cases he
      · exact he
    obtain ⟨hne, howner⟩ := Cache.recorded_of_leftBehind hleft
    rcases hrecorded.ownerOf file with hown | ⟨hfallback, hparent, -⟩
    · exact absurd hown hne
    · rw [hparent] at hne howner
      exact ⟨hfallback, hne, howner⟩

/--
A file falls back to the package above, a file of another package comes to lie beside it, and this
one changes.  After the first file is invalidated, the answer is still the package as it was before.
-/
theorem invalidated_file_answered_as_before :
    let m := (start {} [] nestedWorld).run
      [.parse "sub/f.go", .change (grownTree "package sub\n"), .parse "sub/g.go",
        .change (grownTree "package other\n")]
    let m' := m.after (.invalidate (some "sub/f.go"))
    let names (r : Result) : List String := r.packageList.map (·.name)
    (m'.answer "sub/f.go").map names = .ok ["sub"]
    ∧
    (fresh {} [] m'.world "sub/f.go").map names = .ok ["other"]
    ∧
    m'.answer "sub/f.go" ≠ fresh {} [] m'.world "sub/f.go" := by
  intro m m' names
  let t := grownTree "package sub\n"
  let t' := grownTree "package other\n"
  have hfile : nestedWorld.tree.absolute? "sub/f.go" = some "/w/sub/f.go" := by decide +kernel
  have hlast : t'.absolute? "sub/f.go" = some "/w/sub/f.go" := by decide +kernel
  have hsibling : t.absolute? "sub/g.go" = some "/w/sub/g.go" := by decide +kernel
  obtain ⟨_, hroot⟩ := package?_nestedWorld
  obtain ⟨findings, hsub⟩ : ∃ findings, package? {} [] { nestedWorld with tree := t } "/w/sub/g.go"
      = .ok (some ⟨"/w/sub", "sub", findings⟩) :=
    package?_grownTree (by decide +kernel) (by decide +kernel) (by decide +kernel)
      (by decide +kernel)
  obtain ⟨findings', hother⟩ : ∃ findings,
      package? {} [] { nestedWorld with tree := t' } "/w/sub/f.go"
        = .ok (some ⟨"/w/sub", "other", findings⟩) :=
    package?_grownTree (by decide +kernel) (by decide +kernel) (by decide +kernel)
      (by decide +kernel)
  have hclock : nestedWorld.now = .finite false (1000 <<< unitScale) := by decide +kernel
  have hpositive : (0 : Double).lt ({} : Options).packageLifetime = true := by decide +kernel
  have hdir : "/w/sub" = Path.parent "/w/sub/f.go" := by decide +kernel
  have hdir' : "/w/sub" = Path.parent "/w/sub/g.go" := by decide +kernel
  have hfallback : "/w" ≠ "/w/sub" := by decide
  have hanswer : m'.answer "sub/f.go" = .ok (.ofPackage ⟨"/w/sub", "sub", findings⟩) :=
    answer_after_invalidate_of_fallback hclock hpositive (by decide +kernel) hfile hsibling hlast
      hroot hsub (by decide) hdir hdir' hfallback
  have hfresh : fresh {} [] m'.world "sub/f.go"
      = .ok (.ofPackage ⟨"/w/sub", "other", findings'⟩) :=
    (fresh_eq_ofPackage_iff hlast).2 hother
  rw [hanswer, hfresh]
  refine ⟨rfl, rfl, ?_⟩
  intro heq
  have hnames : ["sub"] = ["other"] := congrArg names (Except.ok.inj heq)
  exact absurd hnames (by decide)

end Main

end Moment
end Conformance
