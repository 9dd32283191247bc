import Conformance.Proofs.Cache.Runs
import Conformance.Proofs.Number.Rounding
import Conformance.Proofs.Service.Invalidation

/-!
# What is still stale when the lifetimes have passed

Entries of the cache grow too old, but the record of a file's package does not.  This module says
what a file is answered with when the files have not changed for as long as both lifetimes.

**Cause.**  A file that has fallen back to the parent of its directory stays recorded there.  Its
directory may come to hold a package of its own.  As soon as another file makes the parent's package
fresh again, the file is answered with that package, however long ago its directory was given one.

**Invariant.**  `Quiet`: whatever was stored since the last change is what a new service finds for
some file; whatever was recorded since then is the directory of the file, or where a new service
finds its package.

**Results.**
* `consistent_run`: the tiers of a service's cache agree after every history;
* `quiet_run`: the invariant holds as long as the files do not change;
* `answer_after_elapsed_of_fallback`: how an outgrown record is given out;
* `directory_of_settled`: once the lifetimes have passed, a file is answered from the directory that
  a new service finds exactly if its record is not outgrown.
-/

namespace Conformance

namespace Cache

open Double

variable {ρ : Type} [HasHome ρ] {l : Lifetimes} {t now : Double} {file : String} {c : Cache ρ}

theorem Consistent.fresh?_files_eq_none (h : Consistent t c) (hnow : NotAfter t now)
    (helapsed : (now.sub t).lt l.file = false) : fresh? l.file now c.files file = none := by
  rw [Option.eq_none_iff_forall_ne_some]
  intro e he
  obtain ⟨he, hfresh⟩ := fresh?_eq_some_iff.1 he
  rw [not_isFresh_of_elapsed (h.notAfter_of_file he) hnow helapsed] at hfresh
  cases hfresh

theorem Consistent.fresh?_packages_eq_none (h : Consistent t c) (hnow : NotAfter t now)
    (helapsed : (now.sub t).lt l.package = false) {dir : String} :
    fresh? l.package now c.packages dir = none := by
  rw [Option.eq_none_iff_forall_ne_some]
  intro e he
  obtain ⟨he, hfresh⟩ := fresh?_eq_some_iff.1 he
  rw [not_isFresh_of_elapsed (h.packages dir e he).2 hnow helapsed] at hfresh
  cases hfresh

end Cache

/-- The files stay as they are. -/
def Action.KeepsFiles : Action → Prop
  | .change _ => False
  | _ => True

namespace Moment

open Double Service

section Tiers

variable [PatternLanguage] [Grammar] {o : Options} {excluded : List Pattern}
  {fault : Option String} {m : Moment}

theorem consistent_after (h : Configured o excluded fault m)
    (hc : m.service.cache.Consistent m.world.now) (a : Action) :
    (m.after a).service.cache.Consistent (m.after a).world.now := by
  cases a with
  | parse path =>
      rcases after_parse_cases h path with hsame | ⟨file, -, hhit | ⟨found, -, hread⟩⟩
      · rw [hsame]
        exact hc
      · rw [hhit]
        exact Cache.consistent_get hc o.lifetimes m.world.now file
      · rw [hread]
        cases found with
        | none => exact hc
        | some package =>
            show Cache.Consistent m.world.now (m.service.cache.put m.world.now file
              ⟨some m.service.computed, .ofPackage package⟩)
            exact Cache.consistent_put hc _ _
  | invalidate path =>
      rcases after_invalidate_cases m path with hafter | hafter | ⟨file, hafter⟩
      · rw [hafter]
        exact hc
      · rw [hafter]
        exact Cache.consistent_empty m.world.now
      · rw [hafter]
        exact Cache.consistent_invalidate hc file
  | wait time =>
      rw [after]
      by_cases hlater : m.world.now.le time = true
      · rw [if_pos hlater]
        exact hc.mono (.inr hlater)
      · rw [if_neg hlater]
        exact hc
  | change tree => exact hc

/-- After every history the tiers agree. -/
theorem consistent_run (o : Options) (excluded : List Pattern) (w : World)
    (actions : List Action) :
    ((start o excluded w).run actions).service.cache.Consistent
      ((start o excluded w).run actions).world.now := by
  have hrun : ∀ m : Moment, Configured o excluded w.grammarFault m ∧
      m.service.cache.Consistent m.world.now → ∀ a,
        Configured o excluded w.grammarFault (m.after a) ∧
          (m.after a).service.cache.Consistent (m.after a).world.now :=
    fun m hm a => ⟨configured_after hm.1 a, consistent_after hm.1 hm.2 a⟩
  refine (run_induction (P := fun m => Configured o excluded w.grammarFault m ∧
    m.service.cache.Consistent m.world.now) ?_ fun m a _ hm => hrun m hm a).2
  exact ⟨configured_start o excluded w, Cache.consistent_empty w.now⟩

end Tiers

section Quiet

variable [PatternLanguage] [Grammar] {o : Options} {excluded : List Pattern} {w : World}
  {m : Moment} {c₀ : Cache Revision}

/-- A result that was there already, or else one that a new service finds for some file. -/
def Dated (o : Options) (excluded : List Pattern) (w : World) (e : Stored Revision) : Prop :=
  NotAfter e.time w.now ∨
    ∃ g package, package? o excluded w g = .ok (some package) ∧
      e.value.result = .ofPackage package

/-- A record that was there already, or the directory of the file, or where its package is found. -/
def DatedOwner (o : Options) (excluded : List Pattern) (w : World) (c₀ : Cache Revision)
    (file dir : String) : Prop :=
  c₀.owners.get? file = some dir ∨ dir = Path.parent file ∨
    ∃ package, package? o excluded w file = .ok (some package) ∧ package.path = dir

/-- The invariant of a history without changes of files, which started with a cache `c₀`. -/
structure Quiet (o : Options) (excluded : List Pattern) (w : World) (c₀ : Cache Revision)
    (m : Moment) : Prop where
  configured : Configured o excluded w.grammarFault m
  tree : m.world.tree = w.tree
  now : NotAfter w.now m.world.now
  entries : m.service.cache.Entrywise (fun _ => Dated o excluded w) (fun _ => Dated o excluded w)
    (DatedOwner o excluded w c₀)

theorem quiet_start {fault : Option String} (h : Configured o excluded fault m)
    (hc : m.service.cache.Consistent m.world.now) :
    Quiet o excluded m.world m.service.cache m := by
  refine ⟨?_, rfl, notAfter_refl _, ?_, ?_, ?_⟩
  · rw [h.fault]
    exact h
  · intro file e he
    exact .inl (hc.notAfter_of_file he)
  · intro dir e he
    exact .inl (hc.packages dir e he).2
  · intro file dir hdir
    exact .inl hdir

theorem Quiet.package?_eq (h : Quiet o excluded w c₀ m) (file : String) :
    package? o excluded m.world file = package? o excluded w file := by
  rw [package?, package?, h.tree, h.configured.fault]

theorem quiet_after (h : Quiet o excluded w c₀ m) {a : Action} (ha : a.KeepsFiles) :
    Quiet o excluded w c₀ (m.after a) := by
  have hconfigured := configured_after h.configured a
  cases a with
  | parse path =>
      refine ⟨hconfigured, h.tree, h.now, entrywise_parse h.configured h.entries path ?_ ?_⟩
      · intro file hfile e he
        refine ⟨h.entries.packages _ e (Cache.fresh?_eq_some_iff.1 he).1, ?_⟩
        cases howner : m.service.cache.owners.get? file with
        | none => exact .inr (.inl (Cache.ownerOf_of_get?_eq_none howner))
        | some dir =>
            rw [Cache.ownerOf_of_get?_eq_some howner]
            exact h.entries.owners file dir howner
      · intro file hfile package e hpackage htime hresult
        rw [h.package?_eq] at hpackage
        have hfound : Dated o excluded w e := .inr ⟨file, package, hpackage, hresult⟩
        exact ⟨hfound, hfound, .inr (.inr ⟨package, hpackage, rfl⟩)⟩
  | invalidate path => exact ⟨hconfigured, h.tree, h.now, entrywise_invalidate h.entries path⟩
  | wait time =>
      rw [after] at hconfigured ⊢
      by_cases hlater : m.world.now.le time = true
      · rw [if_pos hlater] at hconfigured ⊢
        exact ⟨hconfigured, h.tree, notAfter_trans h.now (.inr hlater), h.entries⟩
      · rw [if_neg hlater]
        exact h
  | change tree => exact ha.elim

/-- The invariant holds as long as the files do not change. -/
theorem quiet_run {fault : Option String} (h : Configured o excluded fault m)
    (hc : m.service.cache.Consistent m.world.now) {actions : List Action}
    (hactions : ∀ a ∈ actions, a.KeepsFiles) :
    Quiet o excluded m.world m.service.cache (m.run actions) :=
  run_induction (quiet_start h hc) fun _ a ha hm => quiet_after hm (hactions a ha)

end Quiet

section Directories

/-- The directory of the package that a request is answered with; none for an empty answer. -/
def directoryOf (answer : Except Fault Result) : Except Fault (Option String) :=
  answer.map (·.home?)

variable [PatternLanguage] [Grammar] {o : Options} {excluded : List Pattern} {w : World}
  {m : Moment} {path file : String} {g dir : String} {package : Package}

theorem directoryOf_fresh_eq_some_iff (hpath : w.tree.absolute? path = some file) :
    directoryOf (fresh o excluded w path) = .ok (some dir) ↔
      ∃ package, package? o excluded w file = .ok (some package) ∧ package.path = dir := by
  rw [fresh_eq o excluded hpath]
  cases package? o excluded w file with
  | error fault =>
      constructor
      · rintro ⟨⟩
      · rintro ⟨package, ⟨⟩, -⟩
  | ok found =>
      cases found with
      | none =>
          constructor
          · rintro ⟨⟩
          · rintro ⟨package, ⟨⟩, -⟩
      | some package =>
          constructor
          · intro h
            exact ⟨package, rfl, Option.some.inj (Except.ok.inj h)⟩
          · rintro ⟨package', heq, rfl⟩
            cases heq
            rfl

/-- A directory that holds a package for one file holds one for every target. -/
theorem surveyDirectory_of_package? (h : package? o excluded w g = .ok (some package))
    (target : Option String) :
    ∃ q, (surveyDirectory { options := o, excluded } w.tree package.path target).value
      = .ok (some q) := by
  obtain ⟨files, target', hfiles, hassemble, -⟩ := package?_source h
  have hnamed : Assembly.chooseName files target ≠ none := by
    intro hnone
    have hnone' : Assembly.chooseName files target' = none :=
      Assembly.chooseName_eq_none_iff.2 (Assembly.chooseName_eq_none_iff.1 hnone)
    rw [Assembly.assemble_name hassemble] at hnone'
    cases hnone'
  obtain ⟨name, hname⟩ := Option.ne_none_iff_exists'.1 hnamed
  refine ⟨⟨package.path, name, findingsOf name files⟩,
    surveyDirectory_eq_some_iff.2 ⟨files, hfiles, ?_⟩⟩
  rw [Assembly.assemble, hname]
  rfl

/-- What is found for a file whose own directory holds no package is what the parent holds. -/
theorem survey_of_parent (hfallback : o.fallback = true)
    (hne : Path.parent (Path.parent file) ≠ Path.parent file)
    (hown : (surveyDirectory { options := o, excluded } w.tree (Path.parent file)
      (some file)).value = .ok none) :
    (survey { options := o, excluded } w.tree file).value
      = (surveyDirectory { options := o, excluded } w.tree (Path.parent (Path.parent file))
          none).value := by
  have htried : (o.fallback && Path.parent (Path.parent file) != Path.parent file) = true := by
    rw [hfallback, Bool.true_and, bne_iff_ne]
    exact hne
  rw [survey_value, hown]
  simp only [htried, if_true]

/-- A file whose package is found elsewhere has none in its own directory. -/
theorem own_eq_none_of_elsewhere (h : package? o excluded w file = .ok (some package))
    (hne : package.path ≠ Path.parent file) :
    (surveyDirectory { options := o, excluded } w.tree (Path.parent file) (some file)).value
      = .ok none := by
  obtain ⟨-, -, hsurvey⟩ := package?_eq_some_iff.1 h
  rw [survey_value] at hsurvey
  cases hown : (surveyDirectory { options := o, excluded } w.tree (Path.parent file)
      (some file)).value with
  | error fault =>
      rw [hown] at hsurvey
      cases hsurvey
  | ok found =>
      cases found with
      | none => rfl
      | some own =>
          rw [hown] at hsurvey
          cases hsurvey
          exact absurd (surveyDirectory_path hown) hne

/-- Of a file that falls back, a new service finds the package in the parent's directory exactly if
the directory of the file holds none. -/
theorem directoryOf_fresh_eq_parent_iff (hpath : w.tree.absolute? path = some file)
    (hfault : w.grammarFault = none) (hfile : w.tree.isFile file = true)
    (hfallback : o.fallback = true) (hne : Path.parent (Path.parent file) ≠ Path.parent file)
    (hparent : package? o excluded w g = .ok (some package))
    (hdir : package.path = Path.parent (Path.parent file)) :
    directoryOf (fresh o excluded w path) = .ok (some package.path) ↔
      (surveyDirectory { options := o, excluded } w.tree (Path.parent file) (some file)).value
        = .ok none := by
  rw [directoryOf_fresh_eq_some_iff hpath]
  constructor
  · rintro ⟨q, hq, hsame⟩
    rw [hdir] at hsame
    rw [← hsame] at hne
    exact own_eq_none_of_elsewhere hq hne
  · intro hown
    obtain ⟨q, hq⟩ := surveyDirectory_of_package? hparent none
    rw [hdir] at hq ⊢
    have hsurvey := (survey_of_parent hfallback hne hown).trans hq
    exact ⟨q, package?_eq_some_iff.2 ⟨hfault, hfile, hsurvey⟩, surveyDirectory_path hq⟩

/-- A file whose own directory holds a package is found there. -/
theorem directoryOf_fresh_eq_own (hpath : w.tree.absolute? path = some file)
    (hfault : w.grammarFault = none) (hfile : w.tree.isFile file = true)
    (hown : package? o excluded w g = .ok (some package)) (hdir : package.path = Path.parent file) :
    directoryOf (fresh o excluded w path) = .ok (some package.path) := by
  obtain ⟨q, hq⟩ := surveyDirectory_of_package? hown (some file)
  rw [hdir] at hq ⊢
  exact (directoryOf_fresh_eq_some_iff hpath).2
    ⟨q, package?_eq_some_iff.2 ⟨hfault, hfile, survey_of_own hq⟩, surveyDirectory_path hq⟩

end Directories

section Fallback

variable [PatternLanguage] [Grammar] {o : Options} {excluded : List Pattern}
  {fault : Option String} {m : Moment} {path path' file file' : String} {time : Double}
  {package : Package}

/--
Both lifetimes pass.  When the package of a directory is then read for one file, it is given out for
every other file that is recorded there, whatever has become of that file's own directory.
-/
theorem answer_after_elapsed_of_fallback {s : Bool} {k : Nat}
    (h : Configured o excluded fault m) (hc : m.service.cache.Consistent m.world.now)
    (hfile : m.world.tree.absolute? path = some file)
    (hfile' : m.world.tree.absolute? path' = some file')
    (htime : time = .finite s k) (hlater : m.world.now.le time = true)
    (hfiles : (time.sub m.world.now).lt o.lifetimes.file = false)
    (hpackages : (time.sub m.world.now).lt o.lifetimes.package = false)
    (hpositive : (0 : Double).lt o.packageLifetime = true)
    (hpackage : package? o excluded m.world file' = .ok (some package))
    (hrecord : m.service.cache.ownerOf file = package.path) (hne : file' ≠ file) :
    (m.run [.wait time, .parse path']).answer path = .ok (.ofPackage package) := by
  have hconfigured := configured_after h (.wait time)
  have hstale : ∀ g, Cache.fresh? o.lifetimes.file time m.service.cache.files g = none :=
    fun g => hc.fresh?_files_eq_none (.inr hlater) hfiles
  have hmiss : (m.service.cache.get o.lifetimes time file').1 = none := by
    rw [Cache.get_of_none (hstale _) (hc.fresh?_packages_eq_none (.inr hlater) hpackages)]
  have hthen : package? o excluded { m.world with now := time } file' = .ok (some package) :=
    package?_of_now.trans hpackage
  rw [run_cons, run_cons, run_nil]
  rw [after_wait hlater] at hconfigured ⊢
  obtain ⟨s', r, hafter, hresult, hcache⟩ := after_parse_of_miss hconfigured hfile' hmiss hthen
  have hhome : HasHome.home? r = some (m.service.cache.ownerOf file) := by
    rw [hrecord]
    exact home?_of_result hresult
  have hfresh : Cache.isFresh o.lifetimes.package time ⟨time, r⟩ = true :=
    Cache.isFresh_now hpositive htime rfl
  have hget : (s'.cache.get o.lifetimes time file).1 = some r := by
    rw [hcache]
    exact Cache.get_put_of_sibling hhome hne (hstale _) hfresh
  have hconfigured' := configured_after hconfigured (.parse path')
  rw [hafter] at hconfigured' ⊢
  rw [answer_of_hit hconfigured' hfile hget, hresult]

end Fallback

section Main

variable [PatternLanguage] [Grammar] {o : Options} {excluded : List Pattern}
  {fault : Option String} {m₀ : Moment} {recent : List Action} {file : String}

/-- The files have been as they are for as long as both lifetimes. -/
structure Settled (o : Options) (m₀ : Moment) (recent : List Action) : Prop where
  unchanged : ∀ a ∈ recent, a.KeepsFiles
  file : ((m₀.run recent).world.now.sub m₀.world.now).lt o.lifetimes.file = false
  package : ((m₀.run recent).world.now.sub m₀.world.now).lt o.lifetimes.package = false

/-- The path of a request leads to this regular file. -/
def LeadsToFile (w : World) (path file : String) : Prop :=
  w.tree.absolute? path = some file ∧ w.tree.isFile file = true

/-- A file is given out from the directory that it once fell back to, although its own directory
does not lack a package any more. -/
structure Outgrown (o : Options) (excluded : List Pattern) (m : Moment) (file : String) : Prop where
  recorded : m.service.cache.owners.get? file = some (Path.parent (Path.parent file))
  elsewhere : Path.parent (Path.parent file) ≠ Path.parent file
  given : (m.service.cache.get o.lifetimes m.world.now file).1 ≠ none
  grown : (surveyDirectory { options := o, excluded } m.world.tree (Path.parent file)
    (some file)).value ≠ .ok none

theorem world_of_wait {time : Double} {path : String} (hlater : m₀.world.now.le time = true) :
    (m₀.run [.wait time, .parse path]).world = { m₀.world with now := time } := by
  rw [run_cons, after_wait hlater]
  rfl

/-- A request after both lifetimes have passed. -/
theorem settled_of_wait {time : Double} {path : String} (hlater : m₀.world.now.le time = true)
    (hfile : (time.sub m₀.world.now).lt o.lifetimes.file = false)
    (hpackage : (time.sub m₀.world.now).lt o.lifetimes.package = false) :
    Settled o m₀ [.wait time, .parse path] := by
  refine ⟨?_, ?_, ?_⟩
  · intro a ha
    simp only [List.mem_cons, List.not_mem_nil, or_false] at ha
    rcases ha with rfl | rfl
    · trivial
    · trivial
  · rw [world_of_wait hlater]
    exact hfile
  · rw [world_of_wait hlater]
    exact hpackage

/-- Whatever is given out is what a new service finds for some file of the recorded directory. -/
theorem Settled.found_of_get (h : Settled o m₀ recent) (hm₀ : Configured o excluded fault m₀)
    (hc₀ : m₀.service.cache.Consistent m₀.world.now)
    (hc : (m₀.run recent).service.cache.Consistent (m₀.run recent).world.now) {r : Revision}
    (hget : ((m₀.run recent).service.cache.get o.lifetimes (m₀.run recent).world.now file).1
      = some r) :
    ∃ g package, package? o excluded (m₀.run recent).world g = .ok (some package) ∧
      r.result = .ofPackage package ∧
      package.path = (m₀.run recent).service.cache.ownerOf file := by
  have hquiet := quiet_run hm₀ hc₀ h.unchanged
  have hhome := Cache.home?_of_get hc hget
  obtain ⟨e, rfl, he⟩ := Cache.entry_of_get hget
  have hdated : Dated o excluded m₀.world e := by
    rcases he with ⟨he, -⟩ | ⟨he, -⟩
    · exact hquiet.entries.files _ e he
    · exact hquiet.entries.packages _ e he
  rcases hdated with hold | ⟨g, package, hpackage, hresult⟩
  · -- What was there before the files settled is too old by now.
    exfalso
    rcases he with ⟨-, hfresh⟩ | ⟨-, hfresh⟩
    · rw [Cache.not_isFresh_of_elapsed hold hquiet.now h.file] at hfresh
      cases hfresh
    · rw [Cache.not_isFresh_of_elapsed hold hquiet.now h.package] at hfresh
      cases hfresh
  · rw [← hquiet.package?_eq] at hpackage
    rw [home?_of_result hresult] at hhome
    exact ⟨g, package, hpackage, hresult, Option.some.inj hhome⟩

/--
**Staleness.**  When the files have been as they are for as long as both lifetimes, a file is
answered from the directory in which a new service finds its package exactly if its record is not
outgrown.  An outgrown record goes back to a fallback before the files settled.
-/
theorem directory_of_settled (o : Options) (excluded : List Pattern) (w : World)
    (past recent : List Action) (path file : String)
    (hsettled : Settled o ((start o excluded w).run past) recent)
    (hfile : LeadsToFile (((start o excluded w).run past).run recent).world path file) :
    let m₀ := (start o excluded w).run past
    let m := m₀.run recent
    (directoryOf (m.answer path) = directoryOf (fresh o excluded m.world path) ↔
      ¬ Outgrown o excluded m file)
    ∧
    (Outgrown o excluded m file →
      o.fallback = true ∧
        m₀.service.cache.owners.get? file = some (Path.parent (Path.parent file))) := by
  intro m₀ m
  obtain ⟨hpath, hpresent⟩ := hfile
  have hm₀ : Configured o excluded w.grammarFault m₀ :=
    configured_run (configured_start o excluded w) past
  have hc₀ : m₀.service.cache.Consistent m₀.world.now := consistent_run o excluded w past
  have hrun : m = (start o excluded w).run (past ++ recent) := (run_append past recent _).symm
  have hc : m.service.cache.Consistent m.world.now := by
    rw [hrun]
    exact consistent_run o excluded w (past ++ recent)
  have hrecorded : Recorded o excluded w.grammarFault m := by
    rw [hrun]
    exact recorded_run o excluded w (past ++ recent)
  have hquiet : Quiet o excluded m₀.world m₀.service.cache m :=
    quiet_run hm₀ hc₀ hsettled.unchanged
  refine ⟨?_, ?_⟩
  · cases hget : (m.service.cache.get o.lifetimes m.world.now file).1 with
    | none =>
        rw [answer_of_miss hrecorded.configured hpath hget, ← fresh_eq o excluded hpath]
        exact iff_of_true rfl fun houtgrown => houtgrown.given hget
    | some r =>
        obtain ⟨g, package, hpackage, hresult, hdir⟩ :=
          hsettled.found_of_get hm₀ hc₀ hc hget
        obtain ⟨hfault, -, -⟩ := package?_eq_some_iff.1 hpackage
        rw [answer_of_hit hrecorded.configured hpath hget, hresult]
        show Except.ok (some package.path) = _ ↔ _
        rw [eq_comm]
        rcases hrecorded.ownerOf file with hown | ⟨hfallback, hparent, hne⟩
        · rw [hown] at hdir
          refine iff_of_true (directoryOf_fresh_eq_own hpath hfault hpresent hpackage hdir) ?_
          intro houtgrown
          rw [Cache.ownerOf_of_get?_eq_some houtgrown.recorded] at hown
          exact houtgrown.elsewhere hown
        · have howner : m.service.cache.owners.get? file
              = some (Path.parent (Path.parent file)) := by
            cases howner : m.service.cache.owners.get? file with
            | none => exact absurd (Cache.ownerOf_of_get?_eq_none howner) hne
            | some dir => rw [← hparent, Cache.ownerOf_of_get?_eq_some howner]
          rw [hparent] at hdir hne
          rw [directoryOf_fresh_eq_parent_iff hpath hfault hpresent hfallback hne hpackage hdir]
          constructor
          · intro hempty houtgrown
            exact houtgrown.grown hempty
          · intro hnot
            by_contra hgrown
            exact hnot ⟨howner, hne, by simp [hget], hgrown⟩
  · intro houtgrown
    have hparent := Cache.ownerOf_of_get?_eq_some houtgrown.recorded
    refine ⟨?_, ?_⟩
    · rcases hrecorded.ownerOf file with hown | ⟨hfallback, -, -⟩
      · exact absurd (hparent.symm.trans hown) houtgrown.elsewhere
      · exact hfallback
    · rcases hquiet.entries.owners file _ houtgrown.recorded with hold | hown | ⟨q, hq, hdir⟩
      · exact hold
      · exact absurd hown houtgrown.elsewhere
      · -- A new service looks into the directory of the file first.
        rw [← hquiet.package?_eq] at hq
        have hne := houtgrown.elsewhere
        rw [← hdir] at hne
        exact absurd (own_eq_none_of_elsewhere hq hne) houtgrown.grown

end Main

section Example

/-- After a fallback the file is recorded under the package above. -/
theorem run_of_fallback (t : FileTree) :
    ∃ s, (start {} [] nestedWorld).run [.parse "sub/f.go", .change t]
        = ⟨{ nestedWorld with tree := t }, s⟩ ∧
      s.cache.ownerOf "/w/sub/f.go" = "/w" := by
  have hfile : nestedWorld.tree.absolute? "sub/f.go" = some "/w/sub/f.go" := by decide +kernel
  obtain ⟨_, hpackage⟩ := package?_nestedWorld
  obtain ⟨s, r, hafter, hresult, hcache⟩ :=
    after_parse_of_miss (configured_start {} [] nestedWorld) hfile rfl hpackage
  refine ⟨s, ?_, ?_⟩
  · rw [run_cons, hafter]
    rfl
  · rw [hcache]
    exact Cache.ownerOf_put_self (home?_of_result hresult)

/-- The package above stays what it is. -/
theorem package?_above :
    ∃ findings,
      package? {} [] { nestedWorld with tree := grownTree "package sub\n" } "/w/root.go"
        = .ok (some ⟨"/w", "root", findings⟩) := by
  have hlists : Lists {} [] (grownTree "package sub\n") "/w" "/w" ["root.go", "sub"]
      ["/w/root.go"] := by decide +kernel
  have hparent : Path.parent "/w/root.go" = "/w" := by decide +kernel
  have hfacts := factsOf_of_lists hlists
  rw [← hparent] at hfacts ⊢
  exact ⟨_, package?_of_own rfl (by decide +kernel) hfacts (by decide +kernel)⟩

/-- A file that fell back is answered from the parent's directory as long as it stays alone. -/
theorem settled_file_answered_from_parent :
    let m₀ := (start {} [] nestedWorld).run [.parse "sub/f.go"]
    let recent := [.wait 1300, .parse "root.go"]
    let m := m₀.run recent
    Settled {} m₀ recent
    ∧
    LeadsToFile m.world "sub/f.go" "/w/sub/f.go"
    ∧
    directoryOf (m.answer "sub/f.go") = directoryOf (fresh {} [] m.world "sub/f.go") := by
  intro m₀ recent m
  have hlater : nestedWorld.now.le 1300 = true := by decide +kernel
  have hworld : m.world = { nestedWorld with now := 1300 } := world_of_wait hlater
  have hsettled : Settled {} m₀ recent :=
    settled_of_wait hlater (by decide +kernel) (by decide +kernel)
  have hfile : LeadsToFile m.world "sub/f.go" "/w/sub/f.go" := by
    rw [hworld]
    exact ⟨by decide +kernel, by decide +kernel⟩
  have hgrown : ¬ Outgrown {} [] m "/w/sub/f.go" := by
    intro houtgrown
    have hnone := houtgrown.grown
    rw [hworld] at hnone
    obtain ⟨findings, hroot⟩ := package?_nestedWorld
    have hne : "/w" ≠ Path.parent "/w/sub/f.go" := by decide +kernel
    have hown := own_eq_none_of_elsewhere hroot hne
    exact hnone hown
  obtain ⟨hiff, -⟩ := directory_of_settled {} [] nestedWorld [.parse "sub/f.go"] recent "sub/f.go"
    "/w/sub/f.go" hsettled hfile
  exact ⟨hsettled, hfile, hiff.2 hgrown⟩

/--
A file falls back to the package above, and a file with a package clause comes to lie beside it.
When both lifetimes have passed and the package above is asked for, the file is still answered from
there.
-/
theorem outgrown_file_answered_from_parent :
    let m₀ := (start {} [] nestedWorld).run
      [.parse "sub/f.go", .change (grownTree "package sub\n")]
    let recent := [.wait 1300, .parse "root.go"]
    let m := m₀.run recent
    Settled {} m₀ recent
    ∧
    LeadsToFile m.world "sub/f.go" "/w/sub/f.go"
    ∧
    directoryOf (m.answer "sub/f.go") = .ok (some "/w")
    ∧
    directoryOf (fresh {} [] m.world "sub/f.go") = .ok (some "/w/sub") := by
  intro m₀ recent m
  let w : World := { nestedWorld with tree := grownTree "package sub\n" }
  have hlater : w.now.le 1300 = true := by decide +kernel
  have hfiles : ((1300 : Double).sub w.now).lt ({} : Options).lifetimes.file = false := by
    decide +kernel
  have hpackages : ((1300 : Double).sub w.now).lt ({} : Options).lifetimes.package = false := by
    decide +kernel
  have hclock : (1300 : Double) = .finite false (1300 <<< unitScale) := by decide +kernel
  have hpositive : (0 : Double).lt ({} : Options).packageLifetime = true := by decide +kernel
  have hfile : w.tree.absolute? "sub/f.go" = some "/w/sub/f.go" := by decide +kernel
  have hroot : w.tree.absolute? "root.go" = some "/w/root.go" := by decide +kernel
  obtain ⟨s, hm₀, hrecord⟩ := run_of_fallback (grownTree "package sub\n")
  change m₀ = ⟨w, s⟩ at hm₀
  have hconfigured : Configured {} [] none m₀ :=
    configured_run (configured_start {} [] nestedWorld) _
  have hconsistent : m₀.service.cache.Consistent m₀.world.now :=
    consistent_run {} [] nestedWorld [.parse "sub/f.go", .change (grownTree "package sub\n")]
  have hworld : m.world = { w with now := 1300 } := world_of_wait hlater
  have hpath : m.world.tree.absolute? "sub/f.go" = some "/w/sub/f.go" := by
    rw [hworld]
    exact hfile
  rw [hm₀] at hconfigured hconsistent
  obtain ⟨findings, habove⟩ := package?_above
  have hanswer : m.answer "sub/f.go" = .ok (.ofPackage ⟨"/w", "root", findings⟩) := by
    show (m₀.run recent).answer _ = _
    rw [hm₀]
    exact answer_after_elapsed_of_fallback hconfigured hconsistent hfile hroot hclock hlater hfiles
      hpackages hpositive habove hrecord (by decide)
  refine ⟨settled_of_wait hlater hfiles hpackages, ⟨hpath, ?_⟩, ?_, ?_⟩
  · rw [hworld]
    decide +kernel
  · rw [hanswer]
    rfl
  · -- A new service looks into the directory of the file first.
    obtain ⟨_, hown⟩ : ∃ findings, package? {} [] w "/w/sub/f.go"
        = .ok (some ⟨"/w/sub", "sub", findings⟩) :=
      package?_grownTree (by decide +kernel) (by decide +kernel) (by decide +kernel)
        (by decide +kernel)
    rw [directoryOf_fresh_eq_some_iff hpath, hworld]
    exact ⟨_, package?_of_now.trans hown, rfl⟩

end Example

end Moment
end Conformance
