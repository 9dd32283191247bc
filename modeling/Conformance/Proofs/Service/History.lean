import Conformance.Proofs.Cache.Entries
import Conformance.Proofs.Number.Clock
import Conformance.Service

/-!
# Histories of a service

What may happen to a service from the moment it is new: requests, invalidations, the passing of
time, and changes of the files.

**Moments.**  A `Moment` is a service together with its surroundings, and `Moment.run` lets a list
of actions happen one after the other.

**Answers.**  `Moment.answer` is the content of the answer to a request: two answers with the same
content may still be two results with numbers of their own.  `fresh` is the answer of a new service.

**Results.**
* `compute_value`: a request that the cache does not answer depends on the options, the patterns and
  the surroundings only (`package?`), and changes the cache exactly if there is a package;
* `run_induction`: what every action preserves holds after every history;
* `after_parse_cases`, `after_invalidate_cases`: all that a request or an invalidation can do;
* `entrywise_parse`, `entrywise_invalidate`: what has to be shown for an entrywise property of the
  cache to be preserved;
* `configured_run`: options and patterns stay, and what is known of the grammar is true.
-/

namespace Conformance

/-- What may happen to a service. -/
inductive Action
  /-- The package of a file is asked for. -/
  | parse (path : String)
  /-- What is kept for a file is forgotten, or everything if no file is given. -/
  | invalidate (path : Option String)
  /-- The clock comes to show a later time; it never goes back. -/
  | wait (time : Double)
  /-- Files are written, deleted or made. -/
  | change (tree : FileTree)

/-- A service and its surroundings. -/
structure Moment [PatternLanguage] where
  world : World
  service : Service

namespace Moment

section Defs

variable [PatternLanguage]

/-- A new service. -/
def start (o : Options) (excluded : List Pattern) (w : World) : Moment :=
  ⟨w, { options := o, excluded }⟩

variable [Grammar]

/-- The moment after an action; an invalidation that fails changes nothing. -/
def after (m : Moment) : Action → Moment
  | .parse path => { m with service := (m.service.parse m.world path).value.2 }
  | .invalidate path =>
      { m with service := (m.service.invalidate m.world path).toOption.getD m.service }
  | .wait time => if m.world.now.le time then { m with world.now := time } else m
  | .change tree => { m with world.tree := tree }

/-- The moment after several actions. -/
def run (actions : List Action) (m : Moment) : Moment :=
  actions.foldl after m

/-- The content of the answer to a request. -/
def answer (m : Moment) (path : String) : Except Fault Result :=
  (m.service.parse m.world path).value.1.map (·.result)

/-- The content of the answer that a new service gives. -/
def fresh (o : Options) (excluded : List Pattern) (w : World) (path : String) :
    Except Fault Result :=
  (start o excluded w).answer path

end Defs

section Runs

variable [PatternLanguage] [Grammar]

@[simp]
theorem run_nil (m : Moment) : m.run [] = m := rfl

@[simp]
theorem run_cons (a : Action) (actions : List Action) (m : Moment) :
    m.run (a :: actions) = (m.after a).run actions := rfl

theorem run_append (actions actions' : List Action) (m : Moment) :
    m.run (actions ++ actions') = (m.run actions).run actions' := by
  simp [run]

/-- What each of these actions preserves holds after all of them. -/
theorem run_induction {P : Moment → Prop} {actions : List Action} {m : Moment} (hm : P m)
    (hstep : ∀ m, ∀ a ∈ actions, P m → P (m.after a)) : P (m.run actions) := by
  induction actions generalizing m with
  | nil => exact hm
  | cons a actions ih =>
      rw [run_cons]
      refine ih (hstep m a List.mem_cons_self hm) ?_
      intro m' a' ha'
      exact hstep m' a' (List.mem_cons_of_mem a ha')

theorem after_wait {m : Moment} {time : Double} (h : m.world.now.le time = true) :
    m.after (.wait time) = { m with world.now := time } :=
  if_pos h

end Runs

end Moment

namespace Service

section Reading

/-- The result that is given for a package, empty if there is none. -/
def resultOf (found : Option Package) : Result :=
  found.elim .empty .ofPackage

theorem resultOf_injective {p q : Option Package} (h : resultOf p = resultOf q) : p = q := by
  cases p with
  | none =>
      cases q with
      | none => rfl
      | some q => cases congrArg (·.packages.entries) h
  | some p =>
      cases q with
      | none => cases congrArg (·.packages.entries) h
      | some q =>
          have hentries : [(p.path, p)] = [(q.path, q)] := congrArg (·.packages.entries) h
          rw [(Prod.mk.inj (List.cons.inj hentries).1).2]

variable [PatternLanguage] {o : Options} {excluded : List Pattern} {w : World} {file : String}
  {s : Service}

/-- What is known of the grammar is true. -/
def KnowsGrammar (w : World) (s : Service) : Prop :=
  s.grammarReady = none ∨ s.grammarReady = some w.grammarFault.isNone

theorem ensureGrammar_value (h : KnowsGrammar w s) :
    (ensureGrammar w s).value
      = (w.grammarFault.isNone, { s with grammarReady := some w.grammarFault.isNone }) := by
  rcases h with h | h
  · cases hfault : w.grammarFault with
    | none => simp [ensureGrammar, h, hfault]
    | some reason => simp [ensureGrammar, h, hfault]
  · rw [ensureGrammar, h]
    obtain ⟨options, excluded, cache, ready, computed⟩ := s
    cases h
    rfl

variable [Grammar]

/--
The package that a service with these options and patterns finds for a file, if the cache does not
answer.
-/
def package? (o : Options) (excluded : List Pattern) (w : World) (file : String) :
    Except Fault (Option Package) :=
  if w.grammarFault.isSome || !w.tree.isFile file then .ok none
  else
    match (survey { options := o, excluded } w.tree file).value with
    | .error fault => if fault.isTolerated then .ok none else .error fault
    | .ok found => .ok found

/-- Reading depends on the options and the patterns of a service only. -/
theorem surveyDirectory_congr {s s' : Service} (ho : s.options = s'.options)
    (he : s.excluded = s'.excluded) (t : FileTree) (dir : String) (target : Option String) :
    surveyDirectory s t dir target = surveyDirectory s' t dir target := by
  rw [surveyDirectory, surveyDirectory, ho, he]

theorem survey_congr {s s' : Service} (ho : s.options = s'.options)
    (he : s.excluded = s'.excluded) (t : FileTree) (file : String) :
    survey s t file = survey s' t file := by
  rw [survey, survey, ho, surveyDirectory_congr ho he]
  simp only [surveyDirectory_congr ho he]

/-- The service after a request that the cache did not answer. -/
def afterReading (w : World) (file : String) (s : Service) (found : Option Package) : Service :=
  match found with
  | none => { s with grammarReady := some w.grammarFault.isNone }
  | some package =>
      { s with
        grammarReady := some w.grammarFault.isNone
        cache := s.cache.put w.now file ⟨some s.computed, .ofPackage package⟩
        computed := s.computed + 1 }

/-- The number and the content of the answer to a request that the cache did not answer. -/
def revisionOf (s : Service) (found : Option Package) : Revision :=
  ⟨found.map fun _ => s.computed, resultOf found⟩

/-- A request that the cache does not answer. -/
theorem compute_value (h : KnowsGrammar w s) :
    (compute w file s).value
      = match package? s.options s.excluded w file with
        | .error fault => (.error fault, s.afterReading w file none)
        | .ok found => (.ok (s.revisionOf found), s.afterReading w file found) := by
  have hsurvey : ∀ ready, survey { s with grammarReady := ready } w.tree file
      = survey { options := s.options, excluded := s.excluded } w.tree file :=
    fun ready => survey_congr rfl rfl w.tree file
  rw [compute, Logged.value_bind, ensureGrammar_value h]
  cases hfault : w.grammarFault with
  | some reason => simp [package?, hfault, afterReading, revisionOf, resultOf, Revision.empty]
  | none =>
      cases hfile : w.tree.isFile file with
      | false =>
          simp [package?, hfault, hfile, afterReading, revisionOf, resultOf, Revision.empty]
      | true =>
          simp only [Option.isNone_none, Bool.not_true, Bool.false_eq_true, if_false,
            Logged.value_bind, hsurvey, package?, hfault, hfile, Option.isSome_none, Bool.or_false]
          cases hfound : (survey { options := s.options, excluded := s.excluded } w.tree file).value
            with
          | error fault =>
              by_cases htolerated : fault.isTolerated = true
              · simp [htolerated, afterReading, revisionOf, resultOf, Revision.empty, hfault]
              · simp [htolerated, afterReading, hfault]
          | ok found =>
              cases found with
              | none => simp [afterReading, revisionOf, resultOf, Revision.empty, hfault]
              | some package => simp [afterReading, revisionOf, resultOf, hfault]

end Reading

section Requests

variable [PatternLanguage] [Grammar] {w : World} {file : String} {s : Service}

/-- A request that the cache does not answer. -/
theorem answer_of_miss (hknows : KnowsGrammar w s)
    (h : (s.cache.get s.options.lifetimes w.now file).1 = none) :
    (answer w file s).value
      = match package? s.options s.excluded w file with
        | .error fault => (.error fault, s.afterReading w file none)
        | .ok found => (.ok (s.revisionOf found), s.afterReading w file found) := by
  rw [← compute_value hknows, answer]
  obtain ⟨cache, hget⟩ : ∃ cache, s.cache.get s.options.lifetimes w.now file = (none, cache) :=
    ⟨_, Prod.ext h rfl⟩
  simp only [hget]

end Requests

end Service

namespace Moment

section Configured

variable [PatternLanguage] {o : Options} {excluded : List Pattern} {fault : Option String}
  {m : Moment} {path file : String}

/-- A service of these options and patterns that has the right idea of the grammar. -/
structure Configured (o : Options) (excluded : List Pattern) (fault : Option String) (m : Moment) :
    Prop where
  options : m.service.options = o
  excluded : m.service.excluded = excluded
  fault : m.world.grammarFault = fault
  grammar : m.service.KnowsGrammar m.world

theorem configured_start (o : Options) (excluded : List Pattern) (w : World) :
    Configured o excluded w.grammarFault (start o excluded w) :=
  ⟨rfl, rfl, rfl, .inl rfl⟩

theorem configured_afterReading (h : Configured o excluded fault m) (file : String)
    (found : Option Package) :
    Configured o excluded fault ⟨m.world, m.service.afterReading m.world file found⟩ := by
  cases found with
  | none => exact ⟨h.options, h.excluded, h.fault, .inr rfl⟩
  | some package => exact ⟨h.options, h.excluded, h.fault, .inr rfl⟩

variable [Grammar]

/-- A request that the cache answers. -/
theorem Configured.parse_of_hit (h : Configured o excluded fault m)
    (hfile : m.world.tree.absolute? path = some file) {r : Revision}
    (hget : (m.service.cache.get o.lifetimes m.world.now file).1 = some r) :
    (m.service.parse m.world path).value
      = (.ok r, { m.service with
          cache := (m.service.cache.get o.lifetimes m.world.now file).2 }) := by
  rw [Service.parse_of_absolute hfile]
  refine Service.answer_of_fresh ?_
  rw [h.options]
  exact Prod.ext hget rfl

/-- A request that the cache does not answer. -/
theorem Configured.parse_of_miss (h : Configured o excluded fault m)
    (hfile : m.world.tree.absolute? path = some file)
    (hget : (m.service.cache.get o.lifetimes m.world.now file).1 = none) :
    (m.service.parse m.world path).value
      = match Service.package? o excluded m.world file with
        | .error fault => (.error fault, m.service.afterReading m.world file none)
        | .ok found =>
            (.ok (m.service.revisionOf found), m.service.afterReading m.world file found) := by
  have hmiss : (m.service.cache.get m.service.options.lifetimes m.world.now file).1 = none := by
    rw [h.options]
    exact hget
  rw [Service.parse_of_absolute hfile, Service.answer_of_miss h.grammar hmiss, h.options,
    h.excluded]

/-- All that a request can do: nothing, if its path has no directory to start from; or else the
cache gives the answer, or the file is read. -/
theorem after_parse_cases (h : Configured o excluded fault m) (path : String) :
    m.after (.parse path) = m
    ∨
    ∃ file, m.world.tree.absolute? path = some file ∧
      (m.after (.parse path)
          = { m with service.cache := (m.service.cache.get o.lifetimes m.world.now file).2 }
      ∨
      ∃ found, (∀ package, found = some package →
          Service.package? o excluded m.world file = .ok (some package)) ∧
        m.after (.parse path) = ⟨m.world, m.service.afterReading m.world file found⟩) := by
  rw [after]
  cases hfile : m.world.tree.absolute? path with
  | none =>
      rw [Service.parse_of_not_absolute hfile]
      exact .inl rfl
  | some file =>
      refine .inr ⟨file, rfl, ?_⟩
      cases hget : (m.service.cache.get o.lifetimes m.world.now file).1 with
      | some r =>
          rw [h.parse_of_hit hfile hget]
          exact .inl rfl
      | none =>
          rw [h.parse_of_miss hfile hget]
          refine .inr ?_
          cases Service.package? o excluded m.world file with
          | error fault => exact ⟨none, by rintro package ⟨⟩, rfl⟩
          | ok found =>
              refine ⟨found, ?_, rfl⟩
              rintro package rfl
              rfl

/-- All that an invalidation can do: nothing, or everything is forgotten, or a single file. -/
theorem after_invalidate_cases (m : Moment) (path : Option String) :
    m.after (.invalidate path) = m
    ∨
    m.after (.invalidate path) = { m with service.cache := .empty }
    ∨
    ∃ file, m.after (.invalidate path)
      = { m with service.cache := m.service.cache.invalidate file } := by
  rw [after, Service.invalidate]
  cases path.filter fun p => !p.isEmpty with
  | none => exact .inr (.inl rfl)
  | some p =>
      dsimp only
      cases m.world.tree.absolute? p with
      | none => exact .inl rfl
      | some file => exact .inr (.inr ⟨file, rfl⟩)

theorem configured_after (h : Configured o excluded fault m) (a : Action) :
    Configured o excluded fault (m.after a) := by
  cases a with
  | parse path =>
      rcases after_parse_cases h path with hsame | ⟨file, -, hhit | ⟨found, -, hread⟩⟩
      · rw [hsame]
        exact h
      · rw [hhit]
        exact ⟨h.options, h.excluded, h.fault, h.grammar⟩
      · rw [hread]
        exact configured_afterReading h file found
  | invalidate path =>
      rcases after_invalidate_cases m path with hafter | hafter | ⟨file, hafter⟩
      · rw [hafter]
        exact h
      · rw [hafter]
        exact ⟨h.options, h.excluded, h.fault, h.grammar⟩
      · rw [hafter]
        exact ⟨h.options, h.excluded, h.fault, h.grammar⟩
  | wait time =>
      rw [after]
      split
      · exact ⟨h.options, h.excluded, h.fault, h.grammar⟩
      · exact h
  | change tree => exact ⟨h.options, h.excluded, h.fault, h.grammar⟩

/-- Options and patterns stay, and what is known of the grammar is true. -/
theorem configured_run (h : Configured o excluded fault m) (actions : List Action) :
    Configured o excluded fault (m.run actions) :=
  run_induction h fun _ a _ hm => configured_after hm a

end Configured

section Answers

theorem home?_of_result {r : Revision} {package : Package} (h : r.result = .ofPackage package) :
    HasHome.home? r = some package.path := by
  show r.result.home? = _
  rw [h]
  rfl

variable [PatternLanguage] [Grammar] {o : Options} {excluded : List Pattern}
  {fault : Option String} {w : World} {m : Moment} {path file : String}

theorem answer_of_hit (h : Configured o excluded fault m)
    (hfile : m.world.tree.absolute? path = some file) {r : Revision}
    (hget : (m.service.cache.get o.lifetimes m.world.now file).1 = some r) :
    m.answer path = .ok r.result := by
  rw [answer, h.parse_of_hit hfile hget]
  rfl

theorem answer_of_miss (h : Configured o excluded fault m)
    (hfile : m.world.tree.absolute? path = some file)
    (hget : (m.service.cache.get o.lifetimes m.world.now file).1 = none) :
    m.answer path = (Service.package? o excluded m.world file).map Service.resultOf := by
  rw [answer, h.parse_of_miss hfile hget]
  cases Service.package? o excluded m.world file with
  | error fault => rfl
  | ok found => rfl

/-- A path that has no directory to start from is never answered. -/
theorem answer_of_not_absolute (hfile : m.world.tree.absolute? path = none) :
    m.answer path = .error .noWorkingDirectory := by
  rw [answer, Service.parse_of_not_absolute hfile]
  rfl

theorem exists_absolute_of_answer {r : Result} (h : m.answer path = .ok r) :
    ∃ file, m.world.tree.absolute? path = some file := by
  cases hfile : m.world.tree.absolute? path with
  | none =>
      rw [answer_of_not_absolute hfile] at h
      cases h
  | some file => exact ⟨file, rfl⟩

/-- A request that reads a package stores it. -/
theorem after_parse_of_miss (h : Configured o excluded fault m)
    (hfile : m.world.tree.absolute? path = some file) {package : Package}
    (hget : (m.service.cache.get o.lifetimes m.world.now file).1 = none)
    (hpackage : Service.package? o excluded m.world file = .ok (some package)) :
    ∃ s r, m.after (.parse path) = ⟨m.world, s⟩ ∧ r.result = .ofPackage package ∧
      s.cache = m.service.cache.put m.world.now file r := by
  rw [after, h.parse_of_miss hfile hget, hpackage]
  exact ⟨_, ⟨some m.service.computed, .ofPackage package⟩, rfl, rfl, rfl⟩

/-- A new service reads the file. -/
theorem fresh_eq (o : Options) (excluded : List Pattern)
    (hfile : w.tree.absolute? path = some file) :
    fresh o excluded w path = (Service.package? o excluded w file).map Service.resultOf :=
  answer_of_miss (configured_start o excluded w) hfile rfl

/-- A new service answers with a package exactly if it finds that package for the file. -/
theorem fresh_eq_ofPackage_iff (hfile : w.tree.absolute? path = some file) {package : Package} :
    fresh o excluded w path = .ok (.ofPackage package) ↔
      Service.package? o excluded w file = .ok (some package) := by
  rw [fresh_eq o excluded hfile]
  constructor
  · intro h
    cases hfound : Service.package? o excluded w file with
    | error fault =>
        rw [hfound] at h
        cases h
    | ok found =>
        rw [hfound] at h
        rw [Service.resultOf_injective (Except.ok.inj h : _ = Service.resultOf (some package))]
  · intro h
    rw [h]
    rfl

end Answers

section Entries

variable [PatternLanguage] [Grammar] {o : Options} {excluded : List Pattern}
  {fault : Option String} {m : Moment} {onFile onPackage : String → Stored Revision → Prop}
  {onOwner : String → String → Prop}

/-- A request keeps an entrywise property that holds of copies and of what is read. -/
theorem entrywise_parse (h : Configured o excluded fault m)
    (hentries : m.service.cache.Entrywise onFile onPackage onOwner) (path : String)
    (hcopied : ∀ file, m.world.tree.absolute? path = some file → ∀ e,
      Cache.fresh? o.packageLifetime m.world.now m.service.cache.packages
          (m.service.cache.ownerOf file) = some e →
        onFile file e ∧ onOwner file (m.service.cache.ownerOf file))
    (hread : ∀ file, m.world.tree.absolute? path = some file → ∀ package e,
      Service.package? o excluded m.world file = .ok (some package) →
        e.time = m.world.now → e.value.result = .ofPackage package →
        onFile file e ∧ onPackage package.path e ∧ onOwner file package.path) :
    (m.after (.parse path)).service.cache.Entrywise onFile onPackage onOwner := by
  rcases after_parse_cases h path with hsame | ⟨file, hfile, hhit | ⟨found, hfound, hafter⟩⟩
  · rw [hsame]
    exact hentries
  · rw [hhit]
    exact Cache.entrywise_get hentries (hcopied file hfile)
  · rw [hafter]
    cases found with
    | none => exact hentries
    | some package =>
        show Cache.Entrywise _ _ _ (m.service.cache.put m.world.now file
          ⟨some m.service.computed, .ofPackage package⟩)
        refine Cache.entrywise_put hentries ?_
        intro owner howner
        have hpath : package.path = owner := Option.some.inj howner
        rw [← hpath]
        exact hread file hfile package _ (hfound package rfl) rfl rfl

/-- An invalidation keeps every entrywise property. -/
theorem entrywise_invalidate (hentries : m.service.cache.Entrywise onFile onPackage onOwner)
    (path : Option String) :
    (m.after (.invalidate path)).service.cache.Entrywise onFile onPackage onOwner := by
  rcases after_invalidate_cases m path with hafter | hafter | ⟨file, hafter⟩
  · rw [hafter]
    exact hentries
  · rw [hafter]
    exact Cache.entrywise_empty
  · rw [hafter]
    exact Cache.entrywise_invalidate hentries

end Entries

end Moment
end Conformance
