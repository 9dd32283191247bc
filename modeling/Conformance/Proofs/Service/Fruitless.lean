import Conformance.Proofs.Service.Staleness
import Conformance.Proofs.Service.Transparency

/-!
# Requests that come to nothing

A request is *fruitless* if it fails or is answered by an empty result: the grammar is missing, the
path leads to no file, a pattern file is at fault, or there is no package.  This module says
that such a request leaves no trace.

**Why.**  The cache holds no empty results (`Cache.Consistent`), so a fruitless request was not
answered by it, and nothing is stored where nothing was found.  All that is left of the request is
what the service has learned about the grammar, which it would find out anyway.

**Two runs.**  `trace` lists the actions of a history with their replies, the numbers of the results
included, and with what is kept after each; `fruitful` leaves the fruitless requests out.  Two
moments are `Alike` if they differ at most in what the services know of the grammar.  A fruitless
request leads to a moment that is alike, and moments that are alike reply alike and stay alike.

**Results.**
* `isFruitless_iff`: when a request is fruitless;
* `after_fruitless`: all that a fruitless request changes is what is known of the grammar;
* `trace_fruitful`: without the fruitless requests, the same comes of all other actions;
* `get_eq_none_of_later`: what the cache misses, it misses until something is stored or forgotten;
* `fruitless_requests_leave_no_trace`: all of this for every history, and that the same request is
  read anew once the files have changed.
-/

namespace Conformance

namespace Cache

open Double

variable {ρ : Type} [HasHome ρ] {l : Lifetimes} {t now : Double} {file : String} {c : Cache ρ}

/-- What the cache misses, it misses until something is stored or forgotten. -/
theorem Consistent.get_eq_none_of_later (h : Consistent t c) (hnow : NotAfter t now)
    (hmiss : (c.get l t file).1 = none) : (c.get l now file).1 = none := by
  obtain ⟨hfile, hpackage⟩ := fst_get_eq_none_iff.1 hmiss
  refine fst_get_eq_none_iff.2 ⟨?_, ?_⟩
  · rw [Option.eq_none_iff_forall_ne_some] at hfile ⊢
    intro e he
    obtain ⟨he, hfresh⟩ := fresh?_eq_some_iff.1 he
    exact hfile e (fresh?_eq_some_iff.2 ⟨he, isFresh_of_later hfresh (h.notAfter_of_file he) hnow⟩)
  · rw [Option.eq_none_iff_forall_ne_some] at hpackage ⊢
    intro e he
    obtain ⟨he, hfresh⟩ := fresh?_eq_some_iff.1 he
    exact hpackage e
      (fresh?_eq_some_iff.2 ⟨he, isFresh_of_later hfresh (h.packages _ e he).2 hnow⟩)

end Cache

namespace Result

/-- A result is empty exactly if it belongs to no package. -/
theorem isEmpty_iff_home? {r : Result} : r.isEmpty = true ↔ r.home? = none := by
  obtain ⟨⟨entries, nodup⟩⟩ := r
  cases entries with
  | nil => exact iff_of_true rfl rfl
  | cons entry entries => exact iff_of_false (by rintro ⟨⟩) (by rintro ⟨⟩)

end Result

/-- The files change, or time passes. -/
def Action.IsOutside : Action → Prop
  | .change _ => True
  | .wait _ => True
  | _ => False

namespace Moment

open Double Service

section Traces

variable [PatternLanguage] [Grammar]

/-- An action, what it is answered with if it is a request, and what is kept thereafter. -/
structure Turn where
  action : Action
  /-- The fault, or the result with its number. -/
  reply : Option (Except Fault Revision)
  cache : Cache Revision

/-- Whether an action is a request that fails or has an empty answer. -/
def Turn.isFruitless (turn : Turn) : Bool :=
  match turn.reply with
  | none => false
  | some (.error _) => true
  | some (.ok r) => r.result.isEmpty

/-- What an action is answered with, if it is a request. -/
def reply (m : Moment) : Action → Option (Except Fault Revision)
  | .parse path => some (m.service.parse m.world path).value.1
  | _ => none

/-- An action with what comes of it. -/
def turn (m : Moment) (a : Action) : Turn := ⟨a, m.reply a, (m.after a).service.cache⟩

/-- The actions of a history with what comes of them. -/
def trace : List Action → Moment → List Turn
  | [], _ => []
  | a :: actions, m => m.turn a :: trace actions (m.after a)

/-- The trace of a history without the fruitless requests. -/
def fruitful (actions : List Action) (m : Moment) : List Turn :=
  (trace actions m).filter fun turn => !turn.isFruitless

theorem fruitful_cons_of_fruitless {m : Moment} {a : Action} (actions : List Action)
    (h : (m.turn a).isFruitless = true) :
    fruitful (a :: actions) m = fruitful actions (m.after a) := by
  simp [fruitful, trace, h]

theorem fruitful_cons_of_fruitful {m : Moment} {a : Action} (actions : List Action)
    (h : (m.turn a).isFruitless = false) :
    fruitful (a :: actions) m = m.turn a :: fruitful actions (m.after a) := by
  simp [fruitful, trace, h]

/-- Only requests are fruitless. -/
theorem exists_path_of_fruitless {m : Moment} {a : Action}
    (h : (m.turn a).isFruitless = true) : ∃ path, a = .parse path := by
  cases a with
  | parse path => exact ⟨path, rfl⟩
  | invalidate path => cases h
  | wait time => cases h
  | change tree => cases h

end Traces

section Requests

variable [PatternLanguage] {m : Moment}

/-- Two moments differ at most in what the services know of the grammar. -/
def Alike (m m' : Moment) : Prop :=
  ∃ ready, m' = { m with service.grammarReady := ready }

theorem Alike.refl (m : Moment) : Alike m m :=
  ⟨m.service.grammarReady, rfl⟩

theorem Alike.cache_eq {m' : Moment} (halike : Alike m m') :
    m'.service.cache = m.service.cache := by
  obtain ⟨ready, rfl⟩ := halike
  rfl

theorem Alike.world_eq {m' : Moment} (halike : Alike m m') : m'.world = m.world := by
  obtain ⟨ready, rfl⟩ := halike
  rfl

theorem Alike.of_common {m' m'' : Moment} (h : Alike m m') (h' : Alike m m'') : Alike m' m'' := by
  obtain ⟨ready, rfl⟩ := h
  obtain ⟨ready', rfl⟩ := h'
  exact ⟨ready', rfl⟩

/-- After a reading it does not matter what was known of the grammar before. -/
theorem afterReading_of_ready (w : World) (file : String) (s : Service) (ready : Option Bool)
    (found : Option Package) :
    afterReading w file { s with grammarReady := ready } found = afterReading w file s found := by
  cases found <;> rfl

/-- An invalidation neither asks for the grammar nor learns of it. -/
theorem invalidate_of_ready (w : World) (path : Option String) (s : Service) (ready : Option Bool) :
    ((invalidate w path { s with grammarReady := ready }).toOption.getD
        { s with grammarReady := ready })
      = { (invalidate w path s).toOption.getD s with grammarReady := ready } := by
  simp only [invalidate]
  cases path.filter fun p => !p.isEmpty with
  | none => rfl
  | some p =>
      dsimp only
      cases w.tree.absolute? p with
      | none => rfl
      | some file => rfl

variable [Grammar] {o : Options} {excluded : List Pattern} {fault : Option String} {path : String}

/-- The reply to a request: what the cache gives out, or else what is read. -/
theorem Configured.reply_eq (h : Configured o excluded fault m) (path : String) :
    m.reply (.parse path)
      = some (match m.world.tree.absolute? path with
        | none => .error .noWorkingDirectory
        | some file =>
            match (m.service.cache.get o.lifetimes m.world.now file).1 with
            | some r => .ok r
            | none => (package? o excluded m.world file).map m.service.revisionOf) := by
  rw [reply]
  cases hfile : m.world.tree.absolute? path with
  | none => rw [parse_of_not_absolute hfile]
  | some file =>
      dsimp only
      cases hget : (m.service.cache.get o.lifetimes m.world.now file).1 with
      | some r => rw [h.parse_of_hit hfile hget]
      | none =>
          rw [h.parse_of_miss hfile hget]
          cases package? o excluded m.world file <;> rfl

/-- The moment after a request. -/
theorem Configured.after_parse_eq (h : Configured o excluded fault m) (path : String) :
    m.after (.parse path)
      = ⟨m.world,
          match m.world.tree.absolute? path with
          | none => m.service
          | some file =>
              match (m.service.cache.get o.lifetimes m.world.now file).1 with
              | some _ =>
                  { m.service with
                    cache := (m.service.cache.get o.lifetimes m.world.now file).2 }
              | none =>
                  m.service.afterReading m.world file
                    (package? o excluded m.world file).toOption.join⟩ := by
  rw [after]
  cases hfile : m.world.tree.absolute? path with
  | none => rw [parse_of_not_absolute hfile]
  | some file =>
      dsimp only
      cases hget : (m.service.cache.get o.lifetimes m.world.now file).1 with
      | some r => rw [h.parse_of_hit hfile hget]
      | none =>
          rw [h.parse_of_miss hfile hget]
          cases package? o excluded m.world file <;> rfl

/-- A request is fruitless exactly if its path leads nowhere, or the cache does not answer it and no
package is found. -/
theorem isFruitless_iff (h : Configured o excluded fault m)
    (hc : m.service.cache.Consistent m.world.now) :
    (m.turn (.parse path)).isFruitless = true ↔
      ∀ file, m.world.tree.absolute? path = some file →
        (m.service.cache.get o.lifetimes m.world.now file).1 = none ∧
          (package? o excluded m.world file).toOption.join = none := by
  rw [Turn.isFruitless, turn, h.reply_eq]
  cases hfile : m.world.tree.absolute? path with
  | none => exact iff_of_true rfl (by rintro file ⟨⟩)
  | some file =>
      simp only [Option.some.injEq, forall_eq']
      cases hget : (m.service.cache.get o.lifetimes m.world.now file).1 with
      | some r =>
          refine iff_of_false ?_ (by rintro ⟨⟨⟩, -⟩)
          intro hempty
          have hhome : r.result.home? = some _ := Cache.home?_of_get hc hget
          rw [Result.isEmpty_iff_home?.1 hempty] at hhome
          cases hhome
      | none =>
          cases package? o excluded m.world file with
          | error fault => exact iff_of_true rfl ⟨rfl, rfl⟩
          | ok found =>
              cases found with
              | none => exact iff_of_true rfl ⟨rfl, rfl⟩
              | some package => exact iff_of_false (by rintro ⟨⟩) (by rintro ⟨-, ⟨⟩⟩)

/-- All that a fruitless request changes is what is known of the grammar. -/
theorem after_fruitless (h : Configured o excluded fault m)
    (hc : m.service.cache.Consistent m.world.now)
    (hfruitless : (m.turn (.parse path)).isFruitless = true) :
    Alike m (m.after (.parse path)) := by
  rw [h.after_parse_eq]
  cases hfile : m.world.tree.absolute? path with
  | none => exact .refl m
  | some file =>
      obtain ⟨hget, hnone⟩ := (isFruitless_iff h hc).1 hfruitless file hfile
      simp only [hget, hnone]
      exact ⟨some m.world.grammarFault.isNone, rfl⟩

end Requests

section Alike

variable [PatternLanguage] [Grammar] {o : Options} {excluded : List Pattern}
  {fault : Option String} {m m' : Moment}

theorem Alike.reply_eq (halike : Alike m m') (h : Configured o excluded fault m)
    (h' : Configured o excluded fault m') (a : Action) : m'.reply a = m.reply a := by
  obtain ⟨ready, rfl⟩ := halike
  cases a with
  | parse path =>
      rw [h.reply_eq, h'.reply_eq]
      rfl
  | invalidate path => rfl
  | wait time => rfl
  | change tree => rfl

theorem Alike.after (halike : Alike m m') (h : Configured o excluded fault m)
    (h' : Configured o excluded fault m') (a : Action) : Alike (m.after a) (m'.after a) := by
  obtain ⟨ready, rfl⟩ := halike
  cases a with
  | parse path =>
      rw [h.after_parse_eq, h'.after_parse_eq]
      dsimp only
      cases m.world.tree.absolute? path with
      | none => exact ⟨ready, rfl⟩
      | some file =>
          dsimp only
          cases (m.service.cache.get o.lifetimes m.world.now file).1 with
          | some r => exact ⟨ready, rfl⟩
          | none =>
              dsimp only
              rw [afterReading_of_ready]
              exact .refl _
  | invalidate path =>
      refine ⟨ready, ?_⟩
      simp only [Moment.after, invalidate_of_ready]
  | wait time =>
      refine ⟨ready, ?_⟩
      simp only [Moment.after]
      split <;> rfl
  | change tree => exact ⟨ready, rfl⟩

/-- Without the fruitless requests of a history, the same comes of all other actions. -/
theorem trace_fruitful (halike : Alike m m') (h : Configured o excluded fault m)
    (h' : Configured o excluded fault m') (hc : m.service.cache.Consistent m.world.now)
    (actions : List Action) :
    trace ((fruitful actions m).map (·.action)) m' = fruitful actions m := by
  induction actions generalizing m m' with
  | nil => rfl
  | cons a actions ih =>
      have hconfigured := configured_after h a
      have hconsistent := consistent_after h hc a
      cases hfruitless : (m.turn a).isFruitless with
      | true =>
          rw [fruitful_cons_of_fruitless actions hfruitless]
          refine ih ?_ hconfigured h' hconsistent
          obtain ⟨path, rfl⟩ := exists_path_of_fruitless hfruitless
          exact (after_fruitless h hc hfruitless).of_common halike
      | false =>
          rw [fruitful_cons_of_fruitful actions hfruitless, List.map_cons]
          show m'.turn a :: trace _ (m'.after a) = _
          rw [ih (halike.after h h' a) hconfigured (configured_after h' a) hconsistent, turn, turn,
            halike.reply_eq h h' a, (halike.after h h' a).cache_eq]

end Alike

section Outside

variable [PatternLanguage] [Grammar]

/-- While nobody asks for anything, the service stays as it is and the clock does not go back. -/
theorem run_outside {m : Moment} {actions : List Action} (h : ∀ a ∈ actions, a.IsOutside) :
    (m.run actions).service = m.service ∧ NotAfter m.world.now (m.run actions).world.now := by
  refine run_induction (P := fun m' => m'.service = m.service ∧ NotAfter m.world.now m'.world.now)
    ⟨rfl, notAfter_refl _⟩ ?_
  rintro m' a ha ⟨hservice, hnow⟩
  cases a with
  | parse path => exact (h _ ha).elim
  | invalidate path => exact (h _ ha).elim
  | wait time =>
      rw [after]
      split
      next hlater => exact ⟨hservice, notAfter_trans hnow (.inr hlater)⟩
      next => exact ⟨hservice, hnow⟩
  | change tree => exact ⟨hservice, hnow⟩

theorem world_of_change_wait {m : Moment} {tree : FileTree} {time : Double}
    (h : m.world.now.le time = true) :
    (m.run [.change tree, .wait time]).world = { m.world with tree, now := time } := by
  have hlater : (m.after (.change tree)).world.now.le time = true := h
  rw [run_cons, run_cons, run_nil, after_wait hlater]
  rfl

end Outside

section Main

/--
**Fruitless requests.**  In every history, whether the grammar is there or not: a request that fails
or has an empty answer leaves both tiers of the cache and the recorded packages as they are.  If
thereafter the files change and time passes, the cache still misses the file, and the same request
is answered like by a new service.  And without all fruitless requests, every other action of the
history is replied to as before, down to the numbers of the results, and leaves the same cache.
-/
theorem fruitless_requests_leave_no_trace [PatternLanguage] [Grammar] (o : Options)
    (excluded : List Pattern) (w : World) (actions : List Action) :
    let first := start o excluded w
    (∀ earlier path later, actions = earlier ++ .parse path :: later →
      let m := first.run earlier
      (m.turn (.parse path)).isFruitless = true →
        (m.after (.parse path)).service.cache = m.service.cache
        ∧
        ∀ outside : List Action, (∀ a ∈ outside, a.IsOutside) →
          let m' := (m.after (.parse path)).run outside
          m'.world.tree.absolute? path = m.world.tree.absolute? path →
            (∀ file, m'.world.tree.absolute? path = some file →
              (m'.service.cache.get o.lifetimes m'.world.now file).1 = none) ∧
              m'.answer path = fresh o excluded m'.world path)
    ∧
    trace ((fruitful actions first).map (·.action)) first = fruitful actions first := by
  intro first
  have hfirst : Configured o excluded w.grammarFault first := configured_start o excluded w
  refine ⟨?_, trace_fruitful (.refl first) hfirst hfirst (Cache.consistent_empty w.now) actions⟩
  intro earlier path later _ m hfruitless
  have h : Configured o excluded w.grammarFault m := configured_run hfirst earlier
  have hc : m.service.cache.Consistent m.world.now := consistent_run o excluded w earlier
  have halike := after_fruitless h hc hfruitless
  refine ⟨halike.cache_eq, ?_⟩
  intro outside houtside m' hpath
  have h' : Configured o excluded w.grammarFault m' :=
    configured_run (configured_after h (.parse path)) outside
  obtain ⟨hservice, hnow⟩ := run_outside (m := m.after (.parse path)) houtside
  rw [halike.world_eq] at hnow
  have hmiss : ∀ file, m'.world.tree.absolute? path = some file →
      (m'.service.cache.get o.lifetimes m'.world.now file).1 = none := by
    intro file hfile
    rw [hpath] at hfile
    rw [hservice, halike.cache_eq]
    exact hc.get_eq_none_of_later hnow ((isFruitless_iff h hc).1 hfruitless file hfile).1
  refine ⟨hmiss, ?_⟩
  cases hfile : m'.world.tree.absolute? path with
  | none =>
      have hfresh : fresh o excluded m'.world path = .error .noWorkingDirectory :=
        answer_of_not_absolute hfile
      rw [answer_of_not_absolute hfile, hfresh]
  | some file => rw [answer_of_miss h' hfile (hmiss file hfile), fresh_eq o excluded hfile]

/-- There is nothing in the working directory. -/
def bareWorld : World where
  tree :=
    { entries := .ofList [("/", .directory), ("/w", .directory)]
      workingDirectory := some "/w" }
  grammarFault := none
  now := 1000

/-- A file that was asked for before it was there is read once it is. -/
theorem file_read_once_there :
    let m := start {} [] bareWorld
    let later := (m.after (.parse "a.go")).run [.change testedWorld.tree, .wait 1060]
    let names (r : Result) : List String := r.packageList.map (·.name)
    (m.turn (.parse "a.go")).isFruitless = true
    ∧
    (later.answer "a.go").map names = .ok ["a"] := by
  intro m later names
  have hbare : bareWorld.tree.absolute? "a.go" = some "/w/a.go" := by decide +kernel
  have habsent : bareWorld.tree.isFile "/w/a.go" = false := by decide +kernel
  have hnone : package? {} [] bareWorld "/w/a.go" = .ok none := by
    rw [package?, habsent]
    rfl
  have hfruitless : (m.turn (.parse "a.go")).isFruitless = true := by
    refine (isFruitless_iff (configured_start {} [] bareWorld)
      (Cache.consistent_empty bareWorld.now)).2 fun file hfile => ⟨rfl, ?_⟩
    cases hbare.symm.trans hfile
    show (package? {} [] bareWorld "/w/a.go").toOption.join = none
    rw [hnone]
    rfl
  refine ⟨hfruitless, ?_⟩
  have houtside : ∀ a ∈ [Action.change testedWorld.tree, .wait 1060], a.IsOutside := by
    simp [Action.IsOutside]
  have hlater : bareWorld.now.le 1060 = true := by decide +kernel
  have hworld : later.world = { testedWorld with now := 1060 } := world_of_change_wait hlater
  have hthere : later.world.tree.absolute? "a.go" = some "/w/a.go" := by
    rw [hworld]
    decide +kernel
  obtain ⟨hforall, -⟩ := fruitless_requests_leave_no_trace {} [] bareWorld [.parse "a.go"]
  obtain ⟨-, hrepaired⟩ := hforall [] "a.go" [] rfl hfruitless
  have hfresh : later.answer "a.go" = fresh {} [] later.world "a.go" := by
    refine (hrepaired _ houtside ?_).2
    rw [run_nil, hworld]
    decide +kernel
  obtain ⟨findings, hpackage⟩ : ∃ findings,
      package? {} [] testedWorld "/w/a.go" = .ok (some ⟨"/w", "a", findings⟩) :=
    package?_testedWorld (by decide +kernel) (by decide +kernel) (by decide +kernel)
  have hanswer : fresh {} [] later.world "a.go" = .ok (.ofPackage ⟨"/w", "a", findings⟩) := by
    refine (fresh_eq_ofPackage_iff hthere).2 ?_
    rw [hworld]
    exact package?_of_now.trans hpackage
  rw [hfresh, hanswer]
  rfl

end Main

end Moment
end Conformance
