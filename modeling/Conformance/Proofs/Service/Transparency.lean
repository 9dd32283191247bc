import Conformance.Pattern.Wildcard
import Conformance.Proofs.Service.Reading
import Conformance.Source.Outline

/-!
# Whether the cache shows

A service that has answered requests before may answer differently from a new one, even if no file
has changed.  This module says when.

**Cause.**  The package tier answers for every file of a directory, but a directory may hold files
of more than one package, and may be asked about files that it does not hold.

**Invariant.**  `Steady`: the file tier holds what a new service would answer; the package tier
holds, under each directory, what a new service would answer for some file whose package lies there.

**Results.**
* `steady_run`: the invariant holds after every history without changes of files;
* `answer_after_parse`: right after a file, any other path of the directory of its package gets the
  same answer;
* `answers_like_new_iff`: the cache never shows exactly if all files that are asked for choose the
  name of the package that lies in their directory.
-/

namespace Conformance

/-- The files stay as they are, and only these paths are asked for. -/
def Action.Within (asked : String → Prop) : Action → Prop
  | .parse path => asked path
  | .invalidate _ => True
  | .wait _ => True
  | .change _ => False

namespace Moment

open Double Service

section Invariant

/-- The files that are asked for. -/
def AskedFile (w : World) (asked : String → Prop) (file : String) : Prop :=
  ∃ path, asked path ∧ w.tree.absolute? path = some file

variable [PatternLanguage] [Grammar] {o : Options} {excluded : List Pattern} {w : World}
  {asked : String → Prop} {m : Moment}

/-- All files that are asked for have the package that lies in their directory, if one does. -/
def Agreeing (o : Options) (excluded : List Pattern) (w : World) (asked : String → Prop) : Prop :=
  ∀ f g package, AskedFile w asked f → AskedFile w asked g →
    package? o excluded w f = .ok (some package) → package.path = Path.parent g →
    package? o excluded w g = .ok (some package)

/-- The files that are asked for agree, unless the package tier gives out nothing anyway. -/
def Harmless (o : Options) (excluded : List Pattern) (w : World) (asked : String → Prop) : Prop :=
  (0 : Double).lt o.packageLifetime = true → w.now.lt (.infinite false) = true →
    Agreeing o excluded w asked

/-- An entry of the file tier is what a new service answers. -/
def OwnEntry (o : Options) (excluded : List Pattern) (w : World) (file : String)
    (e : Stored Revision) : Prop :=
  ∃ package, package? o excluded w file = .ok (some package) ∧
    e.value.result = .ofPackage package

/-- An entry of the package tier is what a new service answers for a file of the package. -/
def SharedEntry (o : Options) (excluded : List Pattern) (w : World) (asked : String → Prop)
    (now : Double) (dir : String) (e : Stored Revision) : Prop :=
  NotAfter e.time now ∧ ∃ g package, AskedFile w asked g ∧
    package? o excluded w g = .ok (some package) ∧ package.path = dir ∧
    e.value.result = .ofPackage package

/-- A recorded package lies where a new service finds that of the file. -/
def RecordedOwner (o : Options) (excluded : List Pattern) (w : World) (asked : String → Prop)
    (file dir : String) : Prop :=
  AskedFile w asked file ∧ ∃ package, package? o excluded w file = .ok (some package) ∧
    package.path = dir

/-- The invariant of histories without changes of files. -/
structure Steady (o : Options) (excluded : List Pattern) (w : World) (asked : String → Prop)
    (m : Moment) : Prop where
  configured : Configured o excluded w.grammarFault m
  tree : m.world.tree = w.tree
  now : NotAfter w.now m.world.now
  entries : m.service.cache.Entrywise (OwnEntry o excluded w)
    (SharedEntry o excluded w asked m.world.now) (RecordedOwner o excluded w asked)

theorem steady_start : Steady o excluded w asked (start o excluded w) :=
  ⟨configured_start o excluded w, rfl, notAfter_refl w.now, Cache.entrywise_empty⟩

theorem Steady.package?_eq (h : Steady o excluded w asked m) (file : String) :
    package? o excluded m.world file = package? o excluded w file := by
  rw [package?, package?, h.tree, h.configured.fault]

theorem Steady.askedFile (h : Steady o excluded w asked m) {path file : String}
    (hasked : asked path) (hfile : m.world.tree.absolute? path = some file) :
    AskedFile w asked file := by
  rw [h.tree] at hfile
  exact ⟨path, hasked, hfile⟩

/-- Files whose packages lie in one directory have one package. -/
theorem Agreeing.eq {f g : String} {package package' : Package}
    (hagree : Agreeing o excluded w asked) (haf : AskedFile w asked f)
    (hag : AskedFile w asked g) (hf : package? o excluded w f = .ok (some package))
    (hg : package? o excluded w g = .ok (some package')) (hpath : package.path = package'.path) :
    package = package' := by
  by_cases hdirf : package'.path = Path.parent f
  · have hf' := hagree g f package' hag haf hg hdirf
    rw [hf] at hf'
    cases hf'
    rfl
  · by_cases hdirg : package.path = Path.parent g
    · have hg' := hagree f g package haf hag hf hdirg
      rw [hg] at hg'
      cases hg'
      rfl
    · rw [hpath] at hdirg
      rw [← hpath] at hdirf
      exact package?_unique hf hg hpath hdirf hdirg

/-- What the package tier gives for a file that is asked for is what a new service answers. -/
theorem Steady.of_fresh? (h : Steady o excluded w asked m)
    (hharmless : Harmless o excluded w asked)
    {file : String} (hasked : AskedFile w asked file) {e : Stored Revision}
    (he : Cache.fresh? o.packageLifetime m.world.now m.service.cache.packages
      (m.service.cache.ownerOf file) = some e) :
    ∃ package, package? o excluded w file = .ok (some package) ∧
      package.path = m.service.cache.ownerOf file ∧ e.value.result = .ofPackage package := by
  obtain ⟨hget, hfresh⟩ := Cache.fresh?_eq_some_iff.1 he
  obtain ⟨htime, g, package, hg, hpackage, hpath, hresult⟩ := h.entries.packages _ e hget
  obtain ⟨s, k, hnow⟩ := Cache.finite_of_isFresh hfresh htime
  have hstart : NotAfter w.now (.finite s k) := by
    rw [← hnow]
    exact h.now
  have hagree := hharmless (Cache.positive_of_isFresh hfresh htime)
    (lt_infinite_of_notAfter hstart)
  -- The entry is looked up under the recorded package, or under the directory of the file.
  cases howner : m.service.cache.owners.get? file with
  | none =>
      have hparent : m.service.cache.ownerOf file = Path.parent file := by
        rw [Cache.ownerOf, OrderedMap.getD, howner]
        rfl
      rw [hparent] at hpath ⊢
      exact ⟨package, hagree g file package hg hasked hpackage hpath, hpath, hresult⟩
  | some dir =>
      have hdir : m.service.cache.ownerOf file = dir := by
        rw [Cache.ownerOf, OrderedMap.getD, howner]
        rfl
      obtain ⟨-, own, hown, hownPath⟩ := h.entries.owners file dir howner
      rw [hdir] at hpath ⊢
      have heq : own = package :=
        hagree.eq hasked hg hown hpackage (hownPath.trans hpath.symm)
      rw [← heq] at hresult
      exact ⟨own, hown, hownPath, hresult⟩

theorem steady_parse (h : Steady o excluded w asked m)
    (hharmless : Harmless o excluded w asked)
    {path : String} (hasked : asked path) : Steady o excluded w asked (m.after (.parse path)) := by
  refine ⟨configured_after h.configured (.parse path), h.tree, h.now,
    entrywise_parse h.configured h.entries path ?_ ?_⟩
  · intro file hfile e he
    have haf := h.askedFile hasked hfile
    obtain ⟨package, hpackage, hpath, hresult⟩ := h.of_fresh? hharmless haf he
    exact ⟨⟨package, hpackage, hresult⟩, haf, package, hpackage, hpath⟩
  · intro file hfile package e hpackage htime hresult
    rw [h.package?_eq] at hpackage
    have haf := h.askedFile hasked hfile
    exact ⟨⟨package, hpackage, hresult⟩, ⟨.inl htime, file, package, haf, hpackage, rfl, hresult⟩,
      haf, package, hpackage, rfl⟩

theorem steady_after (h : Steady o excluded w asked m)
    (hharmless : Harmless o excluded w asked)
    {a : Action} (ha : a.Within asked) : Steady o excluded w asked (m.after a) := by
  have hconfigured := configured_after h.configured a
  cases a with
  | parse path => exact steady_parse h hharmless ha
  | invalidate path => exact ⟨hconfigured, h.tree, h.now, entrywise_invalidate h.entries path⟩
  | wait time =>
      rw [after] at hconfigured ⊢
      by_cases hlater : m.world.now.le time = true
      · rw [if_pos hlater] at hconfigured ⊢
        refine ⟨hconfigured, h.tree, notAfter_trans h.now (.inr hlater), ?_⟩
        refine h.entries.mono (fun _ _ he => he) ?_ (fun _ _ hp => hp)
        rintro dir e ⟨htime, hshared⟩
        exact ⟨notAfter_trans htime (.inr hlater), hshared⟩
      · rw [if_neg hlater]
        exact h
  | change tree => exact ha.elim

/-- The invariant holds after every history without changes of files. -/
theorem steady_run
    (hharmless : Harmless o excluded w asked)
    {actions : List Action} (hactions : ∀ a ∈ actions, a.Within asked) :
    Steady o excluded w asked ((start o excluded w).run actions) :=
  run_induction steady_start fun _ a ha hm => steady_after hm hharmless (hactions a ha)

/-- Under the invariant, a path that is asked for is answered like by a new service. -/
theorem Steady.answer_eq (h : Steady o excluded w asked m)
    (hharmless : Harmless o excluded w asked)
    {path : String} (hasked : asked path) : m.answer path = fresh o excluded w path := by
  have hplace : m.world.tree.absolute? path = w.tree.absolute? path := by rw [h.tree]
  cases hfile : w.tree.absolute? path with
  | none =>
      have hfile' := hplace.trans hfile
      exact (answer_of_not_absolute hfile').trans (answer_of_not_absolute hfile).symm
  | some file =>
      have hfile' := hplace.trans hfile
      have hown : ∀ r, (∃ package, package? o excluded w file = .ok (some package) ∧
          r = Result.ofPackage package) → Except.ok r = fresh o excluded w path := by
        rintro r ⟨package, hpackage, rfl⟩
        exact ((fresh_eq_ofPackage_iff hfile).2 hpackage).symm
      rcases Cache.get_cases o.lifetimes m.world.now file m.service.cache with
        ⟨e, he, hget⟩ | ⟨e, he, hget⟩ | hget
      · rw [answer_of_hit h.configured hfile' (congrArg Prod.fst hget)]
        exact hown _ (h.entries.files _ e (Cache.fresh?_eq_some_iff.1 he).1)
      · rw [answer_of_hit h.configured hfile' (congrArg Prod.fst hget)]
        obtain ⟨package, hpackage, -, hresult⟩ :=
          h.of_fresh? hharmless (h.askedFile hasked hfile') he
        exact hown _ ⟨package, hpackage, hresult⟩
      · rw [answer_of_miss h.configured hfile' (congrArg Prod.fst hget), h.package?_eq,
          fresh_eq o excluded hfile]

end Invariant

section Siblings

variable [PatternLanguage] [Grammar] {o : Options} {excluded : List Pattern} {w : World}
  {p q f g : String} {package : Package}

/-- Right after a file, any other path of the directory of its package gets the same answer. -/
theorem answer_after_parse {s : Bool} {k : Nat} (hnow : w.now = .finite s k)
    (hpositive : (0 : Double).lt o.packageLifetime = true)
    (hf : w.tree.absolute? p = some f) (hg : w.tree.absolute? q = some g)
    (hpackage : package? o excluded w f = .ok (some package))
    (hpath : package.path = Path.parent g) (hne : f ≠ g) :
    ((start o excluded w).after (.parse p)).answer q = .ok (.ofPackage package) := by
  obtain ⟨s', r, hafter, hresult, hcache⟩ := after_parse_of_miss (configured_start o excluded w) hf
    (rfl : (Cache.get o.lifetimes w.now f .empty).1 = none) hpackage
  have hconfigured := configured_after (configured_start o excluded w) (.parse p)
  have hhome : HasHome.home? r = some (Path.parent g) := by
    rw [← hpath]
    exact home?_of_result hresult
  have hfresh : Cache.isFresh o.lifetimes.package w.now ⟨w.now, r⟩ = true :=
    Cache.isFresh_now hpositive hnow rfl
  have hget : (s'.cache.get o.lifetimes w.now g).1 = some r := by
    rw [hcache]
    exact Cache.get_put_of_sibling hhome hne rfl hfresh
  rw [hafter] at hconfigured ⊢
  rw [answer_of_hit hconfigured hg hget, hresult]

theorem start_after_wait {time : Double} (h : w.now.le time = true) :
    (start o excluded w).after (.wait time) = start o excluded { w with now := time } := by
  rw [after]
  exact if_pos h

end Siblings

section Example

/-- The working directory holds a file of a package and an external test of it. -/
def testedWorld : World where
  tree :=
    { entries := .ofList [("/", .directory), ("/w", .directory),
        ("/w/a.go", .file (Utf8.encode "package a\n")),
        ("/w/a_test.go", .file (Utf8.encode "package a_test\n"))]
      workingDirectory := some "/w" }
  grammarFault := none
  now := 1000

theorem factsOf_testedWorld :
    factsOf {} [] testedWorld.tree "/w"
      = .ok (readFiles testedWorld.tree ["/w/a.go", "/w/a_test.go"]).value := by
  have hlists : Lists {} [] testedWorld.tree "/w" "/w" ["a.go", "a_test.go"]
      ["/w/a.go", "/w/a_test.go"] := by decide +kernel
  exact factsOf_of_lists hlists

/-- In the directory of the files, each file has the package that it names. -/
theorem package?_testedWorld {path name : String} (hfile : testedWorld.tree.isFile path = true)
    (hparent : Path.parent path = "/w")
    (hname : Assembly.chooseName (readFiles testedWorld.tree ["/w/a.go", "/w/a_test.go"]).value
      (some path) = some name) :
    ∃ findings, package? {} [] testedWorld path = .ok (some ⟨"/w", name, findings⟩) := by
  have hfacts := factsOf_testedWorld
  rw [← hparent] at hfacts ⊢
  exact ⟨_, package?_of_own rfl hfile hfacts hname⟩

end Example

section Main

/--
**When the cache does not show.**  All answers to certain paths are those of a new service, after
every history in which only these paths are asked for and the files stay as they are, exactly under
the following condition: unless the package tier gives out nothing anyway, whenever the package of
one of the paths lies in the directory of another one, this is a file and chooses the same name.
-/
theorem answers_like_new_iff [PatternLanguage] [Grammar] (o : Options) (excluded : List Pattern)
    (w : World) (asked : String → Prop) :
    (∀ actions : List Action, (∀ a ∈ actions, a.Within asked) → ∀ path, asked path →
      ((start o excluded w).run actions).answer path = fresh o excluded w path)
    ↔
    ((0 : Double).lt o.packageLifetime = true → w.now.lt (.infinite false) = true →
      ∀ p q file package, asked p → asked q →
        fresh o excluded w p = .ok (.ofPackage package) →
        w.tree.absolute? q = some file → package.path = Path.parent file →
        w.tree.isFile file = true ∧
          ∃ files, factsOf o excluded w.tree package.path = .ok files ∧
            Assembly.chooseName files (some file) = some package.name) := by
  constructor
  · intro h hpositive hbounded p q file package hp hq hfresh hfile hpath
    obtain ⟨f, hf⟩ := exists_absolute_of_answer hfresh
    have hpackage := (fresh_eq_ofPackage_iff hf).1 hfresh
    refine (package?_sibling_iff hpackage hpath).1 ?_
    by_cases hsame : f = file
    · rw [← hsame]
      exact hpackage
    · -- The clock need not show a number yet, but may come to show one.
      obtain ⟨s, k, hlater⟩ := exists_finite_of_lt_infinite hbounded
      have hthen : package? o excluded { w with now := .finite s k } f = .ok (some package) := by
        rw [package?_of_now]
        exact hpackage
      have hwithin : ∀ a ∈ [Action.wait (.finite s k), .parse p], a.Within asked := by
        intro a ha
        rcases List.mem_cons.1 ha with rfl | ha
        · trivial
        · cases List.mem_singleton.1 ha
          exact hp
      have heq := h [.wait (.finite s k), .parse p] hwithin q hq
      rw [run_cons, run_cons, run_nil, start_after_wait hlater,
        answer_after_parse (w := { w with now := .finite s k }) rfl hpositive hf hfile hthen hpath
          hsame] at heq
      exact (fresh_eq_ofPackage_iff hfile).1 heq.symm
  · intro h actions hactions path hpath
    have hharmless : Harmless o excluded w asked := by
      rintro hpositive hbounded f g package ⟨p, hp, hf⟩ ⟨q, hq, hg⟩ hpackage hdir
      exact (package?_sibling_iff hpackage hdir).2
        (h hpositive hbounded p q g package hp hq ((fresh_eq_ofPackage_iff hf).2 hpackage) hg hdir)
    exact (steady_run hharmless hactions).answer_eq hharmless hpath

/-- After a file of the package, its external test is answered as if it were of that package. -/
theorem external_test_answered_like_package :
    let m := (start {} [] testedWorld).run [.parse "a.go"]
    let names (r : Result) : List String := r.packageList.map (·.name)
    (m.answer "a_test.go").map names = .ok ["a"]
    ∧
    (fresh {} [] testedWorld "a_test.go").map names = .ok ["a_test"]
    ∧
    m.answer "a_test.go" ≠ fresh {} [] testedWorld "a_test.go" := by
  intro m names
  have hfile : testedWorld.tree.absolute? "a.go" = some "/w/a.go" := by decide +kernel
  have htest : testedWorld.tree.absolute? "a_test.go" = some "/w/a_test.go" := by decide +kernel
  obtain ⟨findings, hpackage⟩ : ∃ findings,
      package? {} [] testedWorld "/w/a.go" = .ok (some ⟨"/w", "a", findings⟩) :=
    package?_testedWorld (by decide +kernel) (by decide +kernel) (by decide +kernel)
  obtain ⟨findings', hpackage'⟩ : ∃ findings,
      package? {} [] testedWorld "/w/a_test.go" = .ok (some ⟨"/w", "a_test", findings⟩) :=
    package?_testedWorld (by decide +kernel) (by decide +kernel) (by decide +kernel)
  have hclock : testedWorld.now = .finite false (1000 <<< unitScale) := by decide +kernel
  have hpositive : (0 : Double).lt ({} : Options).packageLifetime = true := by decide +kernel
  have hparent : "/w" = Path.parent "/w/a_test.go" := by decide +kernel
  have hanswer : m.answer "a_test.go" = .ok (.ofPackage ⟨"/w", "a", findings⟩) :=
    answer_after_parse hclock hpositive hfile htest hpackage hparent (by decide)
  have hfresh : fresh {} [] testedWorld "a_test.go"
      = .ok (.ofPackage ⟨"/w", "a_test", findings'⟩) :=
    (fresh_eq_ofPackage_iff htest).2 hpackage'
  rw [hanswer, hfresh]
  refine ⟨rfl, rfl, ?_⟩
  intro heq
  have hnames : ["a"] = ["a_test"] := congrArg names (Except.ok.inj heq)
  exact absurd hnames (by decide)

end Main

end Moment
end Conformance
