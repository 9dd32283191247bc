import Conformance.Proofs.Number.Rounding
import Conformance.Proofs.Resolution.Priority
import Mathlib.Data.List.Forall2

/-!
# More facts, more implementations

A result that states more than another one has at least the implementations of the other.

**More facts.**  `ReceiversGrow` says that every type keeps its methods, `StructsGrow` that every
struct keeps its place among the others, its embedded types and its claims.  New types, structs and
fields may come in anywhere.

**First two rules.**  A pair depends on a claim, or on how many of the required methods a type has
(`has_direct_iff`); a rate goes up with that number, since rounding keeps the order.

**Passes.**  The visit of a struct gives it whatever its embedded types stand for or implement
before the visit (`has_visit`), so the order of its fields does not matter.  A pass over more
structs, from more pairs, is then ahead of a pass over fewer after each struct that both have
(`foldl_visit_mono`). The closure makes as many rounds as the limit allows, whether or not they add
anything, so two closures with the same limit are compared round by round.

**Results.**
* `round_mono`: more structs and more pairs give more pairs after a round;
* `resolve_monotone`: more facts never remove an implementation.
-/

namespace Conformance
namespace Resolution

section Specification

/-- The types of the embedded fields of a struct. -/
def embeddedTypes (s : StructSummary) : List String :=
  (s.fields.values.filter (·.embedded)).map (·.typeName)

/-- A struct keeps its embedded types and its claims. -/
structure SummaryGrows (s s' : StructSummary) : Prop where
  embedded : embeddedTypes s ⊆ embeddedTypes s'
  claims : s.implements ⊆ s'.implements

/-- A struct keeps its name as well. -/
def EntryGrows (e e' : String × StructSummary) : Prop :=
  e.1 = e'.1 ∧ SummaryGrows e.2 e'.2

/-- The structs keep their order, and each of them its embedded types and its claims. -/
def StructsGrow (structs structs' : OrderedMap String StructSummary) : Prop :=
  List.SublistForall₂ EntryGrows structs.entries structs'.entries

/-- A receiver stands for this type. -/
def IsReceived (receivers : OrderedMap String (List String)) (x : String) : Prop :=
  ∃ receiver ∈ receivers.keys, baseName receiver = x

/-- Every type keeps its methods. -/
def ReceiversGrow (receivers receivers' : OrderedMap String (List String)) : Prop :=
  ∀ x, IsReceived receivers x →
    IsReceived receivers' x ∧ methodsOf receivers x ⊆ methodsOf receivers' x

/-- Every pair of the first resolution is one of the second. -/
def Within (r r' : Resolution) : Prop :=
  ∀ i x, r.has i x = true → r'.has i x = true

theorem Within.trans {r r' r'' : Resolution} (h : Within r r') (h' : Within r' r'') :
    Within r r'' :=
  fun i x hix => h' i x (h i x hix)

end Specification

section FirstRules

variable {o : Options} {interfaces receivers receivers' : OrderedMap String (List String)}
  {structs structs' : OrderedMap String StructSummary} {i x : String}

/-- A coverage is worth an edge, whatever it is called. -/
def Suffices (threshold : Double) (c : Coverage) : Prop :=
  c.isFull = true ∨ threshold.le c.rate = true

theorem isSome_edgeOf {threshold : Double} {fullReason : Reason} {c : Coverage} :
    (edgeOf threshold fullReason c).isSome = true ↔ Suffices threshold c := by
  rw [edgeOf, Suffices]
  split
  next hfull => simp [hfull]
  next hfull =>
    split
    next hrate => simp [hrate]
    next hrate => simp [hfull, hrate]

/-- The first two rules give a pair for a claim or for enough methods. -/
theorem has_direct_iff :
    (direct o interfaces receivers structs).has i x = true ↔
      Claimed interfaces structs i x ∨
      ∃ required, Compared interfaces receivers i x required ∧
        Suffices o.threshold (.of required (methodsOf receivers x)) := by
  rw [has_eq_isSome, edge?_direct, Option.isSome_or, Bool.or_eq_true]
  refine or_congr ?_ ?_
  · by_cases hclaimed : Claimed interfaces structs i x
    · simp [(edge?_addClaims i x).1 hclaimed, hclaimed]
    · simp [(edge?_addClaims i x).2 hclaimed, hclaimed]
  · by_cases hcompared : ∃ required, Compared interfaces receivers i x required
    · obtain ⟨required, hrequired⟩ := hcompared
      rw [matchEdge?_of_compared hrequired, isSome_edgeOf]
      constructor
      · exact fun h => ⟨required, hrequired, h⟩
      · rintro ⟨required', hrequired', h⟩
        obtain rfl : required' = required :=
          Option.some.inj (hrequired'.1.symm.trans hrequired.1)
        exact h
    · rw [matchEdge?_of_not_compared fun required h => hcompared ⟨required, h⟩]
      simp only [Option.isSome_none, Bool.false_eq_true, false_iff]
      exact fun ⟨required, h, _⟩ => hcompared ⟨required, h⟩

/-- More methods cover more of what is required, and no more is required. -/
theorem covered_mono {available available' : List String} (h : available ⊆ available')
    (required : List String) :
    (Coverage.of required available).covered ≤ (Coverage.of required available').covered := by
  refine (List.monotone_filter_right _ ?_).length_le
  intro name hname
  rw [List.contains_iff_mem] at hname ⊢
  exact h hname

theorem Suffices.mono {threshold : Double} {required available available' : List String}
    (hsub : available ⊆ available') (h : Suffices threshold (.of required available)) :
    Suffices threshold (.of required available') := by
  rcases h with hfull | hrate
  · rw [Coverage.isFull_iff] at hfull
    exact .inl (Coverage.isFull_iff.2 ⟨hfull.1, fun name hname => hsub (hfull.2 name hname)⟩)
  · refine .inr (Double.le_trans hrate ?_)
    have hsame : (Coverage.of required available').required
        = (Coverage.of required available).required := rfl
    rw [Coverage.rate, Coverage.rate, hsame]
    by_cases hnone : (Coverage.of required available).required = 0
    · rw [if_pos hnone, if_pos hnone]
      rfl
    · rw [if_neg hnone, if_neg hnone]
      exact Double.ofRatio_le_ofRatio (Nat.pos_of_ne_zero hnone) (covered_mono hsub required)

/-- A struct is still there after the structs have grown. -/
theorem exists_grown_of_mem {es es' : List (String × StructSummary)}
    (h : List.SublistForall₂ EntryGrows es es') {s : StructSummary} (hmem : (x, s) ∈ es) :
    ∃ s', (x, s') ∈ es' ∧ SummaryGrows s s' := by
  induction h with
  | nil => cases hmem
  | @cons e e' es es' hgrows _ ih =>
      rcases List.mem_cons.1 hmem with rfl | hmem
      · refine ⟨e'.2, ?_, hgrows.2⟩
        rw [show x = e'.1 from hgrows.1]
        exact List.mem_cons_self
      · obtain ⟨s', hmem', hgrows'⟩ := ih hmem
        exact ⟨s', List.mem_cons_of_mem _ hmem', hgrows'⟩
  | cons_right _ ih =>
      obtain ⟨s', hmem', hgrows'⟩ := ih hmem
      exact ⟨s', List.mem_cons_of_mem _ hmem', hgrows'⟩

theorem Claimed.mono (hstructs : StructsGrow structs structs')
    (h : Claimed interfaces structs i x) : Claimed interfaces structs' i x := by
  obtain ⟨hname, summary, hget, hclaim⟩ := h
  obtain ⟨summary', hmem', hgrows⟩ :=
    exists_grown_of_mem hstructs (OrderedMap.get?_eq_some_iff.1 hget)
  exact ⟨hname, summary', OrderedMap.get?_eq_some_iff.2 hmem', hgrows.claims hclaim⟩

theorem direct_mono (hreceivers : ReceiversGrow receivers receivers')
    (hstructs : StructsGrow structs structs') :
    Within (direct o interfaces receivers structs) (direct o interfaces receivers' structs') := by
  intro i x h
  rw [has_direct_iff] at h ⊢
  rcases h with hclaimed | ⟨required, ⟨hget, hne, hreceived⟩, hsuffices⟩
  · exact .inl (hclaimed.mono hstructs)
  · obtain ⟨hreceived', hsub⟩ := hreceivers x hreceived
    exact .inr ⟨required, ⟨hget, hne, hreceived'⟩, hsuffices.mono hsub⟩

end FirstRules

section Rounds

variable {names : List String} {structs structs' : OrderedMap String StructSummary}
  {r r' : Resolution} {i x : String}

theorem has_handOn {e : Embedding} {j : String} :
    (handOn e r j).has i x = true ↔
      r.has i x = true ∨
        (x = e.structName ∧ i = j ∧ (e.typeName = i ∨ r.has i e.typeName = true)) := by
  rw [handOn]
  split
  next h =>
    rw [has_add]
    refine or_congr_right ⟨?_, ?_⟩
    · rintro ⟨rfl, rfl⟩
      exact ⟨rfl, rfl, h⟩
    · rintro ⟨rfl, rfl, -⟩
      exact ⟨rfl, rfl⟩
  next h =>
    refine ⟨.inl, ?_⟩
    rintro (hr | ⟨-, rfl, hi⟩)
    · exact hr
    · exact absurd hi h

/-- An embedded field hands on the interfaces that its type stands for or implements. -/
theorem has_handOnAll {e : Embedding} :
    (names.foldl (handOn e) r).has i x = true ↔
      r.has i x = true ∨
        (x = e.structName ∧ i ∈ names ∧ (e.typeName = i ∨ r.has i e.typeName = true)) := by
  induction names generalizing r with
  | nil => simp
  | cons j names ih =>
      -- What a struct that embeds itself gets from the first name, it had before.
      have hsame : e.typeName = i ∨ (handOn e r j).has i e.typeName = true ↔
          e.typeName = i ∨ r.has i e.typeName = true := by
        rw [has_handOn]
        tauto
      rw [List.foldl_cons, ih, hsame, has_handOn, List.mem_cons]
      tauto

/-- The visit of a struct: its embedded fields, one after the other. -/
def visit (names : List String) (r : Resolution) (e : String × StructSummary) : Resolution :=
  (embeddedTypes e.2).foldl (fun r t => names.foldl (handOn ⟨e.1, t⟩) r) r

theorem round_eq_foldl_visit : round names structs r = structs.entries.foldl (visit names) r := by
  rw [round, embeddings, List.foldl_flatMap]
  congr 1
  funext r e
  rw [visit, embeddedTypes, List.foldl_map, List.foldl_map]

/-- A struct gets what its embedded types stand for or implement before it is visited. -/
theorem has_visit {e : String × StructSummary} :
    (visit names r e).has i x = true ↔
      r.has i x = true ∨
        (x = e.1 ∧ i ∈ names ∧ ∃ t ∈ embeddedTypes e.2, t = i ∨ r.has i t = true) := by
  rw [visit]
  induction embeddedTypes e.2 generalizing r with
  | nil => simp
  | cons t types ih =>
      rw [List.foldl_cons, ih, has_handOnAll]
      constructor
      · rintro ((hr | ⟨hx, hi, ht⟩) | ⟨hx, hi, t', ht', himplied⟩)
        · exact .inl hr
        · exact .inr ⟨hx, hi, t, List.mem_cons_self, ht⟩
        · rw [has_handOnAll] at himplied
          rcases himplied with heq | hr | ⟨-, -, ht⟩
          · exact .inr ⟨hx, hi, t', List.mem_cons_of_mem t ht', .inl heq⟩
          · exact .inr ⟨hx, hi, t', List.mem_cons_of_mem t ht', .inr hr⟩
          · exact .inr ⟨hx, hi, t, List.mem_cons_self, ht⟩
      · rintro (hr | ⟨hx, hi, t', ht', himplied⟩)
        · exact .inl (.inl hr)
        · rcases List.mem_cons.1 ht' with rfl | ht'
          · exact .inl (.inr ⟨hx, hi, himplied⟩)
          · refine .inr ⟨hx, hi, t', ht', ?_⟩
            exact himplied.imp_right fun hr => has_handOnAll.2 (.inl hr)

theorem within_visit (e : String × StructSummary) : Within r (visit names r e) :=
  fun _ _ h => has_visit.2 (.inl h)

theorem visit_mono {e e' : String × StructSummary} (hname : e.1 = e'.1)
    (hgrows : SummaryGrows e.2 e'.2) (h : Within r r') :
    Within (visit names r e) (visit names r' e') := by
  intro i x hix
  rw [has_visit] at hix ⊢
  rcases hix with hr | ⟨hx, hi, t, ht, himplied⟩
  · exact .inl (h i x hr)
  · exact .inr ⟨hx.trans hname, hi, t, hgrows.embedded ht, himplied.imp_right (h i t)⟩

theorem within_foldl_visit (es : List (String × StructSummary)) :
    Within r (es.foldl (visit names) r) := by
  induction es generalizing r with
  | nil => exact fun _ _ h => h
  | cons e es ih => exact (within_visit e).trans ih

/-- Visits to more structs, from more pairs, lead to more pairs. -/
theorem foldl_visit_mono {es es' : List (String × StructSummary)}
    (hes : List.SublistForall₂ EntryGrows es es')
    (h : Within r r') : Within (es.foldl (visit names) r) (es'.foldl (visit names) r') := by
  induction hes generalizing r r' with
  | nil => exact h.trans (within_foldl_visit _)
  | cons he _ ih => exact ih (visit_mono he.1 he.2 h)
  | cons_right _ ih => exact ih (h.trans (within_visit _))

/-- A round over more structs, from more pairs, leads to more pairs. -/
theorem round_mono (hstructs : StructsGrow structs structs') (h : Within r r') :
    Within (round names structs r) (round names structs' r') := by
  rw [round_eq_foldl_visit, round_eq_foldl_visit]
  exact foldl_visit_mono hstructs h

theorem iterate_round_mono (hstructs : StructsGrow structs structs') (limit : Nat)
    (h : Within r r') :
    Within ((round names structs)^[limit] r) ((round names structs')^[limit] r') := by
  induction limit generalizing r r' with
  | zero => exact h
  | succ limit ih => exact ih (round_mono hstructs h)

end Rounds

section Additions

variable {receivers : OrderedMap String (List String)} {structs : OrderedMap String StructSummary}
  {x : String}

theorem SummaryGrows.refl (s : StructSummary) : SummaryGrows s s :=
  ⟨fun _ h => h, fun _ h => h⟩

instance : Std.Refl EntryGrows :=
  ⟨fun e => ⟨rfl, .refl e.2⟩⟩

theorem receiversGrow_refl (receivers : OrderedMap String (List String)) :
    ReceiversGrow receivers receivers :=
  fun _ h => ⟨h, fun _ hm => hm⟩

theorem structsGrow_refl (structs : OrderedMap String StructSummary) :
    StructsGrow structs structs :=
  (List.Sublist.refl structs.entries).sublistForall₂

theorem mem_methodsOf {m : String} :
    m ∈ methodsOf receivers x ↔
      ∃ receiver methods, receivers.get? receiver = some methods ∧ baseName receiver = x ∧
        m ∈ methods ∧ Query.isMark m = false := by
  simp only [methodsOf, List.mem_flatMap, List.mem_filter, OrderedMap.get?_eq_some_iff,
    beq_iff_eq, Bool.not_eq_true', Prod.exists, and_assoc]

/-- A receiver may be given more methods. -/
theorem receiversGrow_insert {receiver : String} {methods : List String}
    (h : ∀ old, receivers.get? receiver = some old → old ⊆ methods) :
    ReceiversGrow receivers (receivers.insert receiver methods) := by
  rintro x ⟨name, hname, rfl⟩
  refine ⟨⟨name, OrderedMap.mem_keys_insert.2 (.inl hname), rfl⟩, ?_⟩
  intro m hm
  obtain ⟨name', old, hget, hbase, hmem, hmark⟩ := mem_methodsOf.1 hm
  rw [mem_methodsOf]
  by_cases hsame : receiver = name'
  · subst hsame
    exact ⟨receiver, methods, by simp, hbase, h old hget hmem, hmark⟩
  · exact ⟨name', old, by simp [hsame, hget], hbase, hmem, hmark⟩

theorem grows_insertEntry {s : StructSummary} {es : List (String × StructSummary)}
    (h : ∀ old, (x, old) ∈ es → SummaryGrows old s) :
    List.SublistForall₂ EntryGrows es (OrderedMap.insertEntry x s es) := by
  induction es with
  | nil => exact .nil
  | cons e es ih =>
      obtain ⟨y, old⟩ := e
      rw [OrderedMap.insertEntry]
      split
      next heq =>
        subst heq
        exact .cons ⟨rfl, h old List.mem_cons_self⟩ (List.Sublist.refl es).sublistForall₂
      next =>
        exact .cons ⟨rfl, .refl old⟩ (ih fun old hmem => h old (List.mem_cons_of_mem _ hmem))

/-- A struct may be replaced by one that has grown, or come in. -/
theorem structsGrow_insert {s : StructSummary}
    (h : ∀ old, structs.get? x = some old → SummaryGrows old s) :
    StructsGrow structs (structs.insert x s) :=
  grows_insertEntry fun old hmem => h old (OrderedMap.get?_eq_some_iff.2 hmem)

theorem summaryGrows_claim (s : StructSummary) (i : String) :
    SummaryGrows s { s with implements := s.implements ++ [i] } :=
  ⟨fun _ h => h, List.subset_append_left _ _⟩

theorem summaryGrows_field {s : StructSummary} {f : Field} (hnew : f.name ∉ s.fields.keys) :
    SummaryGrows s { s with fields := s.fields.insert f.name f } := by
  refine ⟨?_, fun _ h => h⟩
  rw [embeddedTypes, embeddedTypes, OrderedMap.values, OrderedMap.values,
    OrderedMap.entries_insert_of_not_mem hnew, List.map_append, List.filter_append,
    List.map_append]
  exact List.subset_append_left _ _

end Additions

section Main

/-- A pair of a resolution is still there after receivers and structs have grown. -/
theorem resolve_within {o : Options}
    {interfaces receivers receivers' : OrderedMap String (List String)}
    {structs structs' : OrderedMap String StructSummary}
    (hreceivers : ReceiversGrow receivers receivers') (hstructs : StructsGrow structs structs') :
    Within (resolve o interfaces receivers structs) (resolve o interfaces receivers' structs') := by
  rw [resolve, resolve, resolution_close, resolution_close]
  exact iterate_round_mono hstructs o.maxPasses.toNat (direct_mono hreceivers hstructs)

/--
**More facts, more implementations.**  Whatever the threshold and the limit on passes, every pair of
a resolution is kept if every type keeps its methods and every struct its place, its embedded types
and its claims, even if there were no structs before.  So a method, a directive, a field or a struct
that comes in never removes an implementation.
-/
theorem resolve_monotone (o : Options) (interfaces receivers : OrderedMap String (List String))
    (structs : OrderedMap String StructSummary) :
    let found := resolve o interfaces receivers structs
    (∀ receivers' structs', ReceiversGrow receivers receivers' → StructsGrow structs structs' →
      Within found (resolve o interfaces receivers' structs'))
    ∧
    (∀ receiver method, Within found (resolve o interfaces
      (receivers.adjust receiver fun known => known.getD [] ++ [method]) structs))
    ∧
    (∀ x s i, structs.get? x = some s → Within found (resolve o interfaces receivers
      (structs.insert x { s with implements := s.implements ++ [i] })))
    ∧
    (∀ x s f, structs.get? x = some s → f.name ∉ s.fields.keys →
      Within found (resolve o interfaces receivers
        (structs.insert x { s with fields := s.fields.insert f.name f })))
    ∧
    (∀ x s, x ∉ structs.keys →
      Within found (resolve o interfaces receivers (structs.insert x s))) := by
  intro found
  refine ⟨fun _ _ => resolve_within, ?_, ?_, ?_, ?_⟩
  · intro receiver method
    refine resolve_within (receiversGrow_insert ?_) (structsGrow_refl structs)
    intro old hold
    rw [hold]
    exact List.subset_append_left old [method]
  · intro x s i hs
    refine resolve_within (receiversGrow_refl receivers) (structsGrow_insert ?_)
    intro old hold
    obtain rfl : s = old := Option.some.inj (hs.symm.trans hold)
    exact summaryGrows_claim s i
  · intro x s f hs hnew
    refine resolve_within (receiversGrow_refl receivers) (structsGrow_insert ?_)
    intro old hold
    obtain rfl : s = old := Option.some.inj (hs.symm.trans hold)
    exact summaryGrows_field hnew
  · intro x s hx
    refine resolve_within (receiversGrow_refl receivers) (structsGrow_insert ?_)
    intro old hold
    exact absurd (OrderedMap.mem_keys_iff.2 ⟨old, hold⟩) hx

/-- An embedded field. -/
def embeddedField (typeName : String) : Field :=
  { name := typeName, typeName, location := ⟨0, "a.go"⟩, embedded := true }

/-- A struct with embedded fields only. -/
def layer (name : String) (types : List String) : StructSummary where
  name := name
  location := ⟨0, "a.go"⟩
  fields := .ofList (types.map fun t => (t, embeddedField t))

/-- An interface with two methods. -/
def streams : OrderedMap String (List String) :=
  ⟨[("Reader", ["Read", "Close"])], by decide⟩

/-- A type that has them, one on a value and one on a pointer. -/
def files : OrderedMap String (List String) :=
  ⟨[("File", ["Read"]), ("*File", ["Close"])], by decide⟩

/-- A struct that embeds the type. -/
def buffers : OrderedMap String StructSummary :=
  ⟨[("Buffer", layer "Buffer" ["File"])], by decide⟩

/-- The same struct with one more embedded field, after a struct that embeds it. -/
def pools : OrderedMap String StructSummary :=
  ⟨[("Pool", layer "Pool" ["Buffer"]), ("Buffer", layer "Buffer" ["Lock", "File"])], by decide⟩

/-- The struct keeps its interface in a single pass, whatever comes in. -/
theorem resolve_monotone_buffer :
    let o : Options := { maxPasses := 1 }
    let found := resolve o streams files buffers
    let buffer := layer "Buffer" ["File"]
    let lock := embeddedField "Lock"
    found.has "Reader" "Buffer" = true
    ∧
    (ReceiversGrow files (files.insert "File" ["Seek", "Read"]) ∧ StructsGrow buffers pools ∧
      Within found (resolve o streams (files.insert "File" ["Seek", "Read"]) pools))
    ∧
    (buffers.get? "Buffer" = some buffer ∧ Within found (resolve o streams files
      (buffers.insert "Buffer" { buffer with implements := buffer.implements ++ ["Lock"] })))
    ∧
    (lock.name ∉ buffer.fields.keys ∧ Within found (resolve o streams files
      (buffers.insert "Buffer" { buffer with fields := buffer.fields.insert lock.name lock })))
    ∧
    ("Pool" ∉ buffers.keys ∧ Within found (resolve o streams files
      (buffers.insert "Pool" (layer "Pool" ["Buffer"])))) := by
  intro o found buffer lock
  obtain ⟨hgrow, -, hclaim, hfield, hstruct⟩ := resolve_monotone o streams files buffers
  have hreceivers : ReceiversGrow files (files.insert "File" ["Seek", "Read"]) := by
    refine receiversGrow_insert fun old hold => ?_
    obtain rfl : ["Read"] = old := Option.some.inj hold
    decide
  have hstructs : StructsGrow buffers pools :=
    .cons_right (.cons ⟨rfl, by decide, by decide⟩ .nil)
  have hbuffer : buffers.get? "Buffer" = some buffer := rfl
  have hlock : lock.name ∉ buffer.fields.keys := by decide
  have hpool : "Pool" ∉ buffers.keys := by decide
  refine ⟨by decide +kernel, ⟨hreceivers, hstructs, hgrow _ _ hreceivers hstructs⟩, ?_, ?_, ?_⟩
  · exact ⟨hbuffer, hclaim "Buffer" buffer "Lock" hbuffer⟩
  · exact ⟨hlock, hfield "Buffer" buffer lock hbuffer hlock⟩
  · exact ⟨hpool, hstruct "Pool" (layer "Pool" ["Buffer"]) hpool⟩

end Main

end Resolution
end Conformance
