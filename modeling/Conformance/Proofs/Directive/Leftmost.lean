import Conformance.Proofs.Directive.Grammar

/-!
# The leftmost directives of a text

`scanFrom` goes through a text character by character and skips what it reads as a directive.  This
module says which directives that are, by their places in the text alone.

**Occurrences.**  A span is a directive with the places where it starts and stops.  `Occurs` says
that the text has it there, by the grammar; at one place there is at most one
(`Occurs.eq_of_start_eq`).

**Selection.**  `Leftmost` takes the first occurrence from some place on, and goes on where it
stops. It leaves no choice (`Leftmost.unique`), its spans follow one another (`Leftmost.pairwise`),
and an occurrence that it leaves out starts inside of a span that it takes (`Leftmost.covers`).

**Results.**
* `scanFrom_leftmost`: the scan from a place on reports the leftmost spans, each with the line on
  which it starts;
* `scan_leftmost`: so the directives of a comment are the leftmost ones, and no others can be read.
-/

namespace Conformance
namespace Directive

open Text

section Specification

/-- A directive in a text, from the place where it starts to the one after its end. -/
structure Span where
  start : Nat
  stop : Nat
  structName : List Char
  interfaceName : List Char

/-- The text has a directive of the grammar, with maximal names, at the span. -/
def Occurs (text : List Char) (s : Span) : Prop :=
  ∃ (before : List Char) (p : Parts) (after : List Char),
    text = before ++ (p.text ++ after)
    ∧ p.Fits before.getLast?
    ∧ p.IsMaximal after
    ∧ s = ⟨before.length, before.length + p.text.length, p.structName, p.interfaceName⟩

/--
The spans that are found from the place `k` on, where each time the leftmost occurrence is taken and
the search goes on at the end of it.
-/
inductive Leftmost (text : List Char) : Nat → List Span → Prop
  | done {k : Nat} (h : ∀ s, Occurs text s → s.start < k) : Leftmost text k []
  | found {k : Nat} {s : Span} {spans : List Span} (hoccurs : Occurs text s) (hk : k ≤ s.start)
      (hleftmost : ∀ s', Occurs text s' → k ≤ s'.start → s.start ≤ s'.start)
      (hrest : Leftmost text s.stop spans) : Leftmost text k (s :: spans)

/-- What is reported of a span: its names, and the line on which its keyword starts. -/
def Span.report (start : Location) (text : List Char) (s : Span) : Conformance.Directive :=
  ⟨String.ofList s.structName, String.ofList s.interfaceName,
    ⟨start.line + lineEnds (text.take s.start), start.file⟩⟩

/-- The span of a directive that is read at the start of `cs`, after `before`. -/
def Occurrence.span (before cs : List Char) (o : Occurrence) : Span :=
  ⟨before.length, before.length + (cs.length - o.rest.length), o.structName, o.interfaceName⟩

end Specification

section Occurs

variable {text before cs : List Char} {s s' : Span}

theorem Parts.Fits.text_ne_nil {c : Option Char} {p : Parts} (h : p.Fits c) : p.text ≠ [] := by
  obtain ⟨d, ds, hname, -⟩ := h.structName
  simp [Parts.text, hname]

theorem Occurs.start_lt_stop (h : Occurs text s) : s.start < s.stop := by
  obtain ⟨before, p, after, -, hfits, -, rfl⟩ := h
  have : 0 < p.text.length := List.length_pos_iff.2 hfits.text_ne_nil
  show before.length < before.length + p.text.length
  omega

theorem Occurs.start_le_length (h : Occurs text s) : s.start ≤ text.length := by
  obtain ⟨before, p, after, rfl, -, -, rfl⟩ := h
  rw [List.length_append]
  exact Nat.le_add_right _ _

/-- What is read at a place is what occurs there. -/
theorem occurs_iff (hs : s.start = before.length) :
    Occurs (before ++ cs) s ↔
      ∃ o, occurrence? before.getLast? cs = some o ∧ s = o.span before cs := by
  constructor
  · rintro ⟨before', p, after, htext, hfits, hmax, rfl⟩
    obtain ⟨rfl, rfl⟩ := List.append_inj htext hs.symm
    refine ⟨⟨p.structName, p.interfaceName, after⟩, ?_, ?_⟩
    · exact occurrence?_eq_some_iff.2 ⟨p, hfits, hmax, rfl, rfl, rfl⟩
    · rw [Occurrence.span, List.length_append, Nat.add_sub_cancel]
  · rintro ⟨o, ho, rfl⟩
    obtain ⟨p, hfits, hmax, rfl, hstruct, hinterface⟩ := occurrence?_eq_some_iff.1 ho
    refine ⟨before, p, o.rest, rfl, hfits, hmax, ?_⟩
    rw [Occurrence.span, List.length_append, Nat.add_sub_cancel, hstruct, hinterface]

/-- At one place a text has at most one directive. -/
theorem Occurs.eq_of_start_eq (h : Occurs text s) (h' : Occurs text s')
    (hstart : s.start = s'.start) : s = s' := by
  obtain ⟨before, p, after, rfl, -, -, hs⟩ := id h
  have hbefore : s.start = before.length := by rw [hs]
  obtain ⟨o, ho, rfl⟩ := (occurs_iff hbefore).1 h
  obtain ⟨o', ho', rfl⟩ := (occurs_iff (hstart.symm.trans hbefore)).1 h'
  rw [Option.some.inj (ho.symm.trans ho')]

/-- A reading of the grammar is one of the directive that starts where it does. -/
theorem Parts.Fits.exists_occurs {p : Parts} (h : p.Fits before.getLast?) (after : List Char) :
    ∃ s, Occurs (before ++ (p.text ++ after)) s ∧ s.start = before.length
      ∧ before.length + p.text.length ≤ s.stop
      ∧ s.structName = p.structName ∧ p.interfaceName <+: s.interfaceName := by
  obtain ⟨o, ho, hstruct, hinterface, hrest⟩ := h.exists_occurrence? after
  refine ⟨o.span before (p.text ++ after), (occurs_iff rfl).2 ⟨o, ho, rfl⟩, rfl, ?_, hstruct,
    hinterface⟩
  have := hrest.length_le
  simp only [Occurrence.span, List.length_append]
  omega

end Occurs

section Leftmost

variable {text : List Char} {k : Nat} {spans spans' : List Span}

theorem Leftmost.unique (h : Leftmost text k spans) (h' : Leftmost text k spans') :
    spans = spans' := by
  induction h generalizing spans' with
  | done hnone =>
      cases h' with
      | done => rfl
      | @found _ s' _ hoccurs hk => exact absurd (hnone s' hoccurs) (Nat.not_lt.2 hk)
  | @found k s spans hoccurs hk hleftmost hrest ih =>
      cases h' with
      | done hnone => exact absurd (hnone s hoccurs) (Nat.not_lt.2 hk)
      | @found _ s' spans' hoccurs' hk' hleftmost' hrest' =>
          have hstart : s.start = s'.start :=
            Nat.le_antisymm (hleftmost s' hoccurs' hk') (hleftmost' s hoccurs hk)
          obtain rfl := hoccurs.eq_of_start_eq hoccurs' hstart
          rw [ih hrest']

/-- A place where nothing occurs can be skipped. -/
theorem Leftmost.of_succ (hnone : ∀ s, Occurs text s → s.start ≠ k)
    (h : Leftmost text (k + 1) spans) : Leftmost text k spans := by
  have hskip : ∀ s, Occurs text s → k ≤ s.start → k + 1 ≤ s.start := by
    intro s hs hk
    have := hnone s hs
    omega
  cases h with
  | done h =>
      refine .done fun s hs => Nat.lt_of_not_le fun hk => ?_
      exact absurd (h s hs) (Nat.not_lt.2 (hskip s hs hk))
  | @found _ s _ hoccurs hk hleftmost hrest =>
      exact .found hoccurs (Nat.le_of_succ_le hk)
        (fun s' hs' hk' => hleftmost s' hs' (hskip s' hs' hk')) hrest

theorem Leftmost.occurs (h : Leftmost text k spans) : ∀ s ∈ spans, Occurs text s ∧ k ≤ s.start := by
  induction h with
  | done => simp
  | @found k s spans hoccurs hk hleftmost hrest ih =>
      refine List.forall_mem_cons.2 ⟨⟨hoccurs, hk⟩, fun s' hs' => ⟨(ih s' hs').1, ?_⟩⟩
      have := hoccurs.start_lt_stop
      have := (ih s' hs').2
      omega

/-- Each span ends before the next one starts. -/
theorem Leftmost.pairwise (h : Leftmost text k spans) :
    spans.Pairwise fun s s' => s.stop ≤ s'.start := by
  induction h with
  | done => exact .nil
  | found hoccurs hk hleftmost hrest ih =>
      exact List.pairwise_cons.2 ⟨fun s' hs' => (hrest.occurs s' hs').2, ih⟩

/-- What is not taken starts inside of something that is. -/
theorem Leftmost.covers (h : Leftmost text k spans) {s : Span} (hs : Occurs text s)
    (hk : k ≤ s.start) : ∃ r ∈ spans, r.start ≤ s.start ∧ s.start < r.stop := by
  induction h with
  | done hnone => exact absurd (hnone s hs) (Nat.not_lt.2 hk)
  | @found k r spans hoccurs hkr hleftmost hrest ih =>
      by_cases hstop : s.start < r.stop
      · exact ⟨r, List.mem_cons_self, hleftmost s hs hk, hstop⟩
      · obtain ⟨r', hr', hcovers⟩ := ih (Nat.le_of_not_lt hstop)
        exact ⟨r', List.mem_cons_of_mem r hr', hcovers⟩

end Leftmost

section Scan

variable {before : Option Char} {line : Int}

theorem lineEnds_append (cs ds : List Char) : lineEnds (cs ++ ds) = lineEnds cs + lineEnds ds :=
  List.count_append

theorem occurrence?_nil (before : Option Char) : occurrence? before [] = none := by
  rw [Option.eq_none_iff_forall_ne_some]
  intro o ho
  exact absurd (occurrence?_length ho) (Nat.not_lt_zero _)

theorem scanFrom_nil : scanFrom before line [] = [] := by
  rw [scanFrom]
  split
  next o ho =>
    rw [occurrence?_nil] at ho
    cases ho
  next => rfl

theorem scanFrom_of_none {c : Char} {cs : List Char} (h : occurrence? before (c :: cs) = none) :
    scanFrom before line (c :: cs) = scanFrom (some c) (line + lineEnds [c]) cs := by
  rw [scanFrom]
  split
  next o ho =>
    rw [h] at ho
    cases ho
  next => rfl

theorem scanFrom_of_some {taken : List Char} {o : Occurrence}
    (h : occurrence? before (taken ++ o.rest) = some o) :
    scanFrom before line (taken ++ o.rest)
      = (o.structName, o.interfaceName, line)
          :: scanFrom taken.getLast? (line + lineEnds taken) o.rest := by
  rw [scanFrom]
  split
  next o' ho =>
    obtain rfl := Option.some.inj (h.symm.trans ho)
    simp only [List.length_append, Nat.add_sub_cancel, List.take_left]
  next ho =>
    rw [h] at ho
    cases ho

/-- From each place on, the scan reports the leftmost directives, with the lines they start on. -/
theorem scanFrom_leftmost (line : Int) (before cs : List Char) :
    ∃ spans, Leftmost (before ++ cs) before.length spans
      ∧ scanFrom before.getLast? (line + lineEnds before) cs
          = spans.map fun s =>
              (s.structName, s.interfaceName, line + lineEnds ((before ++ cs).take s.start)) := by
  -- What is before the scan grows with it, so that places are those of the whole text.
  induction hn : cs.length using Nat.strongRecOn generalizing before cs with
  | ind n ih =>
      cases ho : occurrence? before.getLast? cs with
      | some o =>
          obtain ⟨p, hfits, -, rfl, -, -⟩ := occurrence?_eq_some_iff.1 ho
          have hlength : o.rest.length < n := hn ▸ occurrence?_length ho
          obtain ⟨spans, hspans, hscan⟩ := ih o.rest.length hlength (before ++ p.text) o.rest rfl
          rw [List.append_assoc] at hspans hscan
          have hlast : (before ++ p.text).getLast? = p.text.getLast? := by
            rw [List.getLast?_append, List.getLast?_eq_some_getLast hfits.text_ne_nil]
            rfl
          have hoccurs := (occurs_iff (s := o.span before (p.text ++ o.rest)) rfl).2 ⟨o, ho, rfl⟩
          have hstop : (o.span before (p.text ++ o.rest)).stop = (before ++ p.text).length := by
            simp only [Occurrence.span, List.length_append, Nat.add_sub_cancel]
          refine ⟨o.span before (p.text ++ o.rest) :: spans, ?_, ?_⟩
          · exact .found hoccurs (Nat.le_refl _) (fun _ _ hk => hk) (hstop ▸ hspans)
          · rw [scanFrom_of_some ho, List.map_cons, ← hscan, hlast, lineEnds_append,
              Occurrence.span, List.take_left]
            congr 2
            omega
      | none =>
          have hnone : ∀ s, Occurs (before ++ cs) s → s.start ≠ before.length := by
            intro s hs hstart
            obtain ⟨o, ho', -⟩ := (occurs_iff hstart).1 hs
            rw [ho] at ho'
            cases ho'
          cases cs with
          | nil =>
              rw [List.append_nil] at hnone ⊢
              refine ⟨[], .done fun s hs => ?_, scanFrom_nil⟩
              have := hs.start_le_length
              have := hnone s hs
              omega
          | cons c cs =>
              obtain ⟨spans, hspans, hscan⟩ :=
                ih cs.length (by simp [← hn]) (before ++ [c]) cs rfl
              rw [List.append_assoc, List.singleton_append] at hspans hscan
              rw [List.length_append] at hspans
              rw [List.getLast?_concat, lineEnds_append] at hscan
              refine ⟨spans, hspans.of_succ hnone, ?_⟩
              rw [scanFrom_of_none ho, ← hscan]
              congr 1
              omega

end Scan

section Main

/--
**Directives are the leftmost ones.**  The directives of a comment are the leftmost occurrences of
the grammar, each after the end of the one before it, reported with the line on which its keyword
starts. They are determined by the text: at each place at most one directive occurs, and whatever
else the grammar can read at a place only cuts the name of its interface short.  They are disjoint
and in the order of the text, and no directive of the text starts outside of them.
-/
theorem scan_leftmost (start : Location) (text : String) :
    ∃ spans, Leftmost text.toList 0 spans
      ∧ scan start text = spans.map (Span.report start text.toList)
      ∧ (∀ others, Leftmost text.toList 0 others → others = spans)
      ∧ (∀ s s', Occurs text.toList s → Occurs text.toList s' → s.start = s'.start → s = s')
      ∧ (∀ before (p : Parts) after, text.toList = before ++ (p.text ++ after) →
          p.Fits before.getLast? →
          ∃ s, Occurs text.toList s ∧ s.start = before.length
            ∧ before.length + p.text.length ≤ s.stop
            ∧ s.structName = p.structName ∧ p.interfaceName <+: s.interfaceName)
      ∧ (∀ s ∈ spans, s.start < s.stop)
      ∧ spans.Pairwise (fun s s' => s.stop ≤ s'.start)
      ∧ ∀ s, Occurs text.toList s → ∃ r ∈ spans, r.start ≤ s.start ∧ s.start < r.stop := by
  obtain ⟨spans, hspans, hscan⟩ := scanFrom_leftmost start.line [] text.toList
  rw [List.nil_append] at hspans hscan
  refine ⟨spans, hspans, ?_, ?_, ?_, ?_, ?_, hspans.pairwise, ?_⟩
  · have hline : start.line + lineEnds [] = start.line := Int.add_zero start.line
    rw [List.getLast?_nil, hline] at hscan
    rw [scan, hscan, List.map_map]
    rfl
  · exact fun others hothers => hothers.unique hspans
  · exact fun s s' hs hs' hstart => hs.eq_of_start_eq hs' hstart
  · intro before p after htext hfits
    rw [htext]
    exact hfits.exists_occurs after
  · exact fun s hs => (hspans.occurs s hs).1.start_lt_stop
  · exact fun s hs => hspans.covers hs (Nat.zero_le s.start)

/-- A comment in which a second directive could be read from inside of the first one. -/
def overlapping : String :=
  "/* ensure ensure implements implements implements A\n确保*B实现C */"

/-- The directive that starts at the second word of the comment. -/
def inner : Parts where
  keyword := "ensure".toList ++ [' ']
  star := []
  structName := "implements".toList
  separator := [' '] ++ ("implements".toList ++ [' '])
  interfaceName := "implements".toList

/-- A directive that starts inside of another one is left out. -/
theorem scan_leftmost_overlapping :
    ∃ spans, Leftmost overlapping.toList 0 spans
      ∧ spans.map (Span.report ⟨7, "a.go"⟩ overlapping.toList)
          = [⟨"ensure", "implements", ⟨7, "a.go"⟩⟩, ⟨"B", "C", ⟨8, "a.go"⟩⟩]
      ∧ ∃ s, Occurs overlapping.toList s ∧ s.start = 10 ∧ s.structName = "implements".toList
          ∧ ∃ r ∈ spans, r.start ≤ s.start ∧ s.start < r.stop := by
  obtain ⟨spans, hspans, hscan, -, -, hread, -, -, hcovers⟩ :=
    scan_leftmost ⟨7, "a.go"⟩ overlapping
  have hspace : IsBlanks [' '] := List.forall_mem_singleton.2 rfl
  have hname : IsIdentifier "implements".toList :=
    ⟨'i', "mplements".toList, rfl, rfl, List.all_eq_true.1 rfl⟩
  have hfits : inner.Fits (some ' ') :=
    { keyword := .english rfl rfl (List.cons_ne_nil _ _) hspace
      star := .inl rfl
      structName := hname
      separator := .english (List.cons_ne_nil _ _) hspace rfl (List.cons_ne_nil _ _) hspace
      interfaceName := hname }
  have htext : overlapping.toList
      = "/* ensure ".toList ++ (inner.text ++ " A\n确保*B实现C */".toList) := by
    decide +kernel
  obtain ⟨s, hs, hstart, -, hstruct, -⟩ :=
    hread "/* ensure ".toList inner " A\n确保*B实现C */".toList htext hfits
  refine ⟨spans, hspans, ?_, s, hs, hstart, hstruct, hcovers s hs⟩
  rw [← hscan]
  decide +kernel

end Main

end Directive
end Conformance
