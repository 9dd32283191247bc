import Conformance.Proofs.Directive.Leftmost

/-!
# Written and read back

A comment with a directive on each line, in any of the ways in which a directive can be written, is
read back as it was written.

**Writing.**  `Written` has the names of a directive and the choices that the grammar leaves: either
wording of the keyword and of the separator, English words in any mix of capital and small letters,
gaps of spaces and tabs, and a star.  Its parts are those of a directive (`Written.fits`), whatever
the names are; they may be the words of the grammar themselves.

**Reading.**  The scan finds nothing before the keyword of a line (`occurrence?_eq_none`).  There it
reads the directive to the end of the second name, which is the end of the line, so that it resumes
before the line end (`scanFrom_line`).  By induction on the lines, each of them is read on its own
(`scanFrom_lines`), with or without the marks of a block comment around them.

**Results.**
* `scan_comment`: the directives of a comment are those that are written in it, line by line.
-/

namespace Conformance
namespace Directive

open Text

section Specification

/-- Spaces and tabs, at least one of them. -/
structure Gap where
  chars : List Char
  ne_nil : chars ≠ []
  isGap : ∀ c ∈ chars, c = ' ' ∨ c = '\t'

/-- An ASCII identifier. -/
structure Name where
  chars : List Char
  isIdentifier : IsIdentifier chars

/-- A word of the grammar, in English with capital and small letters at will, or in Chinese. -/
inductive Wording (word : List Char)
  | english (spelling : List Char) (same : spelling.map Char.toLower = word)
  | chinese

/-- The characters of a word, where these are those of the Chinese one. -/
def Wording.chars {word : List Char} (chinese : List Char) : Wording word → List Char
  | .english spelling _ => spelling
  | .chinese => chinese

/-- A directive with the way in which it is written. -/
structure Written where
  structName : Name
  interfaceName : Name
  keyword : Wording "ensure".toList
  afterKeyword : Gap
  star : Bool
  beforeSeparator : Gap
  separator : Wording "implements".toList
  afterSeparator : Gap

/-- The parts of the directive. -/
def Written.parts (w : Written) : Parts where
  keyword := w.keyword.chars ['确', '保'] ++ w.afterKeyword.chars
  star := if w.star then ['*'] else []
  structName := w.structName.chars
  separator := w.beforeSeparator.chars
    ++ (w.separator.chars ['实', '现'] ++ w.afterSeparator.chars)
  interfaceName := w.interfaceName.chars

/-- The line of a comment on which the directive stands. -/
def Written.line (w : Written) : List Char :=
  ['/', '/', ' '] ++ w.parts.text

/-- The lines of a comment, with a directive on each of them. -/
def lines (ws : List Written) : List Char :=
  ['\n'].intercalate (ws.map Written.line)

/-- The text of such a comment, where the marks of a block comment may stand around the lines. -/
def comment (marked : Bool) (ws : List Written) : List Char :=
  if marked then ['/', '*'] ++ (lines ws ++ ['*', '/']) else lines ws

/-- The directive that is written on a line, counted from the start of the comment. -/
def Written.directive (start : Location) (line : Nat) (w : Written) : Conformance.Directive :=
  ⟨String.ofList w.structName.chars, String.ofList w.interfaceName.chars,
    ⟨start.line + line, start.file⟩⟩

end Specification

section Parts

variable {word chinese : List Char}

theorem Gap.isBlanks (g : Gap) : IsBlanks g.chars := by
  intro c hc
  rcases g.isGap c hc with rfl | rfl
  · rfl
  · rfl

theorem Written.isKeyword (w : Written) : IsKeyword (some ' ') w.parts.keyword := by
  rw [Written.parts]
  cases w.keyword with
  | english spelling same =>
      exact .english rfl same w.afterKeyword.ne_nil w.afterKeyword.isBlanks
  | chinese => exact .chinese w.afterKeyword.isBlanks

theorem Written.isSeparator (w : Written) : IsSeparator w.parts.separator := by
  rw [Written.parts]
  cases w.separator with
  | english spelling same =>
      exact .english w.beforeSeparator.ne_nil w.beforeSeparator.isBlanks same
        w.afterSeparator.ne_nil w.afterSeparator.isBlanks
  | chinese => exact .chinese w.beforeSeparator.isBlanks w.afterSeparator.isBlanks

/-- What is written fits the grammar, after a space. -/
theorem Written.fits (w : Written) : w.parts.Fits (some ' ') where
  keyword := w.isKeyword
  star := by
    rw [Written.parts]
    cases w.star with
    | false => exact .inl rfl
    | true => exact .inr rfl
  structName := w.structName.isIdentifier
  separator := w.isSeparator
  interfaceName := w.interfaceName.isIdentifier

theorem Gap.no_lineEnd (g : Gap) : '\n' ∉ g.chars := by
  intro hmem
  rcases g.isGap '\n' hmem with h | h <;> cases h

theorem Name.no_lineEnd (n : Name) : '\n' ∉ n.chars := by
  obtain ⟨chars, c, rest, rfl, hc, hrest⟩ := n
  intro hmem
  rcases List.mem_cons.1 hmem with rfl | hmem
  · cases hc
  · cases hrest '\n' hmem

theorem Wording.no_lineEnd (w : Wording word) (hword : '\n' ∉ word) (hchinese : '\n' ∉ chinese) :
    '\n' ∉ w.chars chinese := by
  cases w with
  | chinese => exact hchinese
  | english spelling same =>
      intro hmem
      have hlower : '\n'.toLower ∈ spelling.map Char.toLower := List.mem_map_of_mem hmem
      rw [same] at hlower
      exact hword hlower

/-- A directive that is written does not go over the end of its line. -/
theorem Written.lineEnds_text (w : Written) : lineEnds w.parts.text = 0 := by
  have hstar : '\n' ∉ w.parts.star := by
    rcases w.fits.star with h | h <;> rw [h] <;> decide
  have hkeyword : '\n' ∉ w.keyword.chars ['确', '保'] :=
    w.keyword.no_lineEnd (by decide) (by decide)
  have hseparator : '\n' ∉ w.separator.chars ['实', '现'] :=
    w.separator.no_lineEnd (by decide) (by decide)
  refine List.count_eq_zero.2 ?_
  simp only [Parts.text, List.mem_append, not_or]
  refine ⟨?_, hstar, w.structName.no_lineEnd, ?_, w.interfaceName.no_lineEnd⟩
  · exact fun hmem => (List.mem_append.1 hmem).elim hkeyword w.afterKeyword.no_lineEnd
  · simp only [Written.parts, List.mem_append, not_or]
    exact ⟨w.beforeSeparator.no_lineEnd, hseparator, w.afterSeparator.no_lineEnd⟩

end Parts

section Lines

variable {w w' : Written} {ws : List Written}

theorem lines_singleton : lines [w] = w.line :=
  List.intercalate_singleton

/-- The first line, a line end, and the lines after it. -/
theorem lines_cons_cons : lines (w :: w' :: ws) = w.line ++ '\n' :: lines (w' :: ws) := by
  simp [lines, List.intercalate_cons_cons]

end Lines

section Reading

variable {before : Option Char} {line : Int} {c : Char} {cs rest closing : List Char}

/-- Nothing is read where no keyword begins. -/
theorem occurrence?_eq_none (hchinese : c.toLower ≠ '确') (henglish : c.toLower ≠ 'e') :
    occurrence? before (c :: cs) = none := by
  have hchinese' : afterWord? ['确', '保'] (c :: cs) = none := if_neg hchinese
  have henglish' : afterWord? "ensure".toList (c :: cs) = none := if_neg henglish
  have hkeyword : afterKeyword? before (c :: cs) = none := by
    simp only [afterKeyword?, hchinese', henglish', Option.bind_none, ite_self]
  rw [occurrence?, hkeyword]
  rfl

/-- The scan goes past a character where no keyword begins. -/
theorem scanFrom_skip (hchinese : c.toLower ≠ '确') (henglish : c.toLower ≠ 'e') :
    scanFrom before line (c :: cs) = scanFrom (some c) (line + lineEnds [c]) cs :=
  scanFrom_of_none (occurrence?_eq_none hchinese henglish)

/-- A line is read, and the scan resumes at its end. -/
theorem scanFrom_line (w : Written) (hrest : StopsAt isAsciiWord rest) :
    scanFrom before line (w.line ++ rest)
      = (w.structName.chars, w.interfaceName.chars, line)
          :: scanFrom w.parts.text.getLast? line rest := by
  have hskip : scanFrom before line (w.line ++ rest)
      = scanFrom (some ' ') line (w.parts.text ++ rest) := by
    rw [Written.line, List.append_assoc, List.cons_append, scanFrom_skip (by decide) (by decide),
      List.cons_append, scanFrom_skip (by decide) (by decide), List.cons_append,
      scanFrom_skip (by decide) (by decide)]
    simp [lineEnds]
  have hread : occurrence? (some ' ') (w.parts.text ++ rest)
      = some ⟨w.structName.chars, w.interfaceName.chars, rest⟩ :=
    occurrence?_eq_some_iff.2
      ⟨w.parts, w.fits, ⟨w.isSeparator.stopsAt_word, hrest⟩, rfl, rfl, rfl⟩
  have hline : line + lineEnds w.parts.text = line := by
    rw [w.lineEnds_text]
    exact Int.add_zero line
  calc scanFrom before line (w.line ++ rest)
      = scanFrom (some ' ') line (w.parts.text ++ rest) := hskip
    _ = (w.structName.chars, w.interfaceName.chars, line)
          :: scanFrom w.parts.text.getLast? (line + lineEnds w.parts.text) rest :=
        scanFrom_of_some (o := ⟨w.structName.chars, w.interfaceName.chars, rest⟩) hread
    _ = _ := by rw [hline]

/-- From each line on, the lines are read one after the other. -/
theorem scanFrom_lines (hstops : StopsAt isAsciiWord closing)
    (hclosing : ∀ before line, scanFrom before line closing = [])
    (before : Option Char) (line : Int) (ws : List Written) :
    scanFrom before line (lines ws ++ closing)
      = ws.mapIdx fun i w => (w.structName.chars, w.interfaceName.chars, line + i) := by
  induction ws generalizing before line with
  | nil => exact hclosing before line
  | cons w ws ih =>
      have hfirst : line + ((0 : Nat) : Int) = line := Int.add_zero line
      cases ws with
      | nil =>
          rw [lines_singleton, scanFrom_line w hstops, hclosing, List.mapIdx_singleton, hfirst]
      | cons w' ws =>
          -- The line end after the line is left for the scan, which is on the next line after it.
          have hnext : line + lineEnds ['\n'] = line + 1 := rfl
          have hindex (i : Nat) : line + 1 + (i : Int) = line + ((i + 1 : Nat) : Int) := by omega
          rw [lines_cons_cons, List.append_assoc, List.cons_append,
            scanFrom_line w (stopsAt_cons rfl), scanFrom_skip (by decide) (by decide), hnext, ih,
            List.mapIdx_cons (a := w), hfirst]
          simp only [hindex]

/-- Nothing is read in the mark at the end of a block comment. -/
theorem scanFrom_closing (before : Option Char) (line : Int) :
    scanFrom before line ['*', '/'] = [] := by
  rw [scanFrom_skip (by decide) (by decide), scanFrom_skip (by decide) (by decide), scanFrom_nil]

/-- The marks of a block comment change nothing in what is read. -/
theorem scanFrom_comment (line : Int) (marked : Bool) (ws : List Written) :
    scanFrom none line (comment marked ws)
      = ws.mapIdx fun i w => (w.structName.chars, w.interfaceName.chars, line + i) := by
  cases marked with
  | false =>
      have hstops : StopsAt isAsciiWord [] := by
        rintro c ⟨⟩
      have hclosing (before : Option Char) (line : Int) : scanFrom before line [] = [] :=
        scanFrom_nil
      have hlines := scanFrom_lines hstops hclosing none line ws
      rwa [List.append_nil] at hlines
  | true =>
      have hopening : scanFrom none line (comment true ws)
          = scanFrom (some '*') line (lines ws ++ ['*', '/']) := by
        rw [comment, if_pos rfl, List.cons_append, scanFrom_skip (by decide) (by decide),
          List.cons_append, scanFrom_skip (by decide) (by decide)]
        simp [lineEnds]
      rw [hopening]
      exact scanFrom_lines (stopsAt_cons rfl) scanFrom_closing (some '*') line ws

end Reading

section Main

/--
**What is written is read back.**  A comment has a directive on each line, with any two names, with
either wording of the keyword and of the separator, with English words in any mix of capital and
small letters, with any gaps of spaces and tabs, and with or without a star.  The scan gives just
these directives in their order, each on its own line; the marks of a block comment may stand around
the lines.
-/
theorem scan_comment (start : Location) (marked : Bool) (ws : List Written) :
    scan start (String.ofList (comment marked ws)) = ws.mapIdx (Written.directive start) := by
  rw [scan, String.toList_ofList, scanFrom_comment, List.mapIdx_eq_zipIdx_map, List.map_map,
    List.mapIdx_eq_zipIdx_map]
  rfl

/-- A directive whose names are words of the grammar. -/
def wordsAsNames : Written where
  structName := ⟨"ensure".toList, 'e', "nsure".toList, rfl, rfl, List.all_eq_true.1 rfl⟩
  interfaceName := ⟨"implements".toList, 'i', "mplements".toList, rfl, rfl, List.all_eq_true.1 rfl⟩
  keyword := .english "EnSure".toList rfl
  afterKeyword := ⟨[' ', '\t'], List.cons_ne_nil _ _, by simp⟩
  star := true
  beforeSeparator := ⟨[' '], List.cons_ne_nil _ _, by simp⟩
  separator := .chinese
  afterSeparator := ⟨[' '], List.cons_ne_nil _ _, by simp⟩

example : scan ⟨7, "a.go"⟩ (String.ofList (comment true [wordsAsNames, wordsAsNames]))
    = [⟨"ensure", "implements", ⟨7, "a.go"⟩⟩, ⟨"ensure", "implements", ⟨8, "a.go"⟩⟩] := by
  decide +kernel

end Main

end Directive
end Conformance
