import Conformance.Facts
import Conformance.Text.Blank

/-!
# Directives in comments

A comment may claim that a struct implements an interface:

* `ensure Buffer implements Writer`, in any case, the keyword not inside a word;
* `确保 Buffer 实现 Writer`, where the blanks may be missing.

Both keywords go with both separators, and one `*` may stand before the struct.  Names, blanks and
word boundaries are those of ASCII.

**Algorithm.**  `Directive.scan` walks through the text; where a directive starts it is read whole
and the walk goes on after it, so that the leftmost directive wins and none overlaps another.

**Results.**
* `afterKeyword?_length`, `identifier?_length`, `afterSeparator?_length`: no part of a directive
  leaves more text than it was given;
* `occurrence?_length`: a directive takes at least one character, so the walk ends.
-/

namespace Conformance
namespace Directive

open Text

section Words

/-- The text after a word that it starts with, whatever the case of the word's ASCII letters. -/
def afterWord? : List Char → List Char → Option (List Char)
  | [], cs => some cs
  | _ :: _, [] => none
  | w :: ws, c :: cs => if c.toLower = w then afterWord? ws cs else none

/-- The text after its leading blanks. -/
def skipBlanks (cs : List Char) : List Char :=
  cs.dropWhile isAsciiBlank

/-- The text after its leading blanks, of which there must be one. -/
def afterBlanks? : List Char → Option (List Char)
  | c :: cs => if isAsciiBlank c then some (skipBlanks cs) else none
  | [] => none

/-- The longest ASCII identifier that the text starts with, and the text after it. -/
def identifier? : List Char → Option (List Char × List Char)
  | c :: cs =>
      if isAsciiWordStart c then some (c :: cs.takeWhile isAsciiWord, cs.dropWhile isAsciiWord)
      else none
  | [] => none

end Words

section Grammar

/-- The text after a keyword and its blanks, given the character before it. -/
def afterKeyword? (before : Option Char) (cs : List Char) : Option (List Char) :=
  match afterWord? ['确', '保'] cs with
  | some rest => some (skipBlanks rest)
  | none =>
      if before.any isAsciiWord then none
      else (afterWord? "ensure".toList cs).bind afterBlanks?

/-- The text after a star, if it starts with one. -/
def skipStar : List Char → List Char
  | '*' :: cs => cs
  | cs => cs

/-- The text after the separator between the two names. -/
def afterSeparator? (cs : List Char) : Option (List Char) :=
  match afterWord? ['实', '现'] (skipBlanks cs) with
  | some rest => some (skipBlanks rest)
  | none => ((afterBlanks? cs).bind (afterWord? "implements".toList)).bind afterBlanks?

/-- A directive at the start of a text, and the text after it. -/
structure Occurrence where
  structName : List Char
  interfaceName : List Char
  rest : List Char

/-- The directive that starts the text, given the character before it. -/
def occurrence? (before : Option Char) (cs : List Char) : Option Occurrence :=
  (afterKeyword? before cs).bind fun afterKeyword =>
    (identifier? (skipStar afterKeyword)).bind fun (structName, afterStruct) =>
      (afterSeparator? afterStruct).bind fun afterSeparator =>
        (identifier? afterSeparator).map fun (interfaceName, rest) =>
          ⟨structName, interfaceName, rest⟩

end Grammar

section Length

theorem length_dropWhile_le (p : Char → Bool) (cs : List Char) :
    (cs.dropWhile p).length ≤ cs.length :=
  (List.dropWhile_suffix p).length_le

theorem afterWord?_length {w cs rest : List Char} (h : afterWord? w cs = some rest) :
    rest.length + w.length = cs.length := by
  induction w generalizing cs with
  | nil => simp_all [afterWord?]
  | cons c w ih =>
      cases cs with
      | nil => simp [afterWord?] at h
      | cons d cs =>
          rw [afterWord?] at h
          split at h
          · have := ih h
            simp only [List.length_cons]
            omega
          · cases h

theorem skipBlanks_length_le (cs : List Char) : (skipBlanks cs).length ≤ cs.length :=
  length_dropWhile_le _ cs

theorem afterBlanks?_length {cs rest : List Char} (h : afterBlanks? cs = some rest) :
    rest.length < cs.length := by
  cases cs with
  | nil => simp [afterBlanks?] at h
  | cons c cs =>
      rw [afterBlanks?] at h
      split at h
      · cases h
        have := skipBlanks_length_le cs
        simp only [List.length_cons]
        omega
      · cases h

theorem identifier?_length {cs name rest : List Char} (h : identifier? cs = some (name, rest)) :
    rest.length < cs.length := by
  cases cs with
  | nil => simp [identifier?] at h
  | cons c cs =>
      rw [identifier?] at h
      split at h
      · cases h
        have := length_dropWhile_le isAsciiWord cs
        simp only [List.length_cons]
        omega
      · cases h

theorem afterKeyword?_length {before : Option Char} {cs rest : List Char}
    (h : afterKeyword? before cs = some rest) : rest.length ≤ cs.length := by
  rw [afterKeyword?] at h
  split at h
  · rename_i r hr
    have := afterWord?_length hr
    have := skipBlanks_length_le r
    cases h
    omega
  · split at h
    · cases h
    · obtain ⟨r, hr, h⟩ := Option.bind_eq_some_iff.1 h
      have := afterWord?_length hr
      have := afterBlanks?_length h
      omega

theorem afterSeparator?_length {cs rest : List Char} (h : afterSeparator? cs = some rest) :
    rest.length ≤ cs.length := by
  rw [afterSeparator?] at h
  split at h
  · rename_i r hr
    have := afterWord?_length hr
    have := skipBlanks_length_le r
    have := skipBlanks_length_le cs
    cases h
    omega
  · obtain ⟨r, hr, h⟩ := Option.bind_eq_some_iff.1 h
    obtain ⟨r', hr', hr⟩ := Option.bind_eq_some_iff.1 hr
    have := afterBlanks?_length h
    have := afterWord?_length hr
    have := afterBlanks?_length hr'
    omega

theorem skipStar_length_le (cs : List Char) : (skipStar cs).length ≤ cs.length := by
  unfold skipStar
  split
  · simp
  · exact Nat.le_refl _

/-- A directive takes at least one character. -/
theorem occurrence?_length {before : Option Char} {cs : List Char} {o : Occurrence}
    (h : occurrence? before cs = some o) : o.rest.length < cs.length := by
  obtain ⟨r₁, h₁, h⟩ := Option.bind_eq_some_iff.1 h
  obtain ⟨⟨s, r₂⟩, h₂, h⟩ := Option.bind_eq_some_iff.1 h
  obtain ⟨r₃, h₃, h⟩ := Option.bind_eq_some_iff.1 h
  obtain ⟨⟨i, r₄⟩, h₄, h⟩ := Option.map_eq_some_iff.1 h
  have := afterKeyword?_length h₁
  have := skipStar_length_le r₁
  have := identifier?_length h₂
  have := afterSeparator?_length h₃
  have := identifier?_length h₄
  subst h
  show r₄.length < cs.length
  omega

end Length

section Scan

/-- The number of line ends in a text. -/
def lineEnds (cs : List Char) : Nat :=
  cs.count '\n'

/--
The directives of a text that starts on `line` after the character `before`, with the lines on
which they start.
-/
def scanFrom (before : Option Char) (line : Int) (cs : List Char) :
    List (List Char × List Char × Int) :=
  match _h : occurrence? before cs with
  | some o =>
      let taken := cs.take (cs.length - o.rest.length)
      (o.structName, o.interfaceName, line)
        :: scanFrom taken.getLast? (line + lineEnds taken) o.rest
  | none =>
      match cs with
      | [] => []
      | c :: rest => scanFrom (some c) (line + lineEnds [c]) rest
termination_by cs.length
decreasing_by
  · exact occurrence?_length (by assumption)
  · simp

/-- The directives of a comment that starts at a location. -/
def scan (start : Location) (text : String) : List Directive :=
  (scanFrom none start.line text.toList).map fun (structName, interfaceName, line) =>
    ⟨String.ofList structName, String.ofList interfaceName, ⟨line, start.file⟩⟩

end Scan

end Directive
end Conformance
