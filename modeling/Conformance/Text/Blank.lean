/-!
# White space

Four rules of the library ask whether a character is blank, and they do not ask the same question.

**Classes.**
* `isAsciiBlank`: the six ASCII blanks that separate the words of a directive;
* `isBlank`: the Unicode property `White_Space`, which separates tokens of a source file and
  surrounds numbers of the settings;
* `isTrailingBlank`: `White_Space` together with the four information separators, which is what
  the end of a file pattern is cleared of.

**Runs.**  A run of characters of a class is read up to the first character outside of it: `StopsAt`
says that a text does not go on with the class.

**Results.**
* `isAsciiWord_eq_false_of_isAsciiBlank`: blanks and words do not meet;
* `takeWhile_of_stopsAt`, `dropWhile_of_stopsAt`: a run is taken whole, and no more than it.
-/

namespace Conformance
namespace Text

/-- Space, tab, line feed, vertical tab, form feed and carriage return. -/
def isAsciiBlank (c : Char) : Bool :=
  c == ' ' || (0x09 ≤ c.toNat && c.toNat ≤ 0x0D)

/-- The Unicode property `White_Space`. -/
def isBlank (c : Char) : Bool :=
  isAsciiBlank c
    || c.toNat == 0x85 || c.toNat == 0xA0 || c.toNat == 0x1680
    || (0x2000 ≤ c.toNat && c.toNat ≤ 0x200A)
    || c.toNat == 0x2028 || c.toNat == 0x2029 || c.toNat == 0x202F
    || c.toNat == 0x205F || c.toNat == 0x3000

/-- `White_Space` and the information separators U+001C to U+001F. -/
def isTrailingBlank (c : Char) : Bool :=
  isBlank c || (0x1C ≤ c.toNat && c.toNat ≤ 0x1F)

/-- A character of an ASCII word: a letter, a digit or the underscore. -/
def isAsciiWord (c : Char) : Bool :=
  c.isAlphanum || c == '_'

/-- A character that may open an ASCII word: a letter or the underscore. -/
def isAsciiWordStart (c : Char) : Bool :=
  c.isAlpha || c == '_'

theorem toNat_le_of_isAsciiBlank {c : Char} (h : isAsciiBlank c = true) : c.toNat ≤ 32 := by
  simp only [isAsciiBlank, Bool.or_eq_true, beq_iff_eq, Bool.and_eq_true, decide_eq_true_eq] at h
  rcases h with rfl | h
  · decide
  · omega

/-- Capital letters, small letters, digits and the underscore stand after the zero. -/
theorem le_toNat_of_isAsciiWord {c : Char} (h : isAsciiWord c = true) : 48 ≤ c.toNat := by
  rcases Bool.or_eq_true_iff.1 h with h | h
  · rcases Bool.or_eq_true_iff.1 h with h | h
    · rcases Bool.or_eq_true_iff.1 h with h | h
      · have hcode : 'A'.val ≤ c.val := (of_decide_eq_true h).1
        exact Nat.le_trans (by decide) (UInt32.le_iff_toNat_le.1 hcode)
      · have hcode : 'a'.val ≤ c.val := of_decide_eq_true (Bool.and_eq_true_iff.1 h).1
        exact Nat.le_trans (by decide) (UInt32.le_iff_toNat_le.1 hcode)
    · have hcode : '0'.val ≤ c.val := of_decide_eq_true (Bool.and_eq_true_iff.1 h).1
      exact UInt32.le_iff_toNat_le.1 hcode
  · rw [beq_iff_eq.1 h]
    decide

theorem isAsciiWord_of_isAsciiWordStart {c : Char} (h : isAsciiWordStart c = true) :
    isAsciiWord c = true := by
  simp only [isAsciiWordStart, isAsciiWord, Char.isAlphanum, Bool.or_eq_true] at *
  rcases h with h | h
  · exact .inl (.inl h)
  · exact .inr h

/-- No blank is a part of a word. -/
theorem isAsciiWord_eq_false_of_isAsciiBlank {c : Char} (h : isAsciiBlank c = true) :
    isAsciiWord c = false := by
  have hblank : c.toNat ≤ 32 := toNat_le_of_isAsciiBlank h
  rw [Bool.eq_false_iff]
  intro hword
  have := le_toNat_of_isAsciiWord hword
  omega

section Runs

variable {p : Char → Bool} {cs rest : List Char} {c : Char}

/-- The text does not go on with a character that satisfies `p`. -/
def StopsAt (p : Char → Bool) (rest : List Char) : Prop :=
  ∀ c, rest.head? = some c → p c = false

theorem stopsAt_cons (h : p c = false) : StopsAt p (c :: rest) := by
  rintro c' ⟨⟩
  exact h

theorem stopsAt_dropWhile (p : Char → Bool) (cs : List Char) : StopsAt p (cs.dropWhile p) := by
  intro c hc
  have h := List.head?_dropWhile_not p cs
  rw [hc] at h
  exact h

theorem takeWhile_of_stopsAt (hcs : ∀ c ∈ cs, p c = true) (hrest : StopsAt p rest) :
    (cs ++ rest).takeWhile p = cs := by
  rw [List.takeWhile_append_of_pos hcs]
  cases rest with
  | nil => simp
  | cons c rest => simp [hrest c rfl]

theorem dropWhile_of_stopsAt (hcs : ∀ c ∈ cs, p c = true) (hrest : StopsAt p rest) :
    (cs ++ rest).dropWhile p = rest := by
  rw [List.dropWhile_append_of_pos hcs]
  cases rest with
  | nil => simp
  | cons c rest => simp [hrest c rfl]

end Runs

/-- The characters of `cs` without the leading ones that satisfy `p`, nor the trailing ones. -/
def trimWhere (p : Char → Bool) (cs : List Char) : List Char :=
  ((cs.dropWhile p).reverse.dropWhile p).reverse

end Text
end Conformance
