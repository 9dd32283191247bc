/-!
# Globs

A glob describes file names character by character: `*` stands for any run of characters, `?` for
any single one, `[...]` for one character of a set, and a backslash takes the next character as it
is.

**Sets.**  A set starts after `[` and reaches to the next `]`, but a `]` that comes first, also
after the `!` or `^` that negates the set, is one of its characters.  `a-z` is a range unless a part
of it is missing.
-/

namespace Conformance

/-- What a part of a glob stands for. -/
inductive Atom
  /-- Any run of characters. -/
  | run
  /-- Any character. -/
  | any
  /-- This character. -/
  | char (c : Char)
  /-- A character of one of the ranges, or of none if the set is negated. -/
  | set (negated : Bool) (ranges : List (Char × Char))
deriving DecidableEq, Repr

/-- A description of file names. -/
abbrev Glob := List Atom

namespace Glob

/-- Why a text is no glob. -/
inductive Error
  /-- A set is not closed. -/
  | unclosedSet
  /-- There is nothing after a backslash. -/
  | danglingEscape
deriving DecidableEq, Repr

section Reading

/-- The ranges of a set with these characters. -/
def ranges : List Char → List (Char × Char)
  | [] => []
  | [a] => [(a, a)]
  | [a, b] => [(a, a), (b, b)]
  | a :: b :: c :: rest =>
      if b = '-' then (a, c) :: ranges rest else (a, a) :: ranges (b :: c :: rest)

/-- The characters of a set after its negation, and the text after its closing bracket. -/
def splitSet? : List Char → Option (List Char × List Char)
  | [] => none
  | first :: rest =>
      match rest.dropWhile (· ≠ ']') with
      | [] => none
      | _ :: after => some (first :: rest.takeWhile (· ≠ ']'), after)

/-- The set after an opening bracket, and the text after it. -/
def readSet? (cs : List Char) : Option (Atom × List Char) :=
  match cs with
  | '!' :: rest | '^' :: rest =>
      (splitSet? rest).map fun (chars, after) => (.set true (ranges chars), after)
  | _ => (splitSet? cs).map fun (chars, after) => (.set false (ranges chars), after)

theorem splitSet?_length {cs chars after : List Char} (h : splitSet? cs = some (chars, after)) :
    after.length < cs.length := by
  cases cs with
  | nil => simp [splitSet?] at h
  | cons first rest =>
      have hle := (List.dropWhile_suffix (l := rest) (· ≠ ']')).length_le
      rw [splitSet?] at h
      split at h
      · cases h
      · rename_i c after' heq
        cases h
        rw [heq] at hle
        simp only [List.length_cons] at hle ⊢
        omega

theorem readSet?_length {cs after : List Char} {a : Atom} (h : readSet? cs = some (a, after)) :
    after.length < cs.length := by
  unfold readSet? at h
  split at h
  all_goals
    obtain ⟨⟨chars, after'⟩, hs, hp⟩ := Option.map_eq_some_iff.1 h
    cases hp
    have hl := splitSet?_length hs
    first
    | exact hl
    | (simp only [List.length_cons]; omega)

/-- Reads a glob. -/
def read (cs : List Char) : Except Error Glob :=
  match cs with
  | [] => .ok []
  | '*' :: rest => (read rest).map (.run :: ·)
  | '?' :: rest => (read rest).map (.any :: ·)
  | ['\\'] => .error .danglingEscape
  | '\\' :: c :: rest => (read rest).map (.char c :: ·)
  | '[' :: rest =>
      match _h : readSet? rest with
      | none => .error .unclosedSet
      | some (set, after) => (read after).map (set :: ·)
  | c :: rest => (read rest).map (.char c :: ·)
termination_by cs.length
decreasing_by
  all_goals first
    | (have hl := readSet?_length _h; simp only [List.length_cons]; omega)
    | (simp only [List.length_cons]; omega)

/-- Whether a set has a range that ends before it starts. -/
def isReversed : Atom → Bool
  | .set _ ranges => ranges.any fun r => r.2 < r.1
  | _ => false

end Reading

section Matching

/-- Whether a single character fits a part of a glob. -/
def fits (c : Char) : Atom → Bool
  | .run => false
  | .any => true
  | .char d => c == d
  | .set negated ranges => (ranges.any fun r => r.1 ≤ c && c ≤ r.2) != negated

/-- Whether a glob describes a name. -/
def matchesAll : Glob → List Char → Bool
  | [], cs => cs.isEmpty
  | .run :: g, cs => afterRun g cs
  | _ :: _, [] => false
  | a :: g, c :: cs => fits c a && matchesAll g cs
where
  /-- Whether a glob describes some end of a name. -/
  afterRun (g : Glob) : List Char → Bool
    | [] => matchesAll g []
    | c :: cs => matchesAll g (c :: cs) || afterRun g cs

end Matching

end Glob
end Conformance
