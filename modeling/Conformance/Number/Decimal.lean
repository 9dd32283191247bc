/-!
# Decimal numbers

A decimal number is a sign, a count of digits and a power of ten.  This module fixes how one is
written: `Decimal.text` chooses between the positional and the exponent notation.

**Notation.**  With `d` the exponent of the first digit, the number is positional when
`-4 ≤ d < 16` and then always has a fraction; otherwise the mantissa has a fraction only if it has
more than one digit, and the exponent has a sign and at least two digits.

**Results.**  Writing does not depend on trailing zeros: `trimZeros` gives the digits without them
and the exponent that makes up for it (`trimZeros_value`).
-/

namespace Conformance

/-- The number `± digits · 10 ^ exponent`. -/
structure Decimal where
  negative : Bool
  digits : Nat
  exponent : Int
deriving DecidableEq, Repr

namespace Decimal

section Digits

/-- The value of a string of decimal digits. -/
def valueOfDigits (cs : List Char) : Nat :=
  cs.foldl (fun n c => 10 * n + (c.toNat - '0'.toNat)) 0

/-- The number written with whole part `whole`, fraction `fraction` and power `power`. -/
def ofParts (negative : Bool) (whole fraction : List Char) (power : Int) : Decimal :=
  ⟨negative, valueOfDigits (whole ++ fraction), power - fraction.length⟩

/-- Divides by ten as often as that leaves no remainder, at most `fuel` times. -/
def trimZeros : Nat → Nat → Int → Nat × Int
  | 0, n, e => (n, e)
  | fuel + 1, n, e => if n % 10 = 0 then trimZeros fuel (n / 10) (e + 1) else (n, e)

/-- Trimming keeps the value: what is taken from the digits is added to the exponent. -/
theorem trimZeros_value (fuel n : Nat) (e : Int) :
    ∃ k : Nat, (trimZeros fuel n e).2 = e + k ∧ (trimZeros fuel n e).1 * Nat.pow 10 k = n := by
  induction fuel generalizing n e with
  | zero => exact ⟨0, by simp [trimZeros]⟩
  | succ fuel ih =>
      by_cases h : n % 10 = 0
      · obtain ⟨k, h₁, h₂⟩ := ih (n / 10) (e + 1)
        refine ⟨k + 1, ?_, ?_⟩
        · simp only [trimZeros, h, if_true, h₁]
          omega
        · have hk : Nat.pow 10 (k + 1) = Nat.pow 10 k * 10 := rfl
          simp only [trimZeros, h, if_true, hk, ← Nat.mul_assoc, h₂]
          omega
      · exact ⟨0, by simp [trimZeros, h]⟩

end Digits

section Notation

/-- The least exponent of a first digit that is still written positionally. -/
def leastPositional : Int := -4

/-- The least exponent of a first digit that is no longer written positionally. -/
def leastScaled : Int := 16

/-- The exponent with its sign and at least two digits. -/
def exponentText (e : Int) : List Char :=
  let digits := Nat.toDigits 10 e.natAbs
  (if e < 0 then '-' else '+') :: (List.replicate (2 - digits.length) '0' ++ digits)

/-- Digits `ds` with the point `point` places after the first of them, in positional notation. -/
def positionalText (ds : List Char) (point : Int) : List Char :=
  if point ≤ 0 then '0' :: '.' :: (List.replicate point.natAbs '0' ++ ds)
  else
    let whole := ds.take point.toNat
    let fraction := ds.drop point.toNat
    whole ++ List.replicate (point.toNat - ds.length) '0'
      ++ '.' :: (if fraction.isEmpty then ['0'] else fraction)

/-- Digits `ds` whose first has exponent `e`, in exponent notation. -/
def scaledText (ds : List Char) (e : Int) : List Char :=
  ds.take 1 ++ (if ds.length ≤ 1 then [] else '.' :: ds.drop 1) ++ 'e' :: exponentText e

/-- The written form of a decimal number. -/
def text (d : Decimal) : String :=
  let (n, e) := if d.digits = 0 then (0, 0) else trimZeros d.digits d.digits d.exponent
  let ds := Nat.toDigits 10 n
  let first := e + ds.length - 1
  let body :=
    if leastPositional ≤ first ∧ first < leastScaled then positionalText ds (first + 1)
    else scaledText ds first
  String.ofList (if d.negative then '-' :: body else body)

end Notation

end Decimal
end Conformance
