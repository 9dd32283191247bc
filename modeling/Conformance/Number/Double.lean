import Conformance.Number.Decimal

/-!
# Double-precision numbers

Match rates, thresholds and lifetimes are double-precision numbers.  Every finite one is a whole
multiple of the smallest positive one, so it is kept as a sign and a count of those **units**, and
all arithmetic is exact arithmetic on counts followed by one rounding.

**Rounding.**  `roundRatio num den` is the nearest count to `num / den` that fits in 53 binary
digits; a tie goes to the even neighbour.  Counts of `overflow` units or more are infinite.

**Text.**  `shortest` finds the fewest decimal digits that read back as the same number, and of
those the nearest to it, the even one of two equally near.

**Results.**
* `ofRatio_self`: a quotient of equal numbers is one;
* `le_refl_of_ne_nan`: every number but `nan` is at most itself.
-/

namespace Conformance

/-- A double-precision number: a signed count of units, an infinity or not a number. -/
inductive Double
  | finite (negative : Bool) (units : Nat)
  | infinite (negative : Bool)
  | nan
deriving DecidableEq, Repr

namespace Double

section Rounding

/-- One is `2 ^ unitScale` units. -/
def unitScale : Nat := 1074

/-- Binary digits that a finite number has room for. -/
def precision : Nat := 53

/-- The least count of units that is too large for a finite number. -/
def overflow : Nat := 1 <<< (1024 + unitScale)

/-- The distance, in units, between neighbouring numbers of the magnitude of `n` units. -/
def spacing (n : Nat) : Nat :=
  1 <<< (n.log2 + 1 - precision)

/-- The count of units nearest to `num / den` that fits the precision, ties to even. -/
def roundRatio (num den : Nat) : Nat :=
  let gap := spacing (num / den)
  let quotient := num / (den * gap)
  let twice := 2 * (num % (den * gap))
  if den * gap < twice || (den * gap == twice && quotient % 2 == 1) then (quotient + 1) * gap
  else quotient * gap

/-- The number with this sign and count of units, infinite if the count is too large. -/
def ofUnits (negative : Bool) (units : Nat) : Double :=
  if units < overflow then .finite negative units else .infinite negative

/-- The number nearest to `± num / den`. -/
def ofRatio (negative : Bool) (num den : Nat) : Double :=
  ofUnits negative (roundRatio (num <<< unitScale) den)

/-- Powers of ten beyond which a number of this many digits is infinite or zero whatever they are. -/
def powerLimit : Int := 400

/-- The number nearest to a decimal number. -/
def ofDecimal (d : Decimal) : Double :=
  let magnitude := d.exponent + (Nat.toDigits 10 d.digits).length
  if d.digits = 0 then .finite d.negative 0
  else if magnitude > powerLimit then .infinite d.negative
  else if magnitude < -powerLimit then .finite d.negative 0
  else if 0 ≤ d.exponent then ofRatio d.negative (d.digits * Nat.pow 10 d.exponent.toNat) 1
  else ofRatio d.negative d.digits (Nat.pow 10 d.exponent.natAbs)

/-- The number nearest to an integer. -/
def ofInt (n : Int) : Double :=
  ofRatio (n < 0) n.natAbs 1

instance : OfNat Double n := ⟨ofInt n⟩

/-- A quotient of equal numbers is rounded to exactly one. -/
theorem roundRatio_mul_self {d : Nat} (hd : 0 < d) :
    roundRatio (d <<< unitScale) d = 1 <<< unitScale := by
  have hone : d <<< unitScale = d * 1 <<< unitScale := by
    rw [Nat.shiftLeft_eq, Nat.shiftLeft_eq, Nat.one_mul]
  have hq : d * 1 <<< unitScale / d = 1 <<< unitScale := Nat.mul_div_cancel_left _ hd
  have hs : spacing (1 <<< unitScale) = 1 <<< (unitScale + 1 - precision) := by
    rw [spacing, Nat.one_shiftLeft unitScale, Nat.log2_two_pow]
  have he : 1 <<< unitScale = 1 <<< (unitScale + 1 - precision) * 1 <<< (precision - 1) := by
    decide
  have hm : d * 1 <<< unitScale
      = d * 1 <<< (unitScale + 1 - precision) * 1 <<< (precision - 1) := by
    rw [Nat.mul_assoc, ← he]
  have hpos : 0 < d * 1 <<< (unitScale + 1 - precision) := Nat.mul_pos hd (by decide)
  have hne : (d * 1 <<< (unitScale + 1 - precision) == 0) = false :=
    beq_eq_false_iff_ne.2 (Nat.ne_of_gt hpos)
  simp only [roundRatio, hone, hq, hs]
  rw [hm, Nat.mul_div_cancel_left _ hpos, Nat.mul_mod_right, Nat.mul_zero, hne]
  simp only [Nat.not_lt_zero, decide_false, Bool.false_or, Bool.false_and, Bool.false_eq_true,
    if_false]
  rw [Nat.mul_comm, ← he]

/-- A ratio of a number to itself is one. -/
theorem ofRatio_self {n : Nat} (h : 0 < n) : ofRatio false n n = 1 := by
  have hone : ofInt 1 = ofRatio false 1 1 := by
    rw [ofInt, show decide ((1 : Int) < 0) = false from rfl, Int.natAbs_one]
  show ofRatio false n n = ofInt 1
  rw [hone, ofRatio, ofRatio, roundRatio_mul_self h, roundRatio_mul_self Nat.one_pos]

end Rounding

section Arithmetic

/-- The units of a finite number, counted below zero when it is negative. -/
def signedUnits (negative : Bool) (units : Nat) : Int :=
  if negative then -(units : Int) else units

/-- The number with the opposite sign. -/
def neg : Double → Double
  | .finite negative units => .finite (!negative) units
  | .infinite negative => .infinite (!negative)
  | .nan => .nan

/-- The number nearest to a sum. -/
def add : Double → Double → Double
  | .finite s m, .finite t n =>
      let sum := signedUnits s m + signedUnits t n
      if sum = 0 then .finite (s && t) 0
      else ofUnits (sum < 0) (roundRatio sum.natAbs 1)
  | .nan, _ => .nan
  | _, .nan => .nan
  | .infinite s, .infinite t => if s = t then .infinite s else .nan
  | .infinite s, .finite _ _ => .infinite s
  | .finite _ _, .infinite t => .infinite t

/-- The number nearest to a difference. -/
def sub (x y : Double) : Double :=
  add x (neg y)

/-- Whether the first number is at most the second; never so for `nan`. -/
def le : Double → Double → Bool
  | .nan, _ => false
  | _, .nan => false
  | .infinite s, .infinite t => s || !t
  | .infinite s, .finite _ _ => s
  | .finite _ _, .infinite t => !t
  | .finite s m, .finite t n => signedUnits s m ≤ signedUnits t n

/-- Whether the first number is less than the second; never so for `nan`. -/
def lt (x y : Double) : Bool :=
  le x y && !le y x

theorem le_refl_of_ne_nan {x : Double} (h : x ≠ .nan) : le x x = true := by
  cases x with
  | finite s m => simp [le]
  | infinite s => cases s <;> rfl
  | nan => exact absurd rfl h

end Arithmetic

section Text

/-- `⌊units / 10 ^ place⌋` for a count of units, the number being `units / 2 ^ unitScale`. -/
def floorAt (units : Nat) (place : Int) : Nat :=
  if 0 ≤ place then units / (Nat.pow 10 place.toNat <<< unitScale)
  else (units * Nat.pow 10 place.natAbs) >>> unitScale

/--
Whether the number is nearer to `(d + 1) · 10 ^ place` than to `d · 10 ^ place`; the one with the
even last digit wins a tie.
-/
def nearerAbove (units d : Nat) (place : Int) : Bool :=
  let middle :=
    if 0 ≤ place then ((2 * d + 1) * Nat.pow 10 place.toNat) <<< unitScale
    else (2 * d + 1) <<< unitScale
  let value := if 0 ≤ place then 2 * units else 2 * units * Nat.pow 10 place.natAbs
  middle < value || (middle == value && d % 2 == 1)

/-- A power of ten above the number, at most two powers too high. -/
def powerAbove (units : Nat) : Int :=
  let guess := ((units.log2 : Int) - unitScale) * 30103 / 100000
  if floorAt units guess = 0 then guess
  else if floorAt units (guess + 1) = 0 then guess + 1
  else guess + 2

/-- The decimal of grid `10 ^ place` next to the number that reads back as it, if there is one. -/
def onGrid? (units : Nat) (place : Int) : Option Decimal :=
  let below := floorAt units place
  let readsBack (d : Nat) : Bool := ofDecimal ⟨false, d, place⟩ == .finite false units
  let first := if nearerAbove units below place then below + 1 else below
  let second := if nearerAbove units below place then below else below + 1
  if readsBack first then some ⟨false, first, place⟩
  else if readsBack second then some ⟨false, second, place⟩
  else none

/-- Tries grids of more and more digits, and gives the exact value if none of them reads back. -/
def shortestFrom (units : Nat) : Nat → Int → Decimal
  | 0, _ => ⟨false, units * Nat.pow 5 unitScale, -unitScale⟩
  | tries + 1, place =>
      match onGrid? units place with
      | some d => d
      | none => shortestFrom units tries (place - 1)

/-- The fewest decimal digits that read back as the number, and of those the nearest to it. -/
def shortest (units : Nat) : Decimal :=
  if units = 0 then ⟨false, 0, 0⟩ else shortestFrom units 17 (powerAbove units - 1)

/-- The written form of a number. -/
def text : Double → String
  | .finite negative units => { shortest units with negative := negative }.text
  | .infinite negative => if negative then "-inf" else "inf"
  | .nan => "nan"

end Text

end Double
end Conformance
