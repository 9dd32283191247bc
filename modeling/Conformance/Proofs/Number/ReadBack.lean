import Conformance.Proofs.Number.Rounding
import Mathlib.Data.Nat.Digits.Defs

/-!
# Decimals that read back

A number is written as the shortest decimal that is rounded to it.  This module says that the
decimal is rounded to it indeed, whatever form it is written in.

**Value.**  A decimal is rounded by its value: digits that end in zeros may be exchanged for a higher
exponent (`ofDecimal_mul_pow`).

**Numbers with room.**  `Fits x` says that the units of `x` are a number of double precision: not too
many, and a multiple of the spacing at their magnitude.  Such a count is rounded to itself.

**Shortest digits.**  Every grid that is tried answers with a decimal that reads back.  If none does,
the exact value is given, which reads back since the number fits.

**Results.**
* `ofDecimal_shortest`: the shortest decimal of a number that fits is rounded to that number;
* `fits_ofDecimal`: what a decimal is rounded to fits.
-/

namespace Conformance

section Digits

theorem isDigit_of_mem_digits {n : Nat} {c : Char} (h : c ∈ Nat.toDigits 10 n) :
    c.isDigit = true :=
  Nat.isDigit_of_mem_toDigits (by decide) (by decide) h

/-- Digits do not start with a zero, unless the number is zero. -/
theorem head?_toDigits {n : Nat} (hn : n ≠ 0) : (Nat.toDigits 10 n).head? ≠ some '0' := by
  induction n using Nat.strongRecOn with
  | ind n ih =>
      by_cases hlt : n < 10
      · simp [Nat.toDigits_of_lt_base hlt, Nat.digitChar_eq_zero, hn]
      · have hhead := ih (n / 10) (by omega) (by omega)
        rw [Nat.toDigits_of_base_le (by decide) (by omega), List.head?_append]
        cases hcase : (Nat.toDigits 10 (n / 10)).head? with
        | none => exact absurd (List.head?_eq_none_iff.1 hcase) Nat.toDigits_ne_nil
        | some c => simpa [hcase] using hhead

theorem toDigits_mul_pow {n : Nat} (hn : n ≠ 0) (k : Nat) :
    Nat.toDigits 10 (n * 10 ^ k) = Nat.toDigits 10 n ++ List.replicate k '0' := by
  induction k with
  | zero => simp
  | succ k ih =>
      have hpos : 0 < n * 10 ^ k := Nat.mul_pos (Nat.pos_of_ne_zero hn) (Nat.pow_pos (by decide))
      have hzero : Nat.toDigits 10 0 = ['0'] := by decide
      rw [Nat.pow_succ, ← Nat.mul_assoc, Nat.mul_comm (n * 10 ^ k) 10, ← Nat.add_zero (10 * _),
        ← Nat.toDigits_append_toDigits (by decide) hpos (by decide), ih, hzero,
        List.append_assoc, List.replicate_succ']

end Digits

namespace Decimal

theorem valueOfDigits_toDigits (n : Nat) : valueOfDigits (Nat.toDigits 10 n) = n :=
  Nat.ofDigitChars_ten_toDigits

theorem valueOfDigits_append (as bs : List Char) :
    valueOfDigits (as ++ bs) = 10 ^ bs.length * valueOfDigits as + valueOfDigits bs := by
  have happend : valueOfDigits (as ++ bs) = Nat.ofDigitChars 10 bs (valueOfDigits as) :=
    Nat.ofDigitChars_append 0
  rw [happend, Nat.ofDigitChars_eq_ofDigitChars_zero]
  rfl

theorem valueOfDigits_replicate_zero (k : Nat) : valueOfDigits (List.replicate k '0') = 0 :=
  Nat.ofDigitChars_replicate_zero

end Decimal

namespace Double

section Values

/-- Rounding a quotient does not depend on how it is written as a fraction. -/
theorem roundRatio_mul_mul {c : Nat} (hc : 0 < c) (num den : Nat) :
    roundRatio (num * c) (den * c) = roundRatio num den := by
  have hgap : num * c / (den * c) = num / den := Nat.mul_div_mul_right num den hc
  have hden : ∀ gap, den * c * gap = den * gap * c := fun gap => Nat.mul_right_comm den c gap
  have htwice : ∀ m, 2 * (m * c) = 2 * m * c := fun m => (Nat.mul_assoc 2 m c).symm
  simp only [roundRatio, hgap, hden, Nat.mul_div_mul_right _ _ hc, Nat.mul_mod_mul_right, htwice,
    Nat.mul_lt_mul_right hc, beq_eq_decide, Nat.mul_left_inj (Nat.ne_of_gt hc)]

theorem ofRatio_mul_mul {c : Nat} (hc : 0 < c) (s : Bool) (num den : Nat) :
    ofRatio s (num * c) (den * c) = ofRatio s num den := by
  have hshift : (num * c) <<< unitScale = num <<< unitScale * c := by
    rw [Nat.shiftLeft_eq, Nat.shiftLeft_eq, Nat.mul_right_comm]
  rw [ofRatio, ofRatio, hshift, roundRatio_mul_mul hc]

theorem ofDecimal_mul_pow (s : Bool) (n k : Nat) (e : Int) :
    ofDecimal ⟨s, n * 10 ^ k, e⟩ = ofDecimal ⟨s, n, e + k⟩ := by
  by_cases hn : n = 0
  · simp [ofDecimal, hn]
  have hpow : 0 < 10 ^ k := Nat.pow_pos (by decide)
  have hne : n * 10 ^ k ≠ 0 := Nat.mul_ne_zero hn (Nat.ne_of_gt hpow)
  have hmagnitude : e + ((Nat.toDigits 10 (n * 10 ^ k)).length : Int)
      = e + k + (Nat.toDigits 10 n).length := by
    rw [toDigits_mul_pow hn, List.length_append, List.length_replicate]
    omega
  simp only [ofDecimal, hn, hne, if_false, hmagnitude]
  congr 2
  by_cases he : 0 ≤ e
  · -- The exponent is not negative: both are whole numbers.
    have hsum : (e + k).toNat = k + e.toNat := by omega
    have hvalue : n * 10 ^ k * Nat.pow 10 e.toNat = n * Nat.pow 10 (e + k).toNat := by
      rw [hsum, Nat.mul_assoc]
      exact congrArg (n * ·) (Nat.pow_add 10 k e.toNat).symm
    rw [if_pos he, if_pos (by omega), hvalue]
  · rw [if_neg he]
    by_cases hek : 0 ≤ e + k
    · have hsum : k = (e + k).toNat + e.natAbs := by omega
      have hvalue : n * 10 ^ k = n * Nat.pow 10 (e + k).toNat * Nat.pow 10 e.natAbs := by
        rw [Nat.mul_assoc]
        refine congrArg (n * ·) ?_
        conv_lhs => rw [hsum]
        exact Nat.pow_add 10 _ _
      have hden : 0 < Nat.pow 10 e.natAbs := Nat.pow_pos (by decide)
      have hscaled := ofRatio_mul_mul hden s (n * Nat.pow 10 (e + k).toNat) 1
      rw [Nat.one_mul] at hscaled
      rw [if_pos hek, hvalue, hscaled]
    · have hsum : e.natAbs = (e + k).natAbs + k := by omega
      have hden : Nat.pow 10 e.natAbs = Nat.pow 10 (e + k).natAbs * 10 ^ k := by
        rw [hsum]
        exact Nat.pow_add 10 _ _
      rw [if_neg hek, hden, ofRatio_mul_mul hpow]

/-- What a decimal is rounded to, but for the sign: nothing, too much, or a quotient. -/
theorem ofDecimal_cases (n : Nat) (e : Int) :
    (∀ s, ofDecimal ⟨s, n, e⟩ = .finite s 0) ∨ (∀ s, ofDecimal ⟨s, n, e⟩ = .infinite s) ∨
      ∃ num den, ∀ s, ofDecimal ⟨s, n, e⟩ = ofRatio s num den := by
  unfold ofDecimal
  by_cases hzero : n = 0
  · exact .inl fun s => if_pos hzero
  by_cases hlarge : e + ((Nat.toDigits 10 n).length : Int) > powerLimit
  · exact .inr (.inl fun s => by rw [if_neg hzero, if_pos hlarge])
  by_cases hsmall : e + ((Nat.toDigits 10 n).length : Int) < -powerLimit
  · exact .inl fun s => by rw [if_neg hzero, if_neg hlarge, if_pos hsmall]
  by_cases he : 0 ≤ e
  · refine .inr (.inr ⟨n * Nat.pow 10 e.toNat, 1, fun s => ?_⟩)
    rw [if_neg hzero, if_neg hlarge, if_neg hsmall, if_pos he]
  · refine .inr (.inr ⟨n, Nat.pow 10 e.natAbs, fun s => ?_⟩)
    rw [if_neg hzero, if_neg hlarge, if_neg hsmall, if_neg he]

theorem ofRatio_withSign {num den m : Nat} (s : Bool)
    (h : ofRatio false num den = .finite false m) : ofRatio s num den = .finite s m := by
  simp only [ofRatio, ofUnits] at h ⊢
  split at h
  next hover => simpa [hover] using h
  next => cases h

/-- The sign of a decimal is the sign of the number. -/
theorem ofDecimal_withSign {n m : Nat} {e : Int} (s : Bool)
    (h : ofDecimal ⟨false, n, e⟩ = .finite false m) : ofDecimal ⟨s, n, e⟩ = .finite s m := by
  rcases ofDecimal_cases n e with hzero | hlarge | ⟨num, den, hratio⟩
  · rw [hzero] at h ⊢
    cases h
    rfl
  · rw [hlarge] at h
    cases h
  · rw [hratio] at h ⊢
    exact ofRatio_withSign s h

end Values

section Fitting

/-- The number is one of double precision. -/
inductive Fits : Double → Prop
  | finite (s : Bool) {units : Nat} (hover : units < overflow) (hdvd : spacing units ∣ units) :
      Fits (.finite s units)
  | infinite (s : Bool) : Fits (.infinite s)
  | nan : Fits .nan

theorem roundRatio_one_of_dvd {m : Nat} (h : spacing m ∣ m) : roundRatio m 1 = m := by
  have hmod : m % spacing m = 0 := Nat.mod_eq_zero_of_dvd h
  have hpos : 0 < spacing m := by
    rw [spacing, Nat.one_shiftLeft]
    exact Nat.two_pow_pos _
  simp [roundRatio, hmod, Nat.div_mul_cancel h, Nat.ne_of_gt hpos]

/-- A number that fits is its own units over the units of one. -/
theorem ofRatio_units {m : Nat} (hover : m < overflow) (hdvd : spacing m ∣ m) :
    ofRatio false m (1 <<< unitScale) = .finite false m := by
  have hround := roundRatio_mul_mul (Nat.two_pow_pos unitScale) m 1
  rw [Nat.one_mul, roundRatio_one_of_dvd hdvd] at hround
  rw [ofRatio, Nat.shiftLeft_eq, Nat.one_shiftLeft, hround, ofUnits, if_pos hover]

theorem ten_pow_eq (k : Nat) : Nat.pow 10 k = 1 <<< k * Nat.pow 5 k := by
  rw [Nat.one_shiftLeft]
  exact Nat.mul_pow 2 5 k

theorem five_pow_pos (k : Nat) : 0 < Nat.pow 5 k :=
  Nat.pow_pos (by decide)

/-- The exact value has few enough digits to be neither infinite nor zero. -/
theorem length_exact_le {m : Nat} (hover : m < overflow) :
    (Nat.toDigits 10 (m * Nat.pow 5 unitScale)).length ≤ unitScale + 400 := by
  rw [Nat.length_toDigits_le_iff (by decide) (by decide)]
  calc m * Nat.pow 5 unitScale < overflow * Nat.pow 5 unitScale :=
        Nat.mul_lt_mul_of_pos_right hover (five_pow_pos _)
    _ ≤ 10 ^ (unitScale + 400) := by decide +kernel

theorem lt_length_exact {m : Nat} (hm : m ≠ 0) :
    unitScale - 401 < (Nat.toDigits 10 (m * Nat.pow 5 unitScale)).length := by
  rw [← Nat.not_le, Nat.length_toDigits_le_iff (by decide) (by decide), Nat.not_lt]
  calc 10 ^ (unitScale - 401) ≤ 1 * Nat.pow 5 unitScale := by decide +kernel
    _ ≤ m * Nat.pow 5 unitScale := Nat.mul_le_mul_right _ (Nat.pos_of_ne_zero hm)

/-- The exact value of a number that fits is rounded to it. -/
theorem ofDecimal_exact {m : Nat} (hm : m ≠ 0) (hover : m < overflow) (hdvd : spacing m ∣ m) :
    ofDecimal ⟨false, m * Nat.pow 5 unitScale, -unitScale⟩ = .finite false m := by
  have hlong := length_exact_le hover
  have hshort := lt_length_exact hm
  have hne : m * Nat.pow 5 unitScale ≠ 0 := Nat.mul_ne_zero hm (Nat.ne_of_gt (five_pow_pos _))
  have hscale : unitScale = 1074 := rfl
  have hlimit : powerLimit = 400 := rfl
  have habs : (-(unitScale : Int)).natAbs = unitScale := Int.natAbs_neg unitScale
  generalize hlength : (Nat.toDigits 10 (m * Nat.pow 5 unitScale)).length = length at hlong hshort
  unfold ofDecimal
  simp only [hlength]
  rw [if_neg hne, if_neg (by omega), if_neg (by omega), if_neg (by omega), habs, ten_pow_eq,
    ofRatio_mul_mul (five_pow_pos _), ofRatio_units hover hdvd]

theorem ofDecimal_of_onGrid? {m : Nat} {place : Int} {d : Decimal} (h : onGrid? m place = some d) :
    d.negative = false ∧ ofDecimal d = .finite false m := by
  unfold onGrid? at h
  extract_lets below readsBack first second at h
  have hback : ∀ n, readsBack n = true → ofDecimal ⟨false, n, place⟩ = .finite false m :=
    fun n hn => beq_iff_eq.1 hn
  split at h
  next hfirst =>
    cases h
    exact ⟨rfl, hback first hfirst⟩
  next =>
    split at h
    next hsecond =>
      cases h
      exact ⟨rfl, hback second hsecond⟩
    next => cases h

theorem ofDecimal_shortestFrom {m : Nat} (hm : m ≠ 0) (hover : m < overflow)
    (hdvd : spacing m ∣ m) (tries : Nat) (place : Int) :
    (shortestFrom m tries place).negative = false ∧
      ofDecimal (shortestFrom m tries place) = .finite false m := by
  induction tries generalizing place with
  | zero => exact ⟨rfl, ofDecimal_exact hm hover hdvd⟩
  | succ tries ih =>
      rw [shortestFrom]
      cases hgrid : onGrid? m place with
      | none => exact ih (place - 1)
      | some d => exact ofDecimal_of_onGrid? hgrid

/-- The shortest decimal of a number, with the sign of the number, is rounded to it. -/
theorem ofDecimal_shortest {s : Bool} {m : Nat} (h : Fits (.finite s m)) :
    ofDecimal { shortest m with negative := s } = .finite s m := by
  obtain ⟨-, hover, hdvd⟩ := h
  refine ofDecimal_withSign s ?_
  by_cases hm : m = 0
  · simp [shortest, ofDecimal, hm]
  · rw [shortest, if_neg hm]
    obtain ⟨hnegative, hback⟩ := ofDecimal_shortestFrom hm hover hdvd 17 (powerAbove m - 1)
    generalize shortestFrom m 17 (powerAbove m - 1) = d at hnegative hback ⊢
    cases d with
    | mk negative digits exponent =>
        cases hnegative
        exact hback

end Fitting

section Rounded

/-- Rounding gives a whole number of spacings, at most the next power of two. -/
theorem exists_roundRatio_eq (num den : Nat) :
    ∃ k, roundRatio num den = k * spacing (num / den) ∧
      k * spacing (num / den) ≤ 2 ^ ((num / den).log2 + 1) := by
  have hgap : num / (den * spacing (num / den)) = num / den / spacing (num / den) :=
    (Nat.div_div_eq_div_mul num den _).symm
  obtain ⟨c, hc⟩ := spacing_dvd_two_pow (Nat.le_succ (num / den).log2)
  have hbelow : num / den / spacing (num / den) < c := by
    refine Nat.div_lt_of_lt_mul ?_
    rw [← hc]
    exact Nat.lt_log2_self
  have hle : ∀ k ≤ c, k * spacing (num / den) ≤ 2 ^ ((num / den).log2 + 1) := by
    intro k hk
    rw [hc, Nat.mul_comm _ c]
    exact Nat.mul_le_mul_right _ hk
  simp only [roundRatio, hgap]
  split
  · exact ⟨_, rfl, hle _ hbelow⟩
  · exact ⟨_, rfl, hle _ (Nat.le_of_lt hbelow)⟩

theorem spacing_dvd_spacing {m n : Nat} (h : m.log2 ≤ n.log2) : spacing m ∣ spacing n := by
  rw [spacing, spacing, Nat.one_shiftLeft, Nat.one_shiftLeft]
  exact Nat.pow_dvd_pow 2 (by omega)

theorem spacing_dvd_roundRatio (num den : Nat) :
    spacing (roundRatio num den) ∣ roundRatio num den := by
  obtain ⟨k, hround, hle⟩ := exists_roundRatio_eq num den
  rcases Nat.lt_or_eq_of_le hle with hlt | heq
  · -- The magnitude has not grown, so the spacing has not either.
    have hlog : (k * spacing (num / den)).log2 ≤ (num / den).log2 := by
      by_cases hzero : k * spacing (num / den) = 0
      · simp [hzero]
      · exact Nat.le_of_lt_succ ((Nat.log2_lt hzero).2 hlt)
    rw [hround]
    exact Nat.dvd_trans (spacing_dvd_spacing hlog) (Nat.dvd_mul_left _ k)
  · rw [hround, heq]
    exact spacing_dvd_two_pow (Nat.le_of_eq Nat.log2_two_pow)

theorem fits_ofUnits {m : Nat} (s : Bool) (h : spacing m ∣ m) : (ofUnits s m).Fits := by
  unfold ofUnits
  split
  next hover => exact .finite s hover h
  next => exact .infinite s

theorem fits_ofRatio (s : Bool) (num den : Nat) : (ofRatio s num den).Fits := by
  rw [ofRatio]
  generalize num <<< unitScale = scaled
  exact fits_ofUnits s (spacing_dvd_roundRatio scaled den)

/-- What a decimal is rounded to is a number of double precision. -/
theorem fits_ofDecimal (d : Decimal) : (ofDecimal d).Fits := by
  obtain ⟨s, n, e⟩ := d
  rcases ofDecimal_cases n e with hzero | hlarge | ⟨num, den, hratio⟩
  · rw [hzero]
    exact .finite s (by decide +kernel) (Nat.dvd_zero _)
  · rw [hlarge]
    exact .infinite s
  · rw [hratio]
    exact fits_ofRatio s num den

end Rounded

end Double
end Conformance
