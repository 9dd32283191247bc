import Conformance.Proofs.Number.Clock
import Mathlib.Algebra.Group.Nat.Defs

/-!
# Rounding keeps the order

A sum or a quotient is rounded to a grid whose spacing depends on its magnitude.  Numbers of one
magnitude are rounded to one grid, and a power of two lies between numbers of different magnitudes
and on the grids of both.  So rounding never turns the order of two numbers around.

**Results.**
* `roundRatio_mono`: the greater of two quotients is not rounded to the smaller one;
* `sub_le_sub`: the time between two readings is no longer than between others around them;
* `not_isFresh_of_elapsed`: once a lifetime has passed since a reading, nothing is given out any
  more that was stored at that reading or before;
* `isFresh_of_later`: what is too old to be given out stays so.
-/

namespace Conformance
namespace Double

section Grids

/-- The multiple of `gap` that is nearest to a count of units, ties to even. -/
def toGrid (gap n : Nat) : Nat :=
  if gap < 2 * (n % gap) || (gap == 2 * (n % gap) && n / gap % 2 == 1) then (n / gap + 1) * gap
  else n / gap * gap

/-- A rounded quotient, measured in parts of the divisor, is on the grid of the quotient. -/
theorem roundRatio_mul (n d : Nat) :
    roundRatio n d * d = toGrid (d * spacing (n / d)) n := by
  simp only [roundRatio, toGrid]
  split
  · rw [Nat.mul_assoc, Nat.mul_comm _ d]
  · rw [Nat.mul_assoc, Nat.mul_comm _ d]

theorem le_toGrid (gap n : Nat) : n / gap * gap ≤ toGrid gap n := by
  rw [toGrid]
  split
  · exact Nat.mul_le_mul_right gap (Nat.le_succ _)
  · exact Nat.le_refl _

theorem toGrid_le (gap n : Nat) : toGrid gap n ≤ (n / gap + 1) * gap := by
  rw [toGrid]
  split
  · exact Nat.le_refl _
  · exact Nat.mul_le_mul_right gap (Nat.le_succ _)

theorem toGrid_mono (gap : Nat) {m n : Nat} (h : m ≤ n) : toGrid gap m ≤ toGrid gap n := by
  have hdiv : m / gap ≤ n / gap := Nat.div_le_div_right h
  rcases Nat.lt_or_eq_of_le hdiv with hlt | heq
  · calc toGrid gap m ≤ (m / gap + 1) * gap := toGrid_le gap m
      _ ≤ n / gap * gap := Nat.mul_le_mul_right gap hlt
      _ ≤ toGrid gap n := le_toGrid gap n
  · have hmod : m % gap ≤ n % gap := by
      have hm := Nat.div_add_mod m gap
      have hn := Nat.div_add_mod n gap
      rw [heq] at hm
      omega
    simp only [toGrid, heq, Bool.or_eq_true, decide_eq_true_eq, Bool.and_eq_true, beq_iff_eq]
    by_cases hup : gap < 2 * (m % gap) ∨ gap = 2 * (m % gap) ∧ n / gap % 2 = 1
    · have hup' : gap < 2 * (n % gap) ∨ gap = 2 * (n % gap) ∧ n / gap % 2 = 1 := by omega
      exact Nat.le_of_eq (by rw [if_pos hup, if_pos hup'])
    · rw [if_neg hup]
      split
      · exact Nat.mul_le_mul_right gap (Nat.le_succ _)
      · exact Nat.le_refl _

end Grids

section Magnitudes

theorem spacing_dvd_two_pow {n k : Nat} (h : n.log2 ≤ k) : spacing n ∣ 2 ^ k := by
  rw [spacing, Nat.one_shiftLeft, precision]
  exact Nat.pow_dvd_pow 2 (by omega)

variable {d : Nat} (hd : 0 < d)
include hd

theorem roundRatio_le_two_pow {n k : Nat} (h : n / d < 2 ^ k) : roundRatio n d ≤ 2 ^ k := by
  have hlog : (n / d).log2 ≤ k := by
    by_cases hn : n / d = 0
    · simp [hn]
    · exact Nat.le_of_lt ((Nat.log2_lt hn).2 h)
  obtain ⟨c, hc⟩ := spacing_dvd_two_pow hlog
  have hbelow : n / (d * spacing (n / d)) < c := by
    rw [← Nat.div_div_eq_div_mul]
    refine Nat.div_lt_of_lt_mul ?_
    rw [← hc]
    exact h
  refine Nat.le_of_mul_le_mul_right ?_ hd
  rw [roundRatio_mul]
  calc toGrid (d * spacing (n / d)) n
      ≤ (n / (d * spacing (n / d)) + 1) * (d * spacing (n / d)) := toGrid_le _ n
    _ ≤ c * (d * spacing (n / d)) := Nat.mul_le_mul_right _ hbelow
    _ = 2 ^ k * d := by rw [hc, Nat.mul_left_comm, Nat.mul_comm d, Nat.mul_comm c]

theorem two_pow_le_roundRatio {n : Nat} (hn : n / d ≠ 0) :
    2 ^ (n / d).log2 ≤ roundRatio n d := by
  obtain ⟨c, hc⟩ := spacing_dvd_two_pow (Nat.le_refl (n / d).log2)
  have hgap : 0 < spacing (n / d) := by
    rw [spacing, Nat.one_shiftLeft]
    exact Nat.two_pow_pos _
  have hbelow : c ≤ n / (d * spacing (n / d)) := by
    rw [← Nat.div_div_eq_div_mul, Nat.le_div_iff_mul_le hgap, Nat.mul_comm, ← hc]
    exact Nat.log2_self_le hn
  refine Nat.le_of_mul_le_mul_right ?_ hd
  rw [roundRatio_mul]
  calc 2 ^ (n / d).log2 * d
      = c * (d * spacing (n / d)) := by rw [hc, Nat.mul_left_comm, Nat.mul_comm d, Nat.mul_comm c]
    _ ≤ n / (d * spacing (n / d)) * (d * spacing (n / d)) := Nat.mul_le_mul_right _ hbelow
    _ ≤ toGrid (d * spacing (n / d)) n := le_toGrid _ n

/-- Rounding keeps the order of quotients with the same divisor. -/
theorem roundRatio_mono {m n : Nat} (h : m ≤ n) : roundRatio m d ≤ roundRatio n d := by
  have hdiv : m / d ≤ n / d := Nat.div_le_div_right h
  have hlog : (m / d).log2 ≤ (n / d).log2 := by
    by_cases hm : m / d = 0
    · rw [hm, Nat.log2_zero]
      exact Nat.zero_le _
    · have hn : n / d ≠ 0 := fun hn => hm (Nat.le_zero.1 (hn ▸ hdiv))
      exact (Nat.le_log2 hn).2 (Nat.le_trans (Nat.log2_self_le hm) hdiv)
  rcases Nat.lt_or_eq_of_le hlog with hlt | heq
  · have hn : n / d ≠ 0 := by
      intro hn
      rw [hn, Nat.log2_zero] at hlt
      exact Nat.not_lt_zero _ hlt
    calc roundRatio m d ≤ 2 ^ ((m / d).log2 + 1) := roundRatio_le_two_pow hd Nat.lt_log2_self
      _ ≤ 2 ^ (n / d).log2 := Nat.pow_le_pow_right (by decide) hlt
      _ ≤ roundRatio n d := two_pow_le_roundRatio hd hn
  · have hspacing : spacing (m / d) = spacing (n / d) := by rw [spacing, spacing, heq]
    refine Nat.le_of_mul_le_mul_right ?_ hd
    rw [roundRatio_mul, roundRatio_mul, hspacing]
    exact toGrid_mono _ h

end Magnitudes

section Numbers

theorem ofUnits_le_ofUnits {m n : Nat} (h : m ≤ n) :
    (ofUnits false m).le (ofUnits false n) = true := by
  rw [ofUnits, ofUnits]
  by_cases hn : n < overflow
  · have hm : m < overflow := Nat.lt_of_le_of_lt h hn
    rw [if_pos hn, if_pos hm]
    simpa [le, signedUnits] using h
  · rw [if_neg hn]
    split
    · rfl
    · rfl

/-- The greater of two quotients with the same divisor is the greater number. -/
theorem ofRatio_le_ofRatio {m n d : Nat} (hd : 0 < d) (h : m ≤ n) :
    (ofRatio false m d).le (ofRatio false n d) = true := by
  refine ofUnits_le_ofUnits (roundRatio_mono hd ?_)
  rw [Nat.shiftLeft_eq, Nat.shiftLeft_eq]
  exact Nat.mul_le_mul_right _ h

/-- What is left of a number, if something not above it is taken away, as a rounded count. -/
theorem sub_eq_ofUnits {s t : Bool} {m n : Nat} (h : signedUnits t n < signedUnits s m) :
    (Double.finite s m).sub (.finite t n)
      = ofUnits false (roundRatio (signedUnits s m - signedUnits t n).natAbs 1) := by
  have hneg : signedUnits (!t) n = - signedUnits t n := by
    cases t <;> simp [signedUnits]
  have hsum : signedUnits s m + signedUnits (!t) n = signedUnits s m - signedUnits t n := by
    rw [hneg]
    omega
  have hne : ¬ signedUnits s m - signedUnits t n = 0 := by omega
  have hsign : decide (signedUnits s m - signedUnits t n < 0) = false := by
    rw [decide_eq_false_iff_not]
    omega
  rw [sub, neg, add, hsum, if_neg hne, hsign]

/-- The less is taken away and the more there was, the more is left. -/
theorem sub_le_sub {s t u v : Bool} {m n k j : Nat}
    (htu : (Double.finite t n).le (.finite u k) = true)
    (hus : (Double.finite u k).le (.finite s m) = true)
    (hsv : (Double.finite s m).le (.finite v j) = true) :
    ((Double.finite s m).sub (.finite u k)).le ((Double.finite v j).sub (.finite t n)) = true := by
  have htv := le_trans (le_trans htu hus) hsv
  simp only [le, decide_eq_true_eq] at htu hus hsv
  rcases Int.lt_or_eq_of_le hus with hlt | heq
  · rw [sub_eq_ofUnits hlt, sub_eq_ofUnits (Int.lt_of_lt_of_le (Int.lt_of_le_of_lt htu hlt) hsv)]
    exact ofUnits_le_ofUnits (roundRatio_mono Nat.one_pos (by omega))
  · -- Nothing is left on one side, and nothing negative on the other.
    have hzero : ((Double.finite s m).sub (.finite u k)).le 0 = true := by
      have hneg : signedUnits (!u) k = - signedUnits u k := by
        cases u <;> simp [signedUnits]
      have hsum : signedUnits s m + signedUnits (!u) k = 0 := by omega
      rw [sub, neg, add, if_pos hsum, zero_eq]
      simp [le, signedUnits]
    exact le_trans hzero (zero_le_sub htv)

end Numbers

section Readings

theorem le_of_notAfter {t u : Double} (h : NotAfter t u) (ht : t ≠ .nan) : t.le u = true := by
  rcases h with rfl | h
  · exact le_refl_of_ne_nan ht
  · exact h

/-- A reading between finite ones is finite. -/
theorem finite_of_between {t : Double} {r s : Bool} {n m : Nat} (hrt : NotAfter (.finite r n) t)
    (hts : NotAfter t (.finite s m)) : ∃ u k, t = .finite u k := by
  cases t with
  | nan => rcases hrt with hrt | hrt <;> cases hrt
  | infinite b =>
      cases b with
      | false => rcases hts with hts | hts <;> cases hts
      | true => rcases hrt with hrt | hrt <;> cases hrt
  | finite u k => exact ⟨u, k, rfl⟩

end Readings

end Double

namespace Cache

variable {ρ : Type} {lifetime t now : Double} {e : Stored ρ}

open Double

/-- Once a lifetime has passed since a reading, whatever was stored by then is not given out. -/
theorem not_isFresh_of_elapsed (hstored : NotAfter e.time t) (hnow : NotAfter t now)
    (helapsed : (now.sub t).lt lifetime = false) : isFresh lifetime now e = false := by
  rw [Bool.eq_false_iff]
  intro hfresh
  obtain ⟨s, m, r, n, rfl, htime⟩ := finite_of_sub_lt (notAfter_trans hstored hnow) hfresh
  rw [htime] at hstored
  obtain ⟨u, k, rfl⟩ := finite_of_between hstored hnow
  have hage := sub_le_sub (le_of_notAfter hstored (by rintro ⟨⟩))
    (le_of_notAfter hnow (by rintro ⟨⟩)) (le_refl_of_ne_nan (by rintro ⟨⟩))
  rw [isFresh, htime] at hfresh
  rw [lt_of_le_of_lt hage hfresh] at helapsed
  cases helapsed

/-- What is given out at a reading would have been given out at every reading before. -/
theorem isFresh_of_later (hfresh : isFresh lifetime now e = true) (hstored : NotAfter e.time t)
    (hnow : NotAfter t now) : isFresh lifetime t e = true := by
  obtain ⟨s, m, r, n, rfl, htime⟩ := finite_of_sub_lt (notAfter_trans hstored hnow) hfresh
  rw [htime] at hstored
  obtain ⟨u, k, rfl⟩ := finite_of_between hstored hnow
  have hage := sub_le_sub (le_refl_of_ne_nan (by rintro ⟨⟩))
    (le_of_notAfter hstored (by rintro ⟨⟩)) (le_of_notAfter hnow (by rintro ⟨⟩))
  rw [isFresh, htime] at hfresh ⊢
  exact lt_of_le_of_lt hage hfresh

end Cache
end Conformance
