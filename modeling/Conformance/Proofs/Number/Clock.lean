import Conformance.Cache

/-!
# Clocks and ages

A clock shows a double-precision number and never goes back.  This module says when an entry that
was stored at one reading is still given out at a later one.

**Readings.**  `NotAfter t u` says that a clock which shows `t` may come to show `u`.  A reading that
is not a number stays as it is.

**Results.**
* `notAfter_trans`: readings follow one another;
* `positive_of_isFresh`, `finite_of_isFresh`: whatever is given out has a positive lifetime, and is
  given out at a finite reading;
* `isFresh_now`: at a finite reading, a positive lifetime is enough for an entry that is new.
-/

namespace Conformance
namespace Double

section Order

theorem zero_eq : (0 : Double) = .finite false 0 := by
  decide

theorem le_trans {x y z : Double} (hxy : x.le y = true) (hyz : y.le z = true) :
    x.le z = true := by
  cases x with
  | nan => cases hxy
  | infinite s =>
      cases s with
      | true =>
          cases z with
          | nan => cases y <;> cases hyz
          | finite _ _ => rfl
          | infinite _ => rfl
      | false =>
          cases y with
          | nan => cases hxy
          | finite _ _ => cases hxy
          | infinite t =>
              cases t with
              | true => cases hxy
              | false => exact hyz
  | finite s m =>
      cases y with
      | nan => cases hxy
      | infinite t =>
          cases t with
          | true => cases hxy
          | false =>
              cases z with
              | nan => cases hyz
              | finite _ _ => cases hyz
              | infinite u =>
                  cases u with
                  | true => cases hyz
                  | false => rfl
      | finite t n =>
          cases z with
          | nan => cases hyz
          | infinite u => exact hyz
          | finite u k =>
              simp only [le, decide_eq_true_eq] at hxy hyz ⊢
              exact Int.le_trans hxy hyz

theorem lt_of_le_of_lt {x y z : Double} (hxy : x.le y = true) (hyz : y.lt z = true) :
    x.lt z = true := by
  rw [lt, Bool.and_eq_true, Bool.not_eq_true'] at hyz ⊢
  refine ⟨le_trans hxy hyz.1, ?_⟩
  by_cases hzx : z.le x = true
  · rw [le_trans hzx hxy] at hyz
    cases hyz.2
  · exact Bool.eq_false_iff.2 hzx

theorem lt_of_lt_of_le {x y z : Double} (hxy : x.lt y = true) (hyz : y.le z = true) :
    x.lt z = true := by
  rw [lt, Bool.and_eq_true, Bool.not_eq_true'] at hxy ⊢
  refine ⟨le_trans hxy.1 hyz, ?_⟩
  by_cases hzx : z.le x = true
  · rw [le_trans hyz hzx] at hxy
    cases hxy.2
  · exact Bool.eq_false_iff.2 hzx

/-- No number is above the positive infinity. -/
theorem not_infinite_lt (x : Double) : (Double.infinite false).lt x = false := by
  cases x with
  | nan => rfl
  | finite _ _ => rfl
  | infinite s => cases s <;> rfl

theorem finite_lt_infinite (s : Bool) (m : Nat) :
    (Double.finite s m).lt (.infinite false) = true := rfl

/-- What is left of a number when something not above it is taken away is not negative. -/
theorem zero_le_sub {s t : Bool} {m n : Nat}
    (h : (Double.finite t n).le (.finite s m) = true) :
    (0 : Double).le ((Double.finite s m).sub (.finite t n)) = true := by
  have hneg : signedUnits (!t) n = - signedUnits t n := by
    cases t <;> simp [signedUnits]
  simp only [le, decide_eq_true_eq] at h
  rw [zero_eq, sub, neg, add, hneg]
  by_cases hzero : signedUnits s m + -signedUnits t n = 0
  · rw [if_pos hzero]
    simp [le, signedUnits]
  · rw [if_neg hzero]
    have hsign : decide (signedUnits s m + -signedUnits t n < 0) = false := by
      rw [decide_eq_false_iff_not]
      omega
    rw [hsign, ofUnits]
    split
    · simp [le, signedUnits]
    · rfl

theorem sub_self (s : Bool) (m : Nat) :
    (Double.finite s m).sub (.finite s m) = .finite false 0 := by
  have hsum : signedUnits s m + signedUnits (!s) m = 0 := by
    cases s with
    | false => exact Int.add_right_neg m
    | true => exact Int.add_left_neg m
  rw [sub, neg, add, hsum, if_pos rfl, Bool.and_not_self]

end Order

section Readings

/-- A clock that shows `t` may come to show `u`. -/
def NotAfter (t u : Double) : Prop :=
  t = u ∨ t.le u = true

theorem notAfter_refl (t : Double) : NotAfter t t :=
  .inl rfl

theorem notAfter_trans {t u v : Double} (htu : NotAfter t u) (huv : NotAfter u v) :
    NotAfter t v := by
  rcases htu with rfl | htu
  · exact huv
  · rcases huv with rfl | huv
    · exact .inr htu
    · exact .inr (le_trans htu huv)

/-- A clock that shows a finite number was never at the positive infinity. -/
theorem lt_infinite_of_notAfter {t : Double} {s : Bool} {m : Nat}
    (h : NotAfter t (.finite s m)) : t.lt (.infinite false) = true := by
  rcases h with rfl | h
  · exact finite_lt_infinite s m
  · exact lt_of_le_of_lt h (finite_lt_infinite s m)

/-- A clock below the positive infinity may come to show a finite number. -/
theorem exists_finite_of_lt_infinite {t : Double} (h : t.lt (.infinite false) = true) :
    ∃ s m, t.le (.finite s m) = true := by
  cases t with
  | nan => cases h
  | finite s m => exact ⟨s, m, le_refl_of_ne_nan (by rintro ⟨⟩)⟩
  | infinite s =>
      cases s with
      | true => exact ⟨false, 0, rfl⟩
      | false => cases h

/-- Unless both readings are finite, nothing is above the time between them. -/
theorem finite_of_sub_lt {t u x : Double} (htu : NotAfter t u) (h : (u.sub t).lt x = true) :
    ∃ s m r n, u = .finite s m ∧ t = .finite r n := by
  have hnan : u.sub t ≠ .nan := by
    intro heq
    rw [heq] at h
    cases h
  have hinfinite : u.sub t ≠ .infinite false := by
    intro heq
    rw [heq, not_infinite_lt] at h
    cases h
  cases u with
  | nan => exact absurd rfl hnan
  | finite s m =>
      cases t with
      | nan => exact absurd rfl hnan
      | finite r n => exact ⟨s, m, r, n, rfl, rfl⟩
      | infinite r =>
          cases r with
          | true => exact absurd rfl hinfinite
          | false => rcases htu with htu | htu <;> cases htu
  | infinite s =>
      cases t with
      | nan => exact absurd rfl hnan
      | finite r n =>
          cases s with
          | true => rcases htu with htu | htu <;> cases htu
          | false => exact absurd rfl hinfinite
      | infinite r =>
          cases s with
          | true =>
              cases r with
              | true => exact absurd rfl hnan
              | false => rcases htu with htu | htu <;> cases htu
          | false =>
              cases r with
              | true => exact absurd rfl hinfinite
              | false => exact absurd rfl hnan

end Readings

end Double

namespace Cache

variable {ρ : Type} {lifetime now : Double} {e : Stored ρ}

open Double

/-- Whatever is given out is given out at a finite reading. -/
theorem finite_of_isFresh (h : isFresh lifetime now e = true) (htime : NotAfter e.time now) :
    ∃ s m, now = .finite s m := by
  obtain ⟨s, m, -, -, hnow, -⟩ := finite_of_sub_lt htime h
  exact ⟨s, m, hnow⟩

/-- Only with a positive lifetime is anything given out. -/
theorem positive_of_isFresh (h : isFresh lifetime now e = true) (htime : NotAfter e.time now) :
    (0 : Double).lt lifetime = true := by
  obtain ⟨s, m, t, n, hnow, ht⟩ := finite_of_sub_lt htime h
  rw [isFresh, hnow, ht] at h
  refine lt_of_le_of_lt (zero_le_sub ?_) h
  rw [hnow, ht] at htime
  rcases htime with heq | hle
  · rw [heq]
    exact le_refl_of_ne_nan (by rintro ⟨⟩)
  · exact hle

/-- With a positive lifetime, a new entry is given out. -/
theorem isFresh_now {s : Bool} {m : Nat} (hpositive : (0 : Double).lt lifetime = true)
    (hnow : now = .finite s m) (htime : e.time = now) : isFresh lifetime now e = true := by
  rw [isFresh, htime, hnow, sub_self, ← zero_eq]
  exact hpositive

end Cache
end Conformance
