import Conformance.Json.Parser
import Conformance.Json.Printer
import Conformance.Proofs.Number.ReadBack
import Conformance.Text.Blank

/-!
# Numbers in a JSON text

The text of a number is read as that number, before anything that cannot be a part of it.

**Parts.**  `IsWhole` says which digits can stand before the point.  A number is read by its parts:
whole digits alone (`unsigned?_whole`), and with a fraction, an exponent or both.

**Notations.**  A decimal is written without its last zeros, positionally or with an exponent.  Both
notations have its value (`unsigned?_positionalText`, `unsigned?_scaledText`).

**Results.**
* `number?_int`: the text of a whole number is read as that number;
* `number?_text`: the text of a decimal is read as the number that the decimal is rounded to.
-/

namespace Conformance
namespace Json

open Text

section Parts

variable {ds fs rest : List Char} {e : Int}

/-- The text does not go on with a digit. -/
def NoDigitNext (rest : List Char) : Prop :=
  ∀ c, rest.head? = some c → c.isDigit = false

/-- The text does not go on with a part of a number. -/
def NumberEnds (rest : List Char) : Prop :=
  ∀ c, rest.head? = some c → c.isDigit = false ∧ c ≠ '.' ∧ c ≠ 'e' ∧ c ≠ 'E'

/-- Digits that can stand before the point. -/
structure IsWhole (ds : List Char) : Prop where
  ne_nil : ds ≠ []
  digits : ∀ c ∈ ds, c.isDigit = true
  head : ds.head? = some '0' → ds = ['0']

theorem NumberEnds.noDigitNext (h : NumberEnds rest) : NoDigitNext rest :=
  fun c hc => (h c hc).1

theorem noDigitNext_cons {c : Char} (h : c.isDigit = false) : NoDigitNext (c :: rest) :=
  stopsAt_cons h

theorem whole?_append (h : IsWhole ds) (hrest : NoDigitNext rest) :
    whole? (ds ++ rest) = some (ds, rest) := by
  by_cases hzero : ds.head? = some '0'
  · rw [h.head hzero]
    rfl
  · have hempty : ds.isEmpty = false := by simp [h.ne_nil]
    unfold whole?
    split
    next rest' heq =>
      cases ds with
      | nil => exact absurd rfl h.ne_nil
      | cons c ds =>
          cases heq
          exact absurd rfl hzero
    next =>
      simp only [takeWhile_of_stopsAt h.digits hrest, dropWhile_of_stopsAt h.digits hrest, hempty]
      rfl

theorem fraction?_point (hne : fs ≠ []) (hfs : ∀ c ∈ fs, c.isDigit = true)
    (hrest : NoDigitNext rest) : fraction? ('.' :: (fs ++ rest)) = some (fs, rest) := by
  have hempty : fs.isEmpty = false := by simp [hne]
  simp only [fraction?, takeWhile_of_stopsAt hfs hrest, dropWhile_of_stopsAt hfs hrest, hempty]
  rfl

theorem fraction?_eq_none (h : rest.head? ≠ some '.') : fraction? rest = none := by
  unfold fraction?
  split
  next => exact absurd rfl h
  next => rfl

theorem exponent?_eq_none (he : rest.head? ≠ some 'e') (hE : rest.head? ≠ some 'E') :
    exponent? rest = none := by
  unfold exponent?
  split
  next => exact absurd rfl he
  next => exact absurd rfl hE
  next => rfl

/-- A sign and digits are read as the power that they write. -/
theorem signedDigits?_append (hne : ds ≠ []) (hds : ∀ c ∈ ds, c.isDigit = true)
    (hvalue : Decimal.valueOfDigits ds = e.natAbs) (hrest : NoDigitNext rest) :
    signedDigits? ((if e < 0 then '-' else '+') :: (ds ++ rest)) = some (e, rest) := by
  by_cases he : e < 0
  · have hsign : -|e| = e := by rw [abs_of_neg he, neg_neg]
    simp [signedDigits?, he, takeWhile_of_stopsAt hds hrest, dropWhile_of_stopsAt hds hrest, hne,
      hvalue, hsign]
  · have hsign : |e| = e := abs_of_nonneg (not_lt.1 he)
    simp [signedDigits?, he, takeWhile_of_stopsAt hds hrest, dropWhile_of_stopsAt hds hrest, hne,
      hvalue, hsign]

theorem isDigit_of_mem_filled {k n : Nat} {c : Char}
    (h : c ∈ List.replicate k '0' ++ Nat.toDigits 10 n) : c.isDigit = true := by
  rcases List.mem_append.1 h with hc | hc
  · rw [(List.mem_replicate.1 hc).2]
    rfl
  · exact isDigit_of_mem_digits hc

theorem exponent?_exponentText (hrest : NoDigitNext rest) :
    exponent? ('e' :: (Decimal.exponentText e ++ rest)) = some (e, rest) := by
  refine signedDigits?_append ?_ (fun c hc => isDigit_of_mem_filled hc) ?_ hrest
  · simp
  · rw [Decimal.valueOfDigits_append, Decimal.valueOfDigits_replicate_zero,
      Decimal.valueOfDigits_toDigits, Nat.mul_zero, Nat.zero_add]

theorem NumberEnds.fraction?_eq_none (h : NumberEnds rest) : fraction? rest = none :=
  Json.fraction?_eq_none fun hc => (h _ hc).2.1 rfl

theorem NumberEnds.exponent?_eq_none (h : NumberEnds rest) : exponent? rest = none :=
  Json.exponent?_eq_none (fun hc => (h _ hc).2.2.1 rfl) fun hc => (h _ hc).2.2.2 rfl

end Parts

section Forms

variable {ds fs rest : List Char} {e : Int} {s : Bool}

theorem unsigned?_whole (hds : IsWhole ds) (hrest : NumberEnds rest) :
    unsigned? s (ds ++ rest) =
      some (.int (if s then -(Decimal.valueOfDigits ds : Int) else Decimal.valueOfDigits ds),
        rest) := by
  simp [unsigned?, whole?_append hds hrest.noDigitNext, hrest.fraction?_eq_none, hrest.exponent?_eq_none]

theorem unsigned?_fraction (hds : IsWhole ds) (hne : fs ≠ []) (hfs : ∀ c ∈ fs, c.isDigit = true)
    (hrest : NumberEnds rest) :
    unsigned? s (ds ++ '.' :: (fs ++ rest)) =
      some (.real (.ofDecimal (.ofParts s ds fs 0)), rest) := by
  have hpoint : NoDigitNext ('.' :: (fs ++ rest)) := noDigitNext_cons (by decide)
  simp [unsigned?, whole?_append hds hpoint, fraction?_point hne hfs hrest.noDigitNext,
    hrest.exponent?_eq_none]

theorem unsigned?_exponent (hds : IsWhole ds) (hrest : NoDigitNext rest) :
    unsigned? s (ds ++ 'e' :: (Decimal.exponentText e ++ rest)) =
      some (.real (.ofDecimal (.ofParts s ds [] e)), rest) := by
  have hletter : NoDigitNext ('e' :: (Decimal.exponentText e ++ rest)) :=
    noDigitNext_cons (by decide)
  have hfraction : fraction? ('e' :: (Decimal.exponentText e ++ rest)) = none := rfl
  simp [unsigned?, whole?_append hds hletter, hfraction, exponent?_exponentText hrest]

theorem unsigned?_fraction_exponent (hds : IsWhole ds) (hne : fs ≠ [])
    (hfs : ∀ c ∈ fs, c.isDigit = true) (hrest : NoDigitNext rest) :
    unsigned? s (ds ++ '.' :: (fs ++ 'e' :: (Decimal.exponentText e ++ rest))) =
      some (.real (.ofDecimal (.ofParts s ds fs e)), rest) := by
  have hletter : NoDigitNext ('e' :: (Decimal.exponentText e ++ rest)) :=
    noDigitNext_cons (by decide)
  have hpoint : NoDigitNext ('.' :: (fs ++ 'e' :: (Decimal.exponentText e ++ rest))) :=
    noDigitNext_cons (by decide)
  simp [unsigned?, whole?_append hds hpoint, fraction?_point hne hfs hletter,
    exponent?_exponentText hrest]

end Forms

section Whole

theorem isWhole_toDigits (n : Nat) : IsWhole (Nat.toDigits 10 n) where
  ne_nil := Nat.toDigits_ne_nil
  digits _ hc := isDigit_of_mem_digits hc
  head hzero := by
    by_cases hn : n = 0
    · rw [hn]
      decide
    · exact absurd hzero (head?_toDigits hn)

theorem isWhole_take_one (n : Nat) : IsWhole ((Nat.toDigits 10 n).take 1) := by
  obtain ⟨c, cs, hcs⟩ := List.exists_cons_of_ne_nil (Nat.toDigits_ne_nil (n := n) (b := 10))
  have hc : c.isDigit = true := isDigit_of_mem_digits (hcs ▸ List.mem_cons_self)
  refine ⟨?_, ?_, ?_⟩ <;> simp [hcs, hc]

/-- Digits can be cut, or filled up with zeros, unless they are those of zero. -/
theorem isWhole_take_append {n point : Nat} (hpoint : point ≠ 0) (hzero : n = 0 → point = 1) :
    IsWhole ((Nat.toDigits 10 n).take point ++
      List.replicate (point - (Nat.toDigits 10 n).length) '0') := by
  by_cases hn : n = 0
  · rw [hzero hn, hn]
    exact isWhole_toDigits 0
  · have hhead := head?_toDigits hn
    have hdigits : ∀ c ∈ Nat.toDigits 10 n, c.isDigit = true := fun c hc => isDigit_of_mem_digits hc
    obtain ⟨c, cs, hcs⟩ := List.exists_cons_of_ne_nil (Nat.toDigits_ne_nil (n := n) (b := 10))
    obtain ⟨point, rfl⟩ := Nat.exists_eq_succ_of_ne_zero hpoint
    rw [hcs] at hhead hdigits ⊢
    refine ⟨by simp, ?_, fun hc => absurd hc hhead⟩
    intro d hd
    rcases List.mem_append.1 hd with hd | hd
    · exact hdigits d (List.mem_of_mem_take hd)
    · rw [(List.mem_replicate.1 hd).2]
      rfl

end Whole

section Notations

variable {n : Nat} {s : Bool} {rest : List Char}

/-- Zeros before the digits of a fraction lower its power. -/
theorem ofParts_zeros (n k : Nat) :
    Decimal.ofParts s ['0'] (List.replicate k '0' ++ Nat.toDigits 10 n) 0 =
      ⟨s, n, -k - (Nat.toDigits 10 n).length⟩ := by
  have hvalue : Decimal.valueOfDigits (['0'] ++ (List.replicate k '0' ++ Nat.toDigits 10 n)) = n := by
    rw [← List.append_assoc, Decimal.valueOfDigits_append, Decimal.valueOfDigits_toDigits,
      List.singleton_append, ← List.replicate_succ, Decimal.valueOfDigits_replicate_zero,
      Nat.mul_zero, Nat.zero_add]
  rw [Decimal.ofParts, hvalue, List.length_append, List.length_replicate]
  congr 1
  omega

/-- A point between the digits lowers the power by the digits after it. -/
theorem ofParts_take_drop {n k : Nat} (hk : k ≤ (Nat.toDigits 10 n).length) (power : Int) :
    Decimal.ofParts s ((Nat.toDigits 10 n).take k) ((Nat.toDigits 10 n).drop k) power =
      ⟨s, n, power + k - (Nat.toDigits 10 n).length⟩ := by
  rw [Decimal.ofParts, List.take_append_drop, Decimal.valueOfDigits_toDigits, List.length_drop]
  congr 1
  omega

/-- Zeros after the digits raise the power. -/
theorem ofDecimal_ofParts_filled (n k : Nat) :
    Double.ofDecimal (.ofParts s (Nat.toDigits 10 n ++ List.replicate k '0') ['0'] 0) =
      .ofDecimal ⟨s, n, k⟩ := by
  have hvalue : Decimal.valueOfDigits (Nat.toDigits 10 n ++ List.replicate k '0' ++ ['0']) =
      n * 10 ^ (k + 1) := by
    rw [List.append_assoc, ← List.replicate_succ', Decimal.valueOfDigits_append,
      Decimal.valueOfDigits_toDigits, Decimal.valueOfDigits_replicate_zero, List.length_replicate,
      Nat.add_zero, Nat.mul_comm]
  have hpower : (0 - ((['0'] : List Char).length : Int)) + ((k + 1 : Nat) : Int) = k := by
    simp
  rw [Decimal.ofParts, hvalue, Double.ofDecimal_mul_pow, hpower]

theorem unsigned?_positionalText {point : Int} (hzero : n = 0 → point = 1)
    (hrest : NumberEnds rest) :
    unsigned? s (Decimal.positionalText (Nat.toDigits 10 n) point ++ rest) =
      some (.real (.ofDecimal ⟨s, n, point - (Nat.toDigits 10 n).length⟩), rest) := by
  by_cases hpoint : point ≤ 0
  · have hne : List.replicate point.natAbs '0' ++ Nat.toDigits 10 n ≠ [] := by simp
    have hread := unsigned?_fraction (s := s) (isWhole_toDigits 0) hne
      (fun c hc => isDigit_of_mem_filled hc) hrest
    have hpower : -(point.natAbs : Int) = point := by omega
    rw [show Nat.toDigits 10 0 = ['0'] from rfl, ofParts_zeros, hpower] at hread
    simpa [Decimal.positionalText, hpoint] using hread
  · have hwhole : IsWhole ((Nat.toDigits 10 n).take point.toNat ++
        List.replicate (point.toNat - (Nat.toDigits 10 n).length) '0') :=
      isWhole_take_append (by omega) (by omega)
    by_cases hlong : (Nat.toDigits 10 n).length ≤ point.toNat
    · -- No digit is left for the fraction, which is a zero.
      have hne : ['0'] ≠ [] := List.cons_ne_nil '0' []
      have hread := unsigned?_fraction (s := s) hwhole hne (by simp) hrest
      rw [List.take_of_length_le hlong, ofDecimal_ofParts_filled] at hread
      have hpower : ((point.toNat - (Nat.toDigits 10 n).length : Nat) : Int) =
          point - (Nat.toDigits 10 n).length := by
        omega
      rw [hpower] at hread
      simpa [Decimal.positionalText, hpoint, hlong, List.take_of_length_le hlong] using hread
    · have hne : (Nat.toDigits 10 n).drop point.toNat ≠ [] :=
        fun hnil => hlong (List.drop_eq_nil_iff.1 hnil)
      have hread := unsigned?_fraction (s := s) hwhole hne
        (fun c hc => isDigit_of_mem_digits (List.mem_of_mem_drop hc)) hrest
      have hfill : point.toNat - (Nat.toDigits 10 n).length = 0 := by omega
      have hpower : 0 + (point.toNat : Int) = point := by omega
      rw [hfill, List.replicate_zero, List.append_nil, ofParts_take_drop (by omega), hpower] at hread
      simpa [Decimal.positionalText, hpoint, hlong, hfill] using hread

theorem unsigned?_scaledText {first : Int} (hrest : NumberEnds rest) :
    unsigned? s (Decimal.scaledText (Nat.toDigits 10 n) first ++ rest) =
      some (.real (.ofDecimal ⟨s, n, first + 1 - (Nat.toDigits 10 n).length⟩), rest) := by
  have hpos : 0 < (Nat.toDigits 10 n).length := Nat.length_toDigits_pos
  have hparts := ofParts_take_drop (s := s) (n := n) (k := 1) hpos first
  by_cases hone : (Nat.toDigits 10 n).length ≤ 1
  · have htake : (Nat.toDigits 10 n).take 1 = Nat.toDigits 10 n := List.take_of_length_le hone
    have hdrop : (Nat.toDigits 10 n).drop 1 = [] := List.drop_eq_nil_iff.2 hone
    have hread := unsigned?_exponent (s := s) (e := first) (isWhole_take_one n) hrest.noDigitNext
    rw [← hdrop, hparts] at hread
    simpa [Decimal.scaledText, hone] using hread
  · have hread := unsigned?_fraction_exponent (s := s) (e := first) (isWhole_take_one n)
      (fun hnil => hone (List.drop_eq_nil_iff.1 hnil))
      (fun c hc => isDigit_of_mem_digits (List.mem_of_mem_drop hc)) hrest.noDigitNext
    rw [hparts] at hread
    simpa [Decimal.scaledText, hone] using hread

end Notations

section Numbers

variable {s : Bool} {cs rest : List Char} {r : Json × List Char}

theorem head?_of_unsigned? (h : unsigned? s cs = some r) :
    ∃ c, cs.head? = some c ∧ c.isDigit = true := by
  cases hwhole : whole? cs with
  | none => simp [unsigned?, hwhole] at h
  | some w =>
      unfold whole? at hwhole
      split at hwhole
      next => exact ⟨'0', rfl, rfl⟩
      next =>
        cases cs with
        | nil => cases hwhole
        | cons c cs =>
            refine ⟨c, rfl, ?_⟩
            by_contra hc
            simp [hc] at hwhole

/-- A number is a sign, or none, and the rest. -/
theorem number?_of_unsigned? (h : unsigned? s cs = some r) :
    number? (if s then '-' :: cs else cs) = some r := by
  obtain ⟨c, hhead, hdigit⟩ := head?_of_unsigned? h
  obtain ⟨cs, rfl⟩ := List.head?_eq_some_iff.1 hhead
  cases s with
  | true =>
      have hword : afterWord? "Infinity" (c :: cs) = none := by
        have hne : c ≠ 'I' := by
          rintro rfl
          cases hdigit
        simp [afterWord?, hne.symm]
      simp [number?, hword, h]
  | false =>
      unfold number?
      split
      next heq =>
        cases heq
        cases hdigit
      next => exact h

theorem head?_of_number? (h : number? cs = some r) :
    ∃ c, cs.head? = some c ∧ (c = '-' ∨ c.isDigit = true) := by
  unfold number? at h
  split at h
  next => exact ⟨'-', rfl, .inl rfl⟩
  next =>
    obtain ⟨c, hhead, hdigit⟩ := head?_of_unsigned? h
    exact ⟨c, hhead, .inr hdigit⟩

/-- The text of a decimal without last zeros, after its sign. -/
def unsignedText (n : Nat) (e : Int) : List Char :=
  let ds := Nat.toDigits 10 n
  let first := e + ds.length - 1
  if Decimal.leastPositional ≤ first ∧ first < Decimal.leastScaled then
    Decimal.positionalText ds (first + 1)
  else Decimal.scaledText ds first

theorem unsigned?_unsignedText {n : Nat} {e : Int} (hzero : n = 0 → e = 0)
    (hrest : NumberEnds rest) :
    unsigned? s (unsignedText n e ++ rest) = some (.real (.ofDecimal ⟨s, n, e⟩), rest) := by
  have hpower : e + ((Nat.toDigits 10 n).length : Int) - 1 + 1 - (Nat.toDigits 10 n).length = e := by
    omega
  rw [unsignedText]
  split
  next =>
    rw [unsigned?_positionalText ?_ hrest, hpower]
    intro hn
    rw [hzero hn, hn]
    rfl
  next => rw [unsigned?_scaledText hrest, hpower]

/-- A decimal is written as one without last zeros, which is rounded to the same number. -/
theorem exists_unsignedText (d : Decimal) :
    ∃ n e, d.text.toList = (if d.negative then '-' :: unsignedText n e else unsignedText n e) ∧
      (n = 0 → e = 0) ∧
      Double.ofDecimal ⟨d.negative, n, e⟩ = .ofDecimal d := by
  obtain ⟨negative, digits, exponent⟩ := d
  by_cases hdigits : digits = 0
  · refine ⟨0, 0, ?_, fun _ => rfl, ?_⟩
    · rw [Decimal.text]
      simp [hdigits, unsignedText]
    · simp [Double.ofDecimal, hdigits]
  · obtain ⟨k, hpower, hvalue⟩ := Decimal.trimZeros_value digits digits exponent
    refine ⟨(Decimal.trimZeros digits digits exponent).1,
      (Decimal.trimZeros digits digits exponent).2, ?_, ?_, ?_⟩
    · simp [Decimal.text, hdigits, unsignedText]
    · intro hzero
      rw [hzero, Nat.zero_mul] at hvalue
      exact absurd hvalue.symm hdigits
    · rw [hpower, ← Double.ofDecimal_mul_pow]
      exact congrArg (fun n => Double.ofDecimal ⟨negative, n, exponent⟩) hvalue

/-- The text of a decimal is read as the number that it is rounded to. -/
theorem number?_text (d : Decimal) (hrest : NumberEnds rest) :
    number? (d.text.toList ++ rest) = some (.real (.ofDecimal d), rest) := by
  obtain ⟨n, e, htext, hzero, hvalue⟩ := exists_unsignedText d
  have hread := number?_of_unsigned? (unsigned?_unsignedText (s := d.negative) hzero hrest)
  rw [hvalue] at hread
  rw [htext]
  cases hnegative : d.negative <;> simpa [hnegative] using hread

/-- The text of a whole number is read as that number. -/
theorem number?_int (n : Int) (hrest : NumberEnds rest) :
    number? ((toString n).toList ++ rest) = some (.int n, rest) := by
  have htext : (toString n).toList =
      if n < 0 then '-' :: Nat.toDigits 10 n.natAbs else Nat.toDigits 10 n.natAbs := by
    show n.repr.toList = _
    rw [Int.repr_eq_if]
    by_cases hn : 0 ≤ n
    · have habs : n.toNat = n.natAbs := by omega
      simp [hn, Nat.repr, habs]
    · have habs : (-n).toNat = n.natAbs := by omega
      simp [hn, not_le.1 hn, Nat.repr, habs]
  have hread := number?_of_unsigned? (unsigned?_whole (s := n < 0) (isWhole_toDigits n.natAbs) hrest)
  rw [Decimal.valueOfDigits_toDigits] at hread
  rw [htext]
  by_cases hn : n < 0
  · have hsign : -|n| = n := by rw [abs_of_neg hn, neg_neg]
    simpa [hn, hsign] using hread
  · have hsign : |n| = n := abs_of_nonneg (not_lt.1 hn)
    simpa [hn, hsign] using hread

end Numbers

end Json
end Conformance
