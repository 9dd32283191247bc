import Conformance.Number.Double

/-!
# Coverage of an interface

How many of the methods that an interface requires a type has.  Both sides are sets of names, so a
name given twice counts once.

**Rate.**  The rate is the quotient of the two numbers, rounded to the nearest double; it is zero
where nothing is required.

**Results.**
* `covered_le_required`: no more is covered than is required;
* `isFull_iff`: coverage is full exactly if something is required and all of it is available;
* `rate_of_isFull`: full coverage has rate one.
-/

namespace Conformance

/-- The number of required names, and the number of those that are covered. -/
structure Coverage where
  covered : Nat
  required : Nat
deriving DecidableEq, Repr

namespace Coverage

section Defs

/-- The coverage of required names by available ones. -/
def of (required available : List String) : Coverage :=
  let names := required.eraseDups
  ⟨(names.filter fun name => available.contains name).length, names.length⟩

/-- Whether something is required and all of it covered. -/
def isFull (c : Coverage) : Bool :=
  c.required != 0 && c.covered == c.required

/-- The part of the required names that is covered. -/
def rate (c : Coverage) : Double :=
  if c.required = 0 then 0 else .ofRatio false c.covered c.required

end Defs

section Lemmas

theorem covered_le_required (required available : List String) :
    (of required available).covered ≤ (of required available).required :=
  List.length_filter_le _ _

theorem eraseDups_eq_nil_iff {names : List String} : names.eraseDups = [] ↔ names = [] := by
  constructor
  · intro h
    rw [List.eq_nil_iff_forall_not_mem]
    intro a ha
    rw [← List.mem_eraseDups, h] at ha
    cases ha
  · rintro rfl
    rfl

theorem isFull_iff {required available : List String} :
    (of required available).isFull = true ↔
      required ≠ [] ∧ ∀ name ∈ required, name ∈ available := by
  simp only [isFull, of, Bool.and_eq_true, bne_iff_ne, beq_iff_eq, ne_eq,
    List.length_eq_zero_iff, eraseDups_eq_nil_iff, List.length_filter_eq_length_iff,
    List.mem_eraseDups, List.contains_iff_mem]

/-- Full coverage has rate one. -/
theorem rate_of_isFull {c : Coverage} (h : c.isFull = true) : c.rate = 1 := by
  simp only [isFull, Bool.and_eq_true, bne_iff_ne, ne_eq, beq_iff_eq] at h
  rw [rate, if_neg h.1, h.2]
  exact Double.ofRatio_self (Nat.pos_of_ne_zero h.1)

end Lemmas

end Coverage
end Conformance
