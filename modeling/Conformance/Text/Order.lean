/-!
# Order of texts

Texts are ordered by code points, and answers list names in that order.

**Operations.**  `sorted` sorts and keeps repetitions, `sortedSet` drops them, and `pairLe` orders
pairs of texts by their first part and then by their second.

**Results.**  Sorting does not change which texts there are (`mem_sorted`, `mem_sortedSet`).
-/

namespace Conformance
namespace Text

section Defs

/-- Whether the first text does not come after the second. -/
def le (a b : String) : Bool :=
  decide (a ≤ b)

/-- The texts in order, repetitions included. -/
def sorted (ts : List String) : List String :=
  ts.mergeSort le

/-- The distinct texts in order. -/
def sortedSet (ts : List String) : List String :=
  sorted ts.eraseDups

/-- Whether the first pair does not come after the second. -/
def pairLe (a b : String × String) : Bool :=
  decide (a.1 < b.1) || (a.1 == b.1 && le a.2 b.2)

end Defs

section Lemmas

@[simp]
theorem mem_sorted {t : String} {ts : List String} : t ∈ sorted ts ↔ t ∈ ts := by
  simp [sorted]

@[simp]
theorem mem_sortedSet {t : String} {ts : List String} : t ∈ sortedSet ts ↔ t ∈ ts := by
  simp [sortedSet]

end Lemmas

end Text
end Conformance
