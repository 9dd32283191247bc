import Conformance.Text.Order
import Mathlib.Data.List.Nodup

/-!
# Sorted texts

Sorting puts texts in order, strictly so where none is repeated.  The order is total, so the sorted
form of a list depends on its members only: two lists with the same members in another order, or
for `sortedSet` with other repetitions, have the same sorted form.  The same holds of entries that
are sorted by a pair of texts, as long as no pair occurs twice.

**Results.**
* `sorted_pairwise_lt`: texts without repetition are strictly increasing once sorted;
* `sorted_congr`, `sortedSet_congr`: the sorted form depends on the members only;
* `mergeSort_pairLe_pairwise`, `mergeSort_pairLe_congr`: the same for entries under distinct pairs
  of texts.
-/

namespace Conformance
namespace Text

section Repetition

theorem nodup_eraseDups {α : Type} [BEq α] [LawfulBEq α] (xs : List α) : xs.eraseDups.Nodup := by
  match xs with
  | [] => exact List.nodup_nil
  | x :: rest =>
      rw [List.eraseDups_cons, List.nodup_cons]
      refine ⟨?_, nodup_eraseDups (rest.filter fun y => !y == x)⟩
      intro hmem
      have hx : x ∈ rest.filter fun y => !y == x := List.mem_eraseDups.1 hmem
      simp at hx
termination_by xs.length
decreasing_by exact Nat.lt_succ_of_le (List.length_filter_le _ rest)

end Repetition

section Texts

variable {ts us : List String}

theorem le_trans (a b c : String) (hab : le a b = true) (hbc : le b c = true) : le a c = true := by
  rw [le, decide_eq_true_eq] at hab hbc ⊢
  exact String.le_trans hab hbc

theorem le_total (a b : String) : (le a b || le b a) = true := by
  rw [le, le, Bool.or_eq_true, decide_eq_true_eq, decide_eq_true_eq]
  exact String.le_total a b

theorem sorted_pairwise_le (ts : List String) : (sorted ts).Pairwise (· ≤ ·) := by
  have h : (sorted ts).Pairwise fun a b => le a b = true :=
    List.pairwise_mergeSort le_trans le_total ts
  exact h.imp fun hab => decide_eq_true_eq.mp hab

/-- Texts without repetition are strictly increasing once they are sorted. -/
theorem sorted_pairwise_lt (h : ts.Nodup) : (sorted ts).Pairwise (· < ·) := by
  have hnodup : (sorted ts).Nodup := (List.mergeSort_perm ts le).nodup_iff.2 h
  refine ((sorted_pairwise_le ts).and hnodup).imp ?_
  rintro a b ⟨hle, hne⟩
  exact Std.lt_of_le_of_ne hle hne

/-- Texts have one order. -/
theorem sorted_eq_of_perm (h : ts.Perm us) (hus : us.Pairwise (· ≤ ·)) : sorted ts = us := by
  have hperm : (sorted ts).Perm us := (List.mergeSort_perm ts le).trans h
  exact hperm.eq_of_pairwise (fun _ _ _ _ => String.le_antisymm) (sorted_pairwise_le ts) hus

theorem sorted_congr (h : ts.Perm us) : sorted ts = sorted us :=
  sorted_eq_of_perm (h.trans (List.mergeSort_perm us le).symm) (sorted_pairwise_le us)

/-- The distinct texts in order depend on the members of a list only. -/
theorem sortedSet_congr (h : ∀ t, t ∈ ts ↔ t ∈ us) : sortedSet ts = sortedSet us := by
  refine sorted_congr ((List.perm_ext_iff_of_nodup (nodup_eraseDups ts) (nodup_eraseDups us)).2 ?_)
  intro t
  rw [List.mem_eraseDups, List.mem_eraseDups, h]

end Texts

section Pairs

theorem pairLe_iff {a b : String × String} :
    pairLe a b = true ↔ a.1 < b.1 ∨ (a.1 = b.1 ∧ a.2 ≤ b.2) := by
  simp [pairLe, le]

theorem pairLe_total (a b : String × String) : (pairLe a b || pairLe b a) = true := by
  rw [Bool.or_eq_true, pairLe_iff, pairLe_iff]
  by_cases hlt : a.1 < b.1
  · exact .inl (.inl hlt)
  by_cases hgt : b.1 < a.1
  · exact .inr (.inl hgt)
  have heq : a.1 = b.1 := String.le_antisymm (String.not_lt.1 hgt) (String.not_lt.1 hlt)
  rcases String.le_total a.2 b.2 with hle | hge
  · exact .inl (.inr ⟨heq, hle⟩)
  · exact .inr (.inr ⟨heq.symm, hge⟩)

/-- The first pair comes before the second. -/
def PairLt (a b : String × String) : Prop :=
  a.1 < b.1 ∨ (a.1 = b.1 ∧ a.2 < b.2)

theorem pairLt_irrefl (a : String × String) : ¬ PairLt a a := by
  rintro (h | ⟨-, h⟩)
  · exact String.lt_irrefl a.1 h
  · exact String.lt_irrefl a.2 h

theorem pairLt_trans {a b c : String × String} (hab : PairLt a b) (hbc : PairLt b c) :
    PairLt a c := by
  rcases hab with hab | ⟨hab, hab'⟩
  · rcases hbc with hbc | ⟨hbc, -⟩
    · exact .inl (String.lt_trans hab hbc)
    · exact .inl (hbc ▸ hab)
  · rcases hbc with hbc | ⟨hbc, hbc'⟩
    · exact .inl (hab ▸ hbc)
    · exact .inr ⟨hab.trans hbc, String.lt_trans hab' hbc'⟩

theorem pairLe_iff_eq_or_pairLt {a b : String × String} :
    pairLe a b = true ↔ a = b ∨ PairLt a b := by
  rw [pairLe_iff, PairLt, Std.le_iff_lt_or_eq, Prod.ext_iff]
  grind

theorem pairLe_trans (a b c : String × String) (hab : pairLe a b = true)
    (hbc : pairLe b c = true) : pairLe a c = true := by
  rw [pairLe_iff_eq_or_pairLt] at hab hbc ⊢
  rcases hab with rfl | hab
  · exact hbc
  · rcases hbc with rfl | hbc
    · exact .inr hab
    · exact .inr (pairLt_trans hab hbc)

theorem nodup_of_pairwise_pairLt {ps : List (String × String)} (h : ps.Pairwise PairLt) :
    ps.Nodup := by
  refine h.imp ?_
  rintro a _ hab rfl
  exact pairLt_irrefl a hab

/-- Pairs that are strictly in order are told by their members. -/
theorem eq_of_pairwise_pairLt {ps qs : List (String × String)} (hps : ps.Pairwise PairLt)
    (hqs : qs.Pairwise PairLt) (h : ∀ p, p ∈ ps ↔ p ∈ qs) : ps = qs := by
  have hperm : ps.Perm qs := (List.perm_ext_iff_of_nodup (nodup_of_pairwise_pairLt hps)
    (nodup_of_pairwise_pairLt hqs)).2 h
  refine hperm.eq_of_pairwise ?_ hps hqs
  intro a b _ _ hab hba
  exact absurd (pairLt_trans hab hba) (pairLt_irrefl a)

variable {ν : Type} {es fs : List ((String × String) × ν)}

/-- Entries under distinct pairs of texts are strictly in order once they are sorted by these. -/
theorem mergeSort_pairLe_pairwise (hes : (es.map Prod.fst).Nodup) :
    ((es.mergeSort fun a b => pairLe a.1 b.1).map Prod.fst).Pairwise PairLt := by
  have hentries : (es.mergeSort fun a b => pairLe a.1 b.1).Pairwise
      fun a b => pairLe a.1 b.1 = true := by
    refine List.pairwise_mergeSort ?_ ?_ es
    · exact fun a b c => pairLe_trans a.1 b.1 c.1
    · exact fun a b => pairLe_total a.1 b.1
  have hle : ((es.mergeSort fun a b => pairLe a.1 b.1).map Prod.fst).Pairwise
      fun a b => pairLe a b = true := List.pairwise_map.2 hentries
  have hnodup : ((es.mergeSort fun a b => pairLe a.1 b.1).map Prod.fst).Nodup :=
    ((List.mergeSort_perm es _).map Prod.fst).nodup_iff.2 hes
  refine (hle.and hnodup).imp ?_
  rintro a b ⟨hab, hne⟩
  exact (pairLe_iff_eq_or_pairLt.1 hab).resolve_left hne

/-- Entries under distinct pairs of texts, sorted by these, depend on the members of a list only. -/
theorem mergeSort_pairLe_congr (hes : (es.map Prod.fst).Nodup) (h : es.Perm fs) :
    (es.mergeSort fun a b => pairLe a.1 b.1) = fs.mergeSort fun a b => pairLe a.1 b.1 := by
  have hperm : (es.mergeSort fun a b => pairLe a.1 b.1).Perm
      (fs.mergeSort fun a b => pairLe a.1 b.1) :=
    (List.mergeSort_perm es _).trans (h.trans (List.mergeSort_perm fs _).symm)
  have hfs : (fs.map Prod.fst).Nodup := (h.map Prod.fst).nodup_iff.1 hes
  refine hperm.eq_of_pairwise ?_ (List.pairwise_map.1 (mergeSort_pairLe_pairwise hes))
    (List.pairwise_map.1 (mergeSort_pairLe_pairwise hfs))
  intro a b _ _ hab hba
  exact absurd (pairLt_trans hab hba) (pairLt_irrefl a.1)

end Pairs

end Text
end Conformance
