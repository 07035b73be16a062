import Mathlib.Data.String.Basic

/-! Names in order. A sorted list never goes down, and it goes up where its names are distinct. -/

namespace Mooring.Text

theorem pairwise_le_mergeSort (names : List String) :
    (names.mergeSort (fun one two => decide (one ≤ two))).Pairwise (· ≤ ·) := by
  refine (List.pairwise_mergeSort (fun one two three first second => ?_) (fun one two => ?_) names).imp
    of_decide_eq_true
  · simp only [decide_eq_true_eq] at first second ⊢
    exact first.trans second
  · simp only [Bool.or_eq_true, decide_eq_true_eq]
    exact le_total one two

theorem pairwise_lt_mergeSort {names : List String} (distinct : names.Nodup) :
    (names.mergeSort (fun one two => decide (one ≤ two))).Pairwise (· < ·) := by
  have apart := (List.mergeSort_perm names (fun one two => decide (one ≤ two))).nodup_iff.mpr distinct
  exact ((pairwise_le_mergeSort names).and apart).imp (fun both => lt_of_le_of_ne both.1 both.2)

end Mooring.Text
