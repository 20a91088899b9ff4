import Mathlib.Data.String.Basic
import Stepbook.Text.Order

/-!
# The order of names

The order in which files are listed is the lexicographic order of lists of names,
over the order of texts by code points.

## Main statements

* `textLe_iff`, `namesLe_iff` — the tests for the two orders.
* `pairwise_lt_mergeSort` — lists of names that are sorted.
-/

namespace Stepbook.Text

/-- The first items that differ decide, if they are compared by their order. -/
theorem lexLe_iff {α : Type} [LinearOrder α] {le : α → α → Bool}
    (hle : ∀ a b, le a b = true ↔ a ≤ b) {s t : List α} : lexLe le s t = true ↔ s ≤ t := by
  induction s generalizing t with
  | nil =>
      cases t with
      | nil => simp [lexLe]
      | cons b t => simpa [lexLe] using (List.nil_lt_cons b t).le
  | cons a s ih =>
      cases t with
      | nil => simp [lexLe]
      | cons b t =>
          rw [lexLe, le_iff_lt_or_eq, List.cons_lt_cons_iff, List.cons.injEq]
          by_cases hab : a = b
          · rw [if_pos hab, ih, le_iff_lt_or_eq]
            simp [hab]
          · rw [if_neg hab, hle, le_iff_lt_or_eq]
            simp [hab]

theorem textLe_iff {s t : String} : textLe s t = true ↔ s ≤ t := by
  rw [textLe, String.le_iff_toList_le]
  exact lexLe_iff fun a b => decide_eq_true_iff

theorem namesLe_iff {s t : List String} : namesLe s t = true ↔ s ≤ t :=
  lexLe_iff fun _ _ => textLe_iff

/-- Sorting lists of names, each of them once, leaves them in ascending order. -/
theorem pairwise_lt_mergeSort {l : List (List String)} (h : l.Nodup) :
    (l.mergeSort namesLe).Pairwise (· < ·) := by
  have hsorted : (l.mergeSort namesLe).Pairwise (fun s t => namesLe s t = true) := by
    refine List.pairwise_mergeSort ?_ ?_ l
    · intro s t u hst htu
      rw [namesLe_iff] at hst htu ⊢
      exact hst.trans htu
    · intro s t
      rw [Bool.or_eq_true, namesLe_iff, namesLe_iff]
      exact le_total s t
  have hnodup : (l.mergeSort namesLe).Nodup := (List.mergeSort_perm l namesLe).nodup_iff.mpr h
  refine (hsorted.and hnodup).imp ?_
  rintro s t ⟨hle, hne⟩
  exact lt_of_le_of_ne (namesLe_iff.mp hle) hne

end Stepbook.Text
