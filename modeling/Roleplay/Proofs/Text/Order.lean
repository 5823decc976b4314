import Mathlib.Data.Char
import Mathlib.Data.List.Lex
import Roleplay.Text.Basic

/-!
# The order of texts

Texts are compared as words in a dictionary are, character by character. The order is linear, so
sorting by it leaves nothing open.

## Main results

* `Text.le_iff`: the order is the lexicographic one
* `Text.pairwise_mergeSort`: texts are sorted by it
-/

namespace Roleplay.Text

/-- **The order of texts** is the lexicographic one. -/
theorem le_iff {t u : Text} : t.le u = true ↔ t ≤ u := by
  rw [← not_lt]
  induction t generalizing u with
  | nil => simp [le]
  | cons c t ih =>
    cases u with
    | nil => simp [le]
    | cons d u =>
      rw [le, List.cons_lt_cons_iff]
      by_cases hcd : c = d
      · rw [if_pos hcd, ih]
        simp [hcd]
      · rw [if_neg hcd]
        have hlt : c.toNat < d.toNat ↔ ¬ d < c :=
          ⟨fun h => lt_asymm (show c < d from h),
            fun h => show c < d from lt_of_le_of_ne (not_lt.mp h) hcd⟩
        simpa [Ne.symm hcd] using hlt

/-- **Sorted texts** rise. -/
theorem pairwise_mergeSort (ts : List Text) : (ts.mergeSort le).Pairwise (· ≤ ·) := by
  refine (List.pairwise_mergeSort (fun t u v htu huv => ?_) (fun t u => ?_) ts).imp le_iff.mp
  · exact le_iff.mpr ((le_iff.mp htu).trans (le_iff.mp huv))
  · rw [Bool.or_eq_true, le_iff, le_iff]
    exact le_total t u

end Roleplay.Text
