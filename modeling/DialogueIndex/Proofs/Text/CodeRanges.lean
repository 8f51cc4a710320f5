import DialogueIndex.Text.CodeRanges
import Mathlib.Data.List.Basic

/-! # Sets of code points that are apart

Two sets have no code point in common if no range of one reaches into a range of the other.
-/

namespace DialogueIndex

theorem CodeRanges.exists_of_contains {ranges : CodeRanges} {n : Nat}
    (hn : ranges.contains n) : ∃ range ∈ ranges, range.1 ≤ n ∧ n ≤ range.2 := by
  induction ranges with
  | nil => cases hn
  | cons range rest ih =>
      simp only [contains, Bool.and_eq_true, Bool.or_eq_true, decide_eq_true_eq] at hn
      rcases hn.2 with hhigh | hrest
      · exact ⟨range, List.mem_cons_self, hn.1, hhigh⟩
      · obtain ⟨other, hother, hbounds⟩ := ih hrest
        exact ⟨other, List.mem_cons_of_mem _ hother, hbounds⟩

/-- Whether no range of one set reaches into a range of the other. -/
def CodeRanges.apart (a b : CodeRanges) : Bool :=
  a.all fun r => b.all fun s => r.2 < s.1 || s.2 < r.1

theorem CodeRanges.contains_eq_false_of_apart {a b : CodeRanges} (hapart : a.apart b) {n : Nat}
    (hn : a.contains n) : b.contains n = false := by
  obtain ⟨r, hr, hrn⟩ := exists_of_contains hn
  by_contra hb
  rw [Bool.not_eq_false] at hb
  obtain ⟨s, hs, hsn⟩ := exists_of_contains hb
  have hrs := List.all_eq_true.mp (List.all_eq_true.mp hapart r hr) s hs
  simp only [Bool.or_eq_true, decide_eq_true_eq] at hrs
  omega

end DialogueIndex
