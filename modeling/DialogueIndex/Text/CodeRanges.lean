/-! # Sets of code points

A character class of the Unicode standard is a list of inclusive ranges in ascending order.
-/

namespace DialogueIndex

/-- Inclusive, pairwise disjoint ranges of code points in ascending order. -/
abbrev CodeRanges := List (Nat × Nat)

/-- Whether one of the ranges holds `n`. The search ends at the first range that starts above. -/
def CodeRanges.contains : CodeRanges → Nat → Bool
  | [], _ => false
  | (low, high) :: rest, n => low ≤ n && (n ≤ high || contains rest n)

end DialogueIndex
