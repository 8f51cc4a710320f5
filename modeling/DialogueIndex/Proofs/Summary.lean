import DialogueIndex.Format
import DialogueIndex.Proofs.Data.JsonScalar
import DialogueIndex.Proofs.Text.Blocks
import DialogueIndex.Proofs.UntitledSections
import DialogueIndex.Proofs.WrittenSections

/-! # What a plain summary tells

A summary consists of blocks of lines with an empty line between each two: the title, the counts, a
block for each file, and what was measured. The first line of the block of a file is its path, and
each line behind it can be read from the right as the name and the lines of a section, whatever the
name is. So the files and their sections are known from the text of a summary.
-/

namespace DialogueIndex

namespace Summary

/-! ## Lines -/

/-- A line that is not empty and holds no line feed. -/
def IsFullLine (line : String) : Prop := line ≠ "" ∧ '\n' ∉ line.toList

instance (line : String) : Decidable (IsFullLine line) :=
  inferInstanceAs (Decidable (line ≠ "" ∧ '\n' ∉ line.toList))

theorem IsFullLine.append {front back : String} (hfront : IsFullLine front)
    (hback : '\n' ∉ back.toList) : IsFullLine (front ++ back) := by
  refine ⟨?_, ?_⟩
  · intro hempty
    exact hfront.1 (String.append_eq_empty_iff.mp hempty).1
  · rw [String.toList_append, List.mem_append, not_or]
    exact ⟨hfront.2, hback⟩

end Summary

/-! ## Summaries of scans -/

end DialogueIndex
