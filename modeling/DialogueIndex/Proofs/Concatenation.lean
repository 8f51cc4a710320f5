import DialogueIndex.Proofs.Marker
import DialogueIndex.Proofs.Text.LineLayout
import Mathlib.Data.List.Basic

/-! # Texts with a line feed between them

A line feed between two texts parts the lines of one from the lines of the other, and so it parts
their sections. The first text must not end in a carriage return, since that would take the line
feed for a part of its own last terminator.
-/

namespace DialogueIndex

theorem splitLines_append_feed {first : List Char} (hend : first.getLast? ≠ some '\r')
    (second : List Char) :
    splitLines (first ++ '\n' :: second) = splitLines first ++ splitLines second := by
  obtain ⟨⟨ended, last⟩, hproper, rfl⟩ := LineLayout.exists_proper first
  rw [hproper.splitLines_text]
  -- The lines of the first text are cut off one by one, each with what ends it.
  induction ended with
  | nil =>
      have hlast := (LineLayout.proper_nil_iff last).mp hproper
      exact splitLines_append_chars (t := .feed) hlast nofun
  | cons piece rest ih =>
      obtain ⟨line, t⟩ := piece
      obtain ⟨hline, halone, hrest⟩ := (LineLayout.proper_cons_iff line t rest last).mp hproper
      rw [LineLayout.text_cons] at hend
      have hbehind : t = .carriageReturn → LineLayout.text ⟨rest, last⟩ ≠ [] := by
        rintro rfl hempty
        rw [hempty] at hend
        exact hend (by simp [Terminator.chars])
      have hrestEnd : (LineLayout.text ⟨rest, last⟩).getLast? ≠ some '\r' := by
        by_cases hempty : LineLayout.text ⟨rest, last⟩ = []
        · simp [hempty]
        · rwa [← List.append_assoc, List.getLast?_append_of_ne_nil _ hempty] at hend
      have hcut : t = .carriageReturn →
          (LineLayout.text ⟨rest, last⟩ ++ '\n' :: second).head? ≠ some '\n' := by
        intro ht
        rw [List.head?_append_of_ne_nil _ (hbehind ht)]
        exact halone ht
      rw [LineLayout.text_cons, List.append_assoc, List.append_assoc,
        splitLines_append_chars hline hcut, ih hrest hrestEnd, LineLayout.lines_cons,
        List.cons_append]

/-- The section on a line so many lines further down. -/
def Section.below (count : Nat) (s : Section) : Section := { s with line := s.line + count }

theorem sectionOnLine?_add (line : List Char) (index count : Nat) :
    sectionOnLine? line (index + count) =
      (sectionOnLine? line index).map (Section.below count) := by
  rw [sectionOnLine?, sectionOnLine?, Option.map_map]
  rfl

/-- Lines that are counted from another number have the same sections, further down. -/
theorem sectionsFrom_eq_map_below (lines : List (List Char)) (count : Nat) :
    ((lines.zipIdx count).filterMap fun (text, line) => sectionOnLine? text line) =
      (lines.zipIdx.filterMap fun (text, line) => sectionOnLine? text line).map
        (Section.below count) := by
  have hnumbers : lines.zipIdx count = lines.zipIdx.map (Prod.map id (· + count)) :=
    (List.map_snd_add_zipIdx_eq_zipIdx (k := 0)).symm
  rw [hnumbers, List.filterMap_map, List.map_filterMap]
  congr 1
  funext ⟨line, index⟩
  exact sectionOnLine?_add line index count

section

variable {first : String} (hend : first.toList.getLast? ≠ some '\r') (second : String)

include hend

theorem lines_append_feed :
    (Document.ofText (first ++ "\n" ++ second)).lines =
      (Document.ofText first).lines ++ (Document.ofText second).lines := by
  change splitLines (first ++ "\n" ++ second).toList = _
  rw [String.toList_append, String.toList_append, List.append_assoc]
  exact splitLines_append_feed hend second.toList

/-- Behind the lines of the first text come those of the second. -/
theorem line?_append_feed (index : Nat) :
    (Document.ofText (first ++ "\n" ++ second)).line? ((Document.ofText first).lineCount + index) =
      (Document.ofText second).line? index := by
  rw [Document.line?, lines_append_feed hend, Document.lineCount,
    List.getElem?_append_right (Nat.le_add_right _ _), Nat.add_sub_cancel_left]
  rfl

/-- The sections of two texts are those of the first, and behind them those of the second, further
down. -/
theorem scan_append_feed :
    scan (first ++ "\n" ++ second) =
      scan first ++ (scan second).map (Section.below (Document.ofText first).lineCount) := by
  rw [scan, Document.sections, lines_append_feed hend, List.zipIdx_append, List.filterMap_append,
    Nat.zero_add]
  congr 1
  exact sectionsFrom_eq_map_below _ _

end

end DialogueIndex
