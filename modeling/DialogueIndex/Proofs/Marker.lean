import DialogueIndex.Marker
import DialogueIndex.Proofs.Text.Offset
import Mathlib.Data.List.TakeWhile

/-! # Where sections start

A section stands on a line of its own, behind the blanks at the start of the line, and its marker
has something behind it. The sections of a document are listed from the first line to the last.
-/

namespace DialogueIndex

/-- A line whose first character that is not blank is a marker at a column, with something behind
the marker. -/
def OpensSectionAt (line : List Char) (column : Nat) : Prop :=
  ∃ blanks rest, line = blanks ++ markerChar :: rest ∧ (∀ c ∈ blanks, isBlank c) ∧
    blanks.length = column ∧ rest ≠ []

theorem OpensSectionAt.lt_length {line : List Char} {column : Nat}
    (hopens : OpensSectionAt line column) : column + 1 < line.length := by
  obtain ⟨blanks, rest, rfl, _, rfl, hrest⟩ := hopens
  have hpos := List.length_pos_iff.mpr hrest
  rw [List.length_append, List.length_cons]
  omega

/-- Among blanks there is no marker. -/
theorem takeWhile_ne_markerChar {blanks : List Char} (hblanks : ∀ c ∈ blanks, isBlank c)
    (rest : List Char) :
    (blanks ++ markerChar :: rest).takeWhile (· ≠ markerChar) = blanks := by
  have hne : ∀ c ∈ blanks, decide (c ≠ markerChar) := by
    intro c hc
    rw [decide_eq_true_eq]
    rintro rfl
    cases hblanks _ hc
  rw [List.takeWhile_append_of_pos hne, List.takeWhile_cons_of_neg (by simp), List.append_nil]

theorem dropWhile_isBlank {blanks : List Char} (hblanks : ∀ c ∈ blanks, isBlank c)
    (rest : List Char) :
    (blanks ++ markerChar :: rest).dropWhile isBlank = markerChar :: rest := by
  rw [List.dropWhile_append_of_pos hblanks, List.dropWhile_cons_of_neg (by decide)]

/-- The first marker of a line is as far on as there are blanks in front of it. -/
theorem charOffset_firstMarker {blanks : List Char} (hblanks : ∀ c ∈ blanks, isBlank c)
    (rest : List Char) :
    charOffset (blanks ++ markerChar :: rest) (firstMarker (blanks ++ markerChar :: rest)) =
      blanks.length := by
  rw [firstMarker, takeWhile_ne_markerChar hblanks, charOffset_byteLength_append]

/-- A marker line consists of blanks, the marker and the characters that hold the name. -/
theorem exists_of_markerName?_eq_some {line name : List Char}
    (hname : markerName? line = some name) :
    ∃ blanks rest, line = blanks ++ markerChar :: rest ∧ (∀ c ∈ blanks, isBlank c) ∧
      rest ≠ [] := by
  rw [markerName?] at hname
  cases hdrop : line.dropWhile isBlank with
  | nil => simp [hdrop] at hname
  | cons c tail =>
      simp only [hdrop, Option.ite_none_right_eq_some] at hname
      obtain ⟨⟨rfl, hne, _⟩, _⟩ := hname
      refine ⟨line.takeWhile isBlank, tail, ?_, fun c hc => List.mem_takeWhile_imp hc, ?_⟩
      · rw [← hdrop, List.takeWhile_append_dropWhile]
      · rintro rfl
        exact hne rfl

theorem opensSectionAt_of_sectionOnLine? {line : List Char} {index : Nat} {s : Section}
    (hs : sectionOnLine? line index = some s) :
    s.line = index ∧ OpensSectionAt line s.column := by
  obtain ⟨name, hname, rfl⟩ := Option.map_eq_some_iff.mp hs
  obtain ⟨blanks, rest, rfl, hblanks, hrest⟩ := exists_of_markerName?_eq_some hname
  exact ⟨rfl, blanks, rest, rfl, hblanks, (charOffset_firstMarker hblanks rest).symm, hrest⟩

/-- A section always has a name, if only the placeholder. -/
theorem Section.named_name_ne_empty (written : String) (line column : Nat) :
    (Section.named written line column).name ≠ "" := by
  intro hempty
  rw [named] at hempty
  dsimp only at hempty
  split_ifs at hempty with hblank
  · exact absurd hempty (by decide)
  · apply hblank
    rw [List.isEmpty_iff, ← String.toList_ofList (l := trim written.toList), hempty]
    rfl

namespace Document

theorem mem_sections_iff {document : Document} {s : Section} :
    s ∈ document.sections ↔
      ∃ line index, document.line? index = some line ∧ sectionOnLine? line index = some s := by
  simp only [sections, List.mem_filterMap, Prod.exists, List.mk_mem_zipIdx_iff_getElem?, line?]

/-- A section is on a line of the document, where its column says. -/
theorem opensSectionAt_of_mem_sections {document : Document} {s : Section}
    (hs : s ∈ document.sections) :
    ∃ line, document.line? s.line = some line ∧ OpensSectionAt line s.column := by
  obtain ⟨line, index, hline, hsection⟩ := mem_sections_iff.mp hs
  obtain ⟨rfl, hopens⟩ := opensSectionAt_of_sectionOnLine? hsection
  exact ⟨line, hline, hopens⟩

theorem line_lt_lineCount_of_mem_sections {document : Document} {s : Section}
    (hs : s ∈ document.sections) : s.line < document.lineCount := by
  obtain ⟨line, hline, _⟩ := opensSectionAt_of_mem_sections hs
  exact (List.getElem?_eq_some_iff.mp hline).1

theorem column_lt_lineLength_of_mem_sections {document : Document} {s : Section}
    (hs : s ∈ document.sections) : s.column + 1 < document.lineLength s.line := by
  obtain ⟨line, hline, hopens⟩ := opensSectionAt_of_mem_sections hs
  rw [lineLength, hline]
  exact hopens.lt_length

theorem name_ne_empty_of_mem_sections {document : Document} {s : Section}
    (hs : s ∈ document.sections) : s.name ≠ "" := by
  obtain ⟨line, index, _, hsection⟩ := mem_sections_iff.mp hs
  obtain ⟨name, _, rfl⟩ := Option.map_eq_some_iff.mp hsection
  exact Section.named_name_ne_empty _ _ _

/-- Sections are listed by line, and no two are on one line. -/
theorem sections_pairwise (document : Document) :
    document.sections.Pairwise fun a b => a.line < b.line := by
  have hnumbers : document.lines.zipIdx.Pairwise fun a b => a.2 < b.2 := by
    rw [← List.pairwise_map (f := Prod.snd) (R := (· < ·)), List.zipIdx_map_snd]
    exact List.pairwise_lt_range'
  rw [sections, List.pairwise_filterMap]
  refine hnumbers.imp ?_
  intro first second hlt s hs t ht
  rw [(opensSectionAt_of_sectionOnLine? hs).1, (opensSectionAt_of_sectionOnLine? ht).1]
  exact hlt

end Document

end DialogueIndex
