import DialogueIndex.Proofs.Marker
import DialogueIndex.Proofs.Text.LineLayout
import Mathlib.Data.List.Basic

/-! # The pattern of marker lines

A marker line is matched by a pattern: blanks, the marker, blanks again, and a name up to the end of
the line. A line can match in several ways, which differ in how many of the blanks behind the marker
belong to the name. They all agree on the marker, and the name that is read is the shortest.
-/

namespace DialogueIndex

/-- One way in which a line matches the pattern of marker lines. The name reaches over no line
feed. -/
structure MatchesMarker (line blanks gap name : List Char) : Prop where
  eq_append : line = blanks ++ markerChar :: (gap ++ name)
  blanks_blank : ∀ c ∈ blanks, isBlank c
  gap_blank : ∀ c ∈ gap, isBlank c
  name_ne_nil : name ≠ []
  feedless : '\n' ∉ name

namespace MatchesMarker

variable {line blanks gap name : List Char}

theorem dropWhile_eq (hmatch : MatchesMarker line blanks gap name) :
    line.dropWhile isBlank = markerChar :: (gap ++ name) := by
  rw [hmatch.eq_append, dropWhile_isBlank hmatch.blanks_blank]

/-- In every match the marker is the first marker of the line. -/
theorem takeWhile_eq (hmatch : MatchesMarker line blanks gap name) :
    line.takeWhile (· ≠ markerChar) = blanks := by
  rw [hmatch.eq_append, takeWhile_ne_markerChar hmatch.blanks_blank]

/-- Two matches that leave equally many blanks to the marker are the same. -/
theorem unique (hmatch : MatchesMarker line blanks gap name) {blanks' gap' name' : List Char}
    (hother : MatchesMarker line blanks' gap' name') (hlength : gap.length = gap'.length) :
    blanks = blanks' ∧ gap = gap' ∧ name = name' := by
  obtain rfl : blanks = blanks' := hmatch.takeWhile_eq.symm.trans hother.takeWhile_eq
  have htail := hmatch.dropWhile_eq.symm.trans hother.dropWhile_eq
  exact ⟨rfl, List.append_inj (List.cons.inj htail).2 hlength⟩

/-- A line that matches in any way has a name. -/
theorem exists_markerName? (hmatch : MatchesMarker line blanks gap name) :
    ∃ read, markerName? line = some read := by
  have hbody : (gap ++ name).dropWhile isBlank = name.dropWhile isBlank :=
    List.dropWhile_append_of_pos hmatch.gap_blank
  have hlast : (gap ++ name).getLast? = name.getLast? :=
    List.getLast?_append_of_ne_nil gap hmatch.name_ne_nil
  rw [markerName?, hmatch.dropWhile_eq]
  simp only [hbody, hlast, true_and]
  refine ⟨_, if_pos ?_⟩
  -- A name of blanks only is read as its last character.
  cases hempty : (name.dropWhile isBlank).isEmpty with
  | true =>
      rw [if_pos rfl, List.getLast?_eq_some_getLast hmatch.name_ne_nil]
      refine ⟨List.cons_ne_nil _ _, ?_⟩
      intro hfeed
      rw [Option.toList_some, List.mem_singleton] at hfeed
      exact hmatch.feedless (hfeed ▸ List.getLast_mem hmatch.name_ne_nil)
  | false =>
      rw [if_neg Bool.false_ne_true]
      refine ⟨by simpa using hempty, ?_⟩
      exact fun hfeed => hmatch.feedless ((List.dropWhile_suffix _).subset hfeed)

end MatchesMarker

/-- As many blanks as can be in front of a name are all blanks there are, or all but the last when
nothing else is left for the name. -/
theorem exists_longest_gap {tail name : List Char} (hne : name ≠ [])
    (hname : (if (tail.dropWhile isBlank).isEmpty then tail.getLast?.toList
      else tail.dropWhile isBlank) = name) :
    ∃ gap, tail = gap ++ name ∧ (∀ c ∈ gap, isBlank c) ∧
      ∀ gap' name', tail = gap' ++ name' → (∀ c ∈ gap', isBlank c) → name' ≠ [] →
        gap'.length ≤ gap.length := by
  by_cases hempty : tail.dropWhile isBlank = []
  · have htail : tail ≠ [] := by
      rintro rfl
      exact hne hname.symm
    rw [hempty, List.isEmpty_nil, if_pos rfl, List.getLast?_eq_some_getLast htail,
      Option.toList_some] at hname
    refine ⟨tail.dropLast, ?_, ?_, ?_⟩
    · rw [← hname, List.dropLast_append_getLast]
    · intro c hc
      exact List.dropWhile_eq_nil_iff.mp hempty c (List.dropLast_subset _ hc)
    · -- A name that is not empty takes at least one of the blanks.
      intro gap' name' hother _ hne'
      have hlength := List.length_pos_iff.mpr hne'
      rw [List.length_dropLast, hother, List.length_append]
      omega
  · rw [if_neg (by simpa using hempty)] at hname
    refine ⟨tail.takeWhile isBlank, ?_, fun c hc => List.mem_takeWhile_imp hc, ?_⟩
    · rw [← hname, List.takeWhile_append_dropWhile]
    · intro gap' name' hother hblank _
      rw [hother, List.takeWhile_append_of_pos hblank, List.length_append]
      exact Nat.le_add_right _ _

/-- The name that is read is that of the match with the most blanks between marker and name. -/
theorem exists_longest_match {line name : List Char} (hname : markerName? line = some name) :
    ∃ blanks gap, MatchesMarker line blanks gap name ∧
      ∀ blanks' gap' name', MatchesMarker line blanks' gap' name' → gap'.length ≤ gap.length := by
  rw [markerName?] at hname
  cases hdrop : line.dropWhile isBlank with
  | nil => simp [hdrop] at hname
  | cons c tail =>
      simp only [hdrop, Option.ite_none_right_eq_some, Option.some.injEq] at hname
      obtain ⟨⟨rfl, hne, hfeed⟩, hread⟩ := hname
      rw [hread] at hne hfeed
      obtain ⟨gap, htail, hgap, hlongest⟩ := exists_longest_gap hne hread
      refine ⟨line.takeWhile isBlank, gap, ⟨?_, ?_, hgap, hne, hfeed⟩, ?_⟩
      · rw [← htail, ← hdrop, List.takeWhile_append_dropWhile]
      · exact fun c hc => List.mem_takeWhile_imp hc
      · intro blanks' gap' name' hother
        have hbehind := (List.cons.inj (hdrop.symm.trans hother.dropWhile_eq)).2
        exact hlongest gap' name' hbehind hother.gap_blank hother.name_ne_nil

/-- A name is read from a line exactly if the line matches with this name and no match leaves more
blanks between marker and name. -/
theorem markerName?_eq_some_iff {line name : List Char} :
    markerName? line = some name ↔ ∃ blanks gap, MatchesMarker line blanks gap name ∧
      ∀ blanks' gap' name', MatchesMarker line blanks' gap' name' →
        gap'.length ≤ gap.length := by
  constructor
  · exact exists_longest_match
  · rintro ⟨blanks, gap, hmatch, hlongest⟩
    obtain ⟨read, hread⟩ := hmatch.exists_markerName?
    obtain ⟨blanks', gap', hother, hlongest'⟩ := exists_longest_match hread
    have hlength : gap.length = gap'.length :=
      Nat.le_antisymm (hlongest' _ _ _ hmatch) (hlongest _ _ _ hother)
    rw [hread, (hmatch.unique hother hlength).2.2]

/-- A line without a line feed has a name if something follows its marker. -/
theorem OpensSectionAt.exists_markerName? {line : List Char} {column : Nat}
    (hopens : OpensSectionAt line column) (hfeed : '\n' ∉ line) :
    ∃ name, markerName? line = some name := by
  obtain ⟨blanks, rest, rfl, hblanks, _, hrest⟩ := hopens
  rw [List.mem_append, List.mem_cons, not_or, not_or] at hfeed
  exact MatchesMarker.exists_markerName? ⟨rfl, hblanks, List.forall_mem_nil _, hrest, hfeed.2.2⟩

theorem OpensSectionAt.length_takeWhile {line : List Char} {column : Nat}
    (hopens : OpensSectionAt line column) :
    (line.takeWhile (· ≠ markerChar)).length = column := by
  obtain ⟨blanks, rest, rfl, hblanks, rfl, _⟩ := hopens
  rw [takeWhile_ne_markerChar hblanks]

/-- The first marker of a line that opens a section is where the section starts. -/
theorem OpensSectionAt.first_marker {written : List Char} {column : Nat}
    (hopens : OpensSectionAt written column) :
    markerChar ∉ written.take column ∧ written[column]? = some markerChar ∧
      firstMarker written = byteLength (written.take column) := by
  obtain ⟨blanks, rest, rfl, hblanks, rfl, _⟩ := hopens
  rw [List.take_left, firstMarker, takeWhile_ne_markerChar hblanks]
  refine ⟨?_, by simp, rfl⟩
  intro hmem
  cases hblanks _ hmem

/-- The sections of a text are on the lines whose first character that is not blank is a marker
with something behind it, one on each of them, and start at that marker. It is the first marker of
the line, and the one by which the line matches in whatever way. -/
theorem scan_lists_marker_lines (text : String) :
    (∀ index, (∃ s ∈ scan text, s.line = index) ↔
      ∃ line column, (Document.ofText text).line? index = some line ∧
        OpensSectionAt line column) ∧
    (scan text).Pairwise (fun a b => a.line < b.line) ∧
    ∀ s ∈ scan text, s.line < (Document.ofText text).lineCount ∧
      ∃ written, (Document.ofText text).line? s.line = some written ∧
        OpensSectionAt written s.column ∧
        (markerChar ∉ written.take s.column ∧ written[s.column]? = some markerChar ∧
          firstMarker written = byteLength (written.take s.column)) ∧
        (∃ blanks gap name, MatchesMarker written blanks gap name) ∧
        (∀ blanks gap name, MatchesMarker written blanks gap name → blanks.length = s.column) ∧
        s.column + 1 < (Document.ofText text).lineLength s.line := by
  refine ⟨?_, Document.sections_pairwise _, ?_⟩
  · intro index
    constructor
    · rintro ⟨s, hs, rfl⟩
      obtain ⟨line, hline, hopens⟩ := Document.opensSectionAt_of_mem_sections hs
      exact ⟨line, s.column, hline, hopens⟩
    · rintro ⟨line, column, hline, hopens⟩
      obtain ⟨name, hname⟩ := hopens.exists_markerName? (Document.feed_notMem_of_line? hline)
      obtain ⟨s, hs⟩ : ∃ s, sectionOnLine? line index = some s :=
        ⟨_, Option.map_eq_some_iff.mpr ⟨name, hname, rfl⟩⟩
      exact ⟨s, Document.mem_sections_iff.mpr ⟨line, index, hline, hs⟩,
        (opensSectionAt_of_sectionOnLine? hs).1⟩
  · intro s hs
    obtain ⟨line, hline, hopens⟩ := Document.opensSectionAt_of_mem_sections hs
    obtain ⟨name, hname⟩ := hopens.exists_markerName? (Document.feed_notMem_of_line? hline)
    obtain ⟨blanks, gap, hmatch, _⟩ := exists_longest_match hname
    refine ⟨Document.line_lt_lineCount_of_mem_sections hs, line, hline, hopens,
      hopens.first_marker, ⟨blanks, gap, name, hmatch⟩, ?_,
      Document.column_lt_lineLength_of_mem_sections hs⟩
    intro blanks gap name hmatch
    rw [← hmatch.takeWhile_eq, hopens.length_takeWhile]

end DialogueIndex
