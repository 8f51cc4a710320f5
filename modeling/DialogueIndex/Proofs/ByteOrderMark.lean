import DialogueIndex.Proofs.MarkerName

/-! # Byte-order marks around markers

Around a marker a byte-order mark is as good as a space: it moves no column, hides no section and is
no part of a name. There is one exception. When a line ends in blanks behind its marker, a mark at
the very end is read as the name, where a space would leave the section untitled.
-/

namespace DialogueIndex

/-- A text with a space in place of each byte-order mark. -/
def spacesForMarks (cs : List Char) : List Char :=
  cs.map fun c => if c = byteOrderMark then ' ' else c

theorem length_spacesForMarks (cs : List Char) : (spacesForMarks cs).length = cs.length :=
  List.length_map _

theorem isBlank_of_mem_spacesForMarks {cs : List Char} (hcs : ∀ c ∈ cs, isBlank c) :
    ∀ c ∈ spacesForMarks cs, isBlank c := by
  intro c hc
  obtain ⟨d, hd, rfl⟩ := List.mem_map.mp hc
  split_ifs
  · rfl
  · exact hcs d hd

theorem getLast?_spacesForMarks {cs : List Char} {last : Char} (hlast : cs.getLast? = some last) :
    (spacesForMarks cs).getLast? = some (if last = byteOrderMark then ' ' else last) := by
  rw [spacesForMarks, List.getLast?_map, hlast, Option.map_some]

/-- A text with a marker, with spaces for the byte-order marks on both sides of the marker. The body
keeps its marks. -/
def spacedMarker (blanks gap body : List Char) : List Char :=
  spacesForMarks blanks ++ markerChar :: (spacesForMarks gap ++ body)

theorem MarkerParts.spaced {text blanks gap body : List Char}
    (hparts : MarkerParts text blanks gap body) :
    MarkerParts (spacedMarker blanks gap body) (spacesForMarks blanks) (spacesForMarks gap) body :=
  ⟨rfl, isBlank_of_mem_spacesForMarks hparts.blanks_blank,
    isBlank_of_mem_spacesForMarks hparts.gap_blank, hparts.body_head⟩

/-- White space is no byte-order mark, so that the last blank of a gap leaves a section untitled
unless it is one. -/
theorem MarkerParts.sectionOnLine?_of_last_mark {text blanks gap : List Char}
    (hparts : MarkerParts text blanks gap []) {last : Char} (hlast : gap.getLast? = some last)
    (hfeed : last ≠ '\n') (line : Nat) :
    sectionOnLine? text line = some ⟨if last = byteOrderMark then String.ofList [byteOrderMark]
      else untitledName, line, blanks.length⟩ := by
  have hblank : isBlank last := hparts.gap_blank last (List.mem_of_getLast? hlast)
  rw [hparts.sectionOnLine?_of_last hlast, if_neg hfeed]
  by_cases hmark : last = byteOrderMark
  · subst hmark
    rfl
  · have hspace : isSpace last := by simpa [isBlank, hmark] using hblank
    rw [if_pos hspace, if_neg hmark]

/-- With spaces for the byte-order marks around its marker a line is read as before, but for a
section that has a mark at the end of the line for a name: it becomes untitled. A marker with only
blanks behind it gives an untitled section unless the last of them is a mark. -/
theorem section_with_spaces_for_marks {text blanks gap body : List Char}
    (hparts : MarkerParts text blanks gap body) (line : Nat) :
    sectionOnLine? (spacedMarker blanks gap body) line =
      (sectionOnLine? text line).map (fun s =>
        if body = [] ∧ gap.getLast? = some byteOrderMark then { s with name := untitledName }
        else s) ∧
    (body = [] → ∀ last ∈ gap.getLast?, last ≠ '\n' →
      sectionOnLine? text line = some ⟨if last = byteOrderMark then String.ofList [byteOrderMark]
        else untitledName, line, blanks.length⟩) := by
  refine ⟨?_, ?_⟩
  · by_cases hbody : body = []
    · subst hbody
      cases hlast : gap.getLast? with
      | none =>
          obtain rfl := List.getLast?_eq_none_iff.mp hlast
          rw [hparts.sectionOnLine?_of_nothing, hparts.spaced.sectionOnLine?_of_nothing]
          rfl
      | some last =>
          have hspaced := getLast?_spacesForMarks hlast
          by_cases hfeed : last = '\n'
          · subst hfeed
            rw [hparts.sectionOnLine?_of_last hlast, hparts.spaced.sectionOnLine?_of_last hspaced]
            rfl
          · have hspace : (if last = byteOrderMark then ' ' else last) ≠ '\n' := by
              split_ifs
              · decide
              · exact hfeed
            rw [hparts.sectionOnLine?_of_last_mark hlast hfeed,
              hparts.spaced.sectionOnLine?_of_last_mark hspaced hspace, length_spacesForMarks]
            by_cases hmark : last = byteOrderMark
            · subst hmark
              rfl
            · simp [hmark]
    · rw [hparts.sectionOnLine?_of_body hbody, hparts.spaced.sectionOnLine?_of_body hbody,
        length_spacesForMarks]
      simp [hbody]
  · rintro rfl last hlast hfeed
    exact hparts.sectionOnLine?_of_last_mark hlast hfeed line

theorem section_with_spaces_for_marks_before_name :
    MarkerParts "\uFEFF~\uFEFF a\uFEFF".toList [byteOrderMark] [byteOrderMark, ' ']
        ['a', byteOrderMark] ∧
      sectionOnLine? " ~  a\uFEFF".toList 3 = sectionOnLine? "\uFEFF~\uFEFF a\uFEFF".toList 3 ∧
      sectionOnLine? "\uFEFF~\uFEFF a\uFEFF".toList 3 = some ⟨"a\uFEFF", 3, 1⟩ := by
  have hparts : MarkerParts "\uFEFF~\uFEFF a\uFEFF".toList [byteOrderMark] [byteOrderMark, ' ']
      ['a', byteOrderMark] := by
    refine ⟨by decide +kernel, List.all_eq_true.mp (by decide +kernel),
      List.all_eq_true.mp (by decide +kernel), ?_⟩
    intro c hc
    cases hc
    decide +kernel
  have hspaced : spacedMarker [byteOrderMark] [byteOrderMark, ' '] ['a', byteOrderMark] =
      " ~  a\uFEFF".toList := by decide +kernel
  have hread := (section_with_spaces_for_marks hparts 3).1
  rw [hspaced] at hread
  exact ⟨hparts, by simpa using hread, by decide +kernel⟩

/-- A byte-order mark alone behind a marker is a name; the space in its place would be none. -/
theorem mark_alone_names_section :
    MarkerParts "~\uFEFF".toList [] [byteOrderMark] [] ∧
      spacedMarker [] [byteOrderMark] [] = "~ ".toList ∧
      sectionOnLine? "~\uFEFF".toList 0 = some ⟨"\uFEFF", 0, 0⟩ ∧
      sectionOnLine? "~ ".toList 0 = some ⟨untitledName, 0, 0⟩ := by
  refine ⟨⟨by decide +kernel, List.forall_mem_nil _, ?_, ?_⟩, ?_, ?_, ?_⟩
  · exact List.forall_mem_singleton.mpr (by decide +kernel)
  · intro c hc
    cases hc
  · decide +kernel
  · decide +kernel
  · decide +kernel

end DialogueIndex
