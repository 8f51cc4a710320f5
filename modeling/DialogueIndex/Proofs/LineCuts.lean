import DialogueIndex.Proofs.Marker
import DialogueIndex.Proofs.Text.Boundary
import DialogueIndex.Proofs.Token

/-! # Columns by cutting lines

The column of a marker and the places of a token can be found by cutting the line at a byte offset
and counting the characters in front of the cut. A cut fails inside a character, but the searches
for markers and for tokens only report boundaries, so none of these cuts does.
-/

namespace DialogueIndex

/-- The section on a line, with the line cut at its first marker. There is no answer if the line
cannot be cut there. -/
def sectionByCut? (text : List Char) (line : Nat) : Option (Option Section) :=
  match markerName? text with
  | none => some none
  | some name => do
    let before ← cut? text (firstMarker text)
    return some (Section.named (String.ofList name) line before.length)

/-- The token under a cursor, with the line cut at both ends of the run. There is no answer if the
line cannot be cut there. -/
def tokenByCuts? (line : List Char) (character : Nat) : Option (Option Token) :=
  let cursor := byteOffset line character
  let started := (tokenRuns line).takeWhile (·.start ≤ cursor)
  match started.find? (cursor ≤ ·.stop) with
  | none => some none
  | some run => do
    let before ← cut? line run.start
    let through ← cut? line run.stop
    return some ⟨String.ofList run.chars, before.length, through.length⟩

/-- The first marker of a line, or its end, is a boundary. -/
theorem isBoundary_firstMarker (text : List Char) : IsBoundary text (firstMarker text) := by
  have hparts := List.takeWhile_append_dropWhile (p := fun c => decide (c ≠ markerChar)) (l := text)
  exact isBoundary_iff_exists.mpr ⟨_, _, hparts.symm, rfl⟩

/-- A run begins and ends at boundaries. -/
theorem isBoundary_of_mem_tokenRuns {line : List Char} {run : Run} (hrun : run ∈ tokenRuns line) :
    IsBoundary line run.start ∧ IsBoundary line run.stop := by
  obtain ⟨before, after, rfl, _, hstart, hstop⟩ := mem_tokenRuns_iff.mp hrun
  rw [Nat.zero_add] at hstart
  have hstopBytes : run.stop = byteLength (before ++ run.chars) := by
    rw [hstop, hstart, byteLength_append]
  rw [hstart, hstopBytes]
  refine ⟨isBoundary_append _ _, ?_⟩
  rw [← List.append_assoc]
  exact isBoundary_append _ _

theorem sectionByCut?_eq (text : List Char) (line : Nat) :
    sectionByCut? text line = some (sectionOnLine? text line) := by
  rw [sectionByCut?, sectionOnLine?]
  cases markerName? text with
  | none => rfl
  | some name =>
      obtain ⟨before, hcut, hlength⟩ := exists_cut? (isBoundary_firstMarker text)
      simp [hcut, hlength]

theorem tokenByCuts?_eq (line : List Char) (character : Nat) :
    tokenByCuts? line character = some (tokenAt line character) := by
  rw [tokenByCuts?, tokenAt]
  split
  next hfind => rw [hfind, Option.map_none]
  next run hfind =>
    have hrun : run ∈ tokenRuns line :=
      List.takeWhile_subset _ (List.mem_of_find?_eq_some hfind)
    obtain ⟨hstart, hstop⟩ := isBoundary_of_mem_tokenRuns hrun
    obtain ⟨before, hcut, hlength⟩ := exists_cut? hstart
    obtain ⟨through, hcutStop, hlengthStop⟩ := exists_cut? hstop
    rw [hfind, hcut, hcutStop, Option.map_some, ← hlength, ← hlengthStop]
    rfl

/-- The boundaries of a line are those of its UTF-8 form, and the line can be cut at them and
nowhere else. Going from characters to bytes leads to boundaries, keeps the order, and takes all places
beyond the end for the end; going back and forth changes nothing else. So boundaries compare by
bytes as by characters. The searches for markers and for tokens report nothing but boundaries:
cutting the line there to count characters never fails, and gives the same sections and tokens. -/
theorem offsets_convert_at_boundaries (line : List Char) :
    (byteLength line = (String.ofList line).utf8ByteSize ∧
      ∀ byte, (IsBoundary line byte ↔ String.Pos.Raw.IsValid (String.ofList line) ⟨byte⟩) ∧
        ((cut? line byte).isSome ↔ IsBoundary line byte)) ∧
    (∀ character, charOffset line (byteOffset line character) = min character line.length) ∧
    (∀ character, IsBoundary line (byteOffset line character) ∧
      byteOffset line character ≤ byteLength line) ∧
    (∀ first second, first < second → second ≤ line.length →
      byteOffset line first < byteOffset line second) ∧
    (∀ character, line.length ≤ character → byteOffset line character = byteLength line) ∧
    (∀ byte, IsBoundary line byte → byteOffset line (charOffset line byte) = byte) ∧
    (∀ byte other, IsBoundary line byte → IsBoundary line other →
      (byte ≤ other ↔ charOffset line byte ≤ charOffset line other)) ∧
    (IsBoundary line (firstMarker line) ∧
      ∀ index, sectionByCut? line index = some (sectionOnLine? line index)) ∧
    ((∀ run ∈ tokenRuns line, IsBoundary line run.start ∧ IsBoundary line run.stop) ∧
      ∀ character, tokenByCuts? line character = some (tokenAt line character)) :=
  ⟨⟨byteLength_eq_utf8ByteSize line, fun _ => ⟨isBoundary_iff_isValid, isSome_cut?_iff⟩⟩,
    charOffset_byteOffset line,
    fun character => ⟨isBoundary_byteOffset line character,
      (isBoundary_byteOffset line character).le_byteLength⟩,
    fun _ _ => byteOffset_lt_byteOffset,
    fun _ => byteOffset_of_length_le,
    fun _ => byteOffset_charOffset,
    fun _ _ => le_iff_charOffset_le,
    ⟨isBoundary_firstMarker line, sectionByCut?_eq line⟩,
    ⟨fun _ => isBoundary_of_mem_tokenRuns, tokenByCuts?_eq line⟩⟩

/-- A line of nine characters, of which the first and the last have two bytes. -/
def accentedLine : List Char := ['é', ' ', '=', '>', ' ', 'c', 'a', 'f', 'é']

/-- The run of the last four characters begins at the sixth byte and ends with the line. -/
theorem offsets_convert_at_boundaries_accented :
    (0 < 1 ∧ 1 ≤ accentedLine.length ∧ byteOffset accentedLine 0 < byteOffset accentedLine 1) ∧
    (accentedLine.length ≤ 20 ∧ byteOffset accentedLine 20 = byteLength accentedLine) ∧
    (IsBoundary accentedLine 6 ∧
      byteOffset accentedLine (charOffset accentedLine 6) = 6) ∧
    (IsBoundary accentedLine 11 ∧ (6 ≤ 11 ↔
      charOffset accentedLine 6 ≤ charOffset accentedLine 11)) ∧
    (⟨['c', 'a', 'f', 'é'], 6, 11⟩ ∈ tokenRuns accentedLine ∧ IsBoundary accentedLine 6 ∧
      IsBoundary accentedLine 11) ∧
    ¬ IsBoundary accentedLine 1 := by
  obtain ⟨⟨_, hcut⟩, _, _, hlt, hbeyond, hback, hcompare, _, hruns, _⟩ :=
    offsets_convert_at_boundaries accentedLine
  have hrun : ⟨['c', 'a', 'f', 'é'], 6, 11⟩ ∈ tokenRuns accentedLine := by decide +kernel
  obtain ⟨hstart, hstop⟩ := hruns _ hrun
  refine ⟨⟨by decide, by decide, hlt 0 1 (by decide) (by decide)⟩,
    ⟨by decide, hbeyond 20 (by decide)⟩, ⟨hstart, hback 6 hstart⟩,
    ⟨hstop, hcompare 6 11 hstart hstop⟩, ⟨hrun, hstart, hstop⟩, ?_⟩
  rw [← (hcut 1).2]
  decide

end DialogueIndex
