import DialogueIndex.Proofs.MarkerName
import DialogueIndex.Proofs.Text.LineLayout
import Mathlib.Data.List.Sort

/-! # Sections written as lines

A section is written as a line with spaces up to its column, the marker, a space and the name. A
text of such lines, with empty ones between them, has the sections that were written, as long as
these are some that a text can have: on lines of their own and in order, with names that a marker
can give.
-/

namespace DialogueIndex

/-! ## Names of sections -/

/-- A name that stands on one line and does not end in white space. It does not begin with a blank
either, unless it is nothing but a byte-order mark. -/
structure IsMarkerName (name : List Char) : Prop where
  ne_nil : name ≠ []
  plain : ∀ c ∈ name, LineLayout.isPlain c
  last : ∀ c ∈ name.getLast?, isSpace c = false
  head : name = [byteOrderMark] ∨ ∀ c ∈ name.head?, isBlank c = false

theorem isMarkerName_untitledName : IsMarkerName untitledName.toList := by
  refine ⟨by decide, List.all_eq_true.mp (by decide), ?_, Or.inr ?_⟩
  · intro c hc
    cases hc
    decide
  · intro c hc
    cases hc
    decide

theorem isMarkerName_byteOrderMark : IsMarkerName [byteOrderMark] := by
  refine ⟨List.cons_ne_nil _ _, List.all_eq_true.mp (by decide), ?_, Or.inl rfl⟩
  intro c hc
  cases hc
  decide

/-- A body without the white space at its end is a name. -/
theorem isMarkerName_of_body {body : List Char} (hbody : body ≠ [])
    (hplain : ∀ c ∈ body, LineLayout.isPlain c) (hhead : ∀ c ∈ body.head?, isBlank c = false) :
    IsMarkerName (dropRightWhile isSpace body) := by
  obtain ⟨spaces, hwritten, hspaces, hlast⟩ := isWrittenAs_dropRightWhile body
  generalize dropRightWhile isSpace body = name at hwritten hlast ⊢
  subst hwritten
  have hne : name ≠ [] := by
    rintro rfl
    obtain ⟨c, rest, rfl⟩ := List.exists_cons_of_ne_nil hbody
    have hspace : isSpace c = false := isSpace_eq_false_of_isBlank (hhead c rfl)
    rw [hspaces c List.mem_cons_self] at hspace
    cases hspace
  refine ⟨hne, fun c hc => hplain c (List.mem_append_left _ hc), hlast, Or.inr ?_⟩
  rwa [List.head?_append_of_ne_nil _ hne] at hhead

/-- What a line gives for a name is one. -/
theorem isMarkerName_of_sectionOnLine? {line : List Char}
    (hplain : ∀ c ∈ line, LineLayout.isPlain c) {index : Nat} {s : Section}
    (hs : sectionOnLine? line index = some s) : IsMarkerName s.name.toList := by
  obtain ⟨_, blanks, rest, rfl, hblanks, _, hrest⟩ := opensSectionAt_of_sectionOnLine? hs
  obtain ⟨gap, body, rfl, hparts⟩ : ∃ gap body, rest = gap ++ body ∧
      MarkerParts (blanks ++ markerChar :: rest) blanks gap body :=
    MarkerParts.exists_of_blanks hblanks
  by_cases hbody : body = []
  · subst hbody
    rw [List.append_nil] at hrest
    obtain ⟨last, hlast⟩ := Option.ne_none_iff_exists'.mp (mt List.getLast?_eq_none_iff.mp hrest)
    rw [hparts.sectionOnLine?_of_last hlast, Option.ite_none_left_eq_some] at hs
    obtain ⟨_, hs⟩ := hs
    cases hs
    dsimp only
    split_ifs
    · exact isMarkerName_untitledName
    · rw [String.toList_ofList]
      exact isMarkerName_byteOrderMark
  · rw [hparts.sectionOnLine?_of_body hbody, Option.ite_none_left_eq_some] at hs
    obtain ⟨_, hs⟩ := hs
    cases hs
    rw [String.toList_ofList]
    refine isMarkerName_of_body hbody ?_ hparts.body_head
    exact fun c hc => hplain c (by simp [hc])

/-! ## Single lines -/

/-- A line that gives a section. -/
def Section.writtenLine (s : Section) : List Char :=
  List.replicate s.column ' ' ++ markerChar :: ' ' :: s.name.toList

/-- A section is read again from the line that is written for it. -/
theorem sectionOnLine?_writtenLine {s : Section} (hname : IsMarkerName s.name.toList) :
    sectionOnLine? s.writtenLine s.line = some s := by
  have hspace : isBlank ' ' := by decide
  have hblanks : ∀ c ∈ List.replicate s.column ' ', isBlank c := by
    intro c hc
    rwa [List.eq_of_mem_replicate hc]
  have hgap : ∀ c ∈ [' '], isBlank c := List.forall_mem_singleton.mpr hspace
  rcases hname.head with hmark | hhead
  · -- A byte-order mark is the last of the blanks, and so it is the name.
    have hparts : MarkerParts s.writtenLine (List.replicate s.column ' ') [' ', byteOrderMark] [] :=
      ⟨by rw [Section.writtenLine, hmark]; rfl, hblanks,
        List.forall_mem_cons.mpr ⟨hspace, List.forall_mem_singleton.mpr (by decide)⟩, nofun⟩
    have hkept : String.ofList [byteOrderMark] = s.name := by rw [← hmark, String.ofList_toList]
    rw [hparts.sectionOnLine?_of_last rfl, if_neg (by decide), if_neg (by decide), hkept,
      List.length_replicate]
  · have hparts : MarkerParts s.writtenLine (List.replicate s.column ' ') [' '] s.name.toList :=
      ⟨rfl, hblanks, hgap, hhead⟩
    have hfeed : '\n' ∉ s.name.toList := ((LineLayout.plain_iff _).mpr hname.plain).1
    have hkept : dropRightWhile isSpace s.name.toList = s.name.toList := by
      refine List.rdropWhile_eq_self_iff.mpr fun hne => ?_
      simpa using hname.last _ (List.getLast?_eq_some_getLast hne)
    rw [hparts.sectionOnLine?_of_body hname.ne_nil, if_neg hfeed, hkept, String.ofList_toList,
      List.length_replicate]

theorem isPlain_writtenLine {s : Section} (hname : IsMarkerName s.name.toList) :
    ∀ c ∈ s.writtenLine, LineLayout.isPlain c := by
  intro c hc
  simp only [Section.writtenLine, List.mem_append, List.mem_cons, List.mem_replicate] at hc
  rcases hc with ⟨_, rfl⟩ | rfl | rfl | hc
  · rfl
  · rfl
  · rfl
  · exact hname.plain c hc

/-! ## Texts -/

/-- The line with a number in a text that holds nothing but the given sections. -/
def lineWith (sections : List Section) (index : Nat) : List Char :=
  ((sections.find? (·.line == index)).map Section.writtenLine).getD []

/-- A text of so many lines that holds nothing but the given sections. -/
def textWith (count : Nat) (sections : List Section) : String :=
  String.ofList (List.intercalate ['\n'] ((List.range count).map (lineWith sections)))

/-- Lines with a line feed between each two are the lines of the text they make. -/
theorem splitLines_intercalate {lines : List (List Char)} (hne : lines ≠ [])
    (hplain : ∀ line ∈ lines, ∀ c ∈ line, LineLayout.isPlain c) :
    splitLines (List.intercalate ['\n'] lines) = lines := by
  induction lines with
  | nil => exact absurd rfl hne
  | cons line rest ih =>
      obtain ⟨hline, hrest⟩ := List.forall_mem_cons.mp hplain
      cases rest with
      | nil =>
          rw [List.intercalate_singleton]
          simpa using splitLines_append hline []
      | cons next rest =>
          have hfeed : Terminator.feed ≠ .carriageReturn := nofun
          rw [List.intercalate_cons_cons, List.append_assoc]
          exact (splitLines_append_chars (t := .feed) hline (absurd · hfeed)).trans
            (congrArg (line :: ·) (ih (List.cons_ne_nil _ _) hrest))

/-- Sections in the order of their lines are known by which they are. -/
theorem sections_eq_of_mem_iff {first second : List Section}
    (hfirst : first.Pairwise fun a b => a.line < b.line)
    (hsecond : second.Pairwise fun a b => a.line < b.line)
    (hmem : ∀ s, s ∈ first ↔ s ∈ second) : first = second := by
  have hirrefl : Std.Irrefl fun a b : Section => a.line < b.line :=
    ⟨fun a => Nat.lt_irrefl a.line⟩
  have hantisymm : Std.Antisymm fun a b : Section => a.line < b.line :=
    ⟨fun a b hab hba => absurd hba (Nat.lt_asymm hab)⟩
  exact hfirst.eq_of_mem_iff hsecond hmem

/-- Sections that a text of so many lines can have. -/
structure FitsLines (count : Nat) (sections : List Section) : Prop where
  sorted : sections.Pairwise fun a b => a.line < b.line
  line_lt : ∀ s ∈ sections, s.line < count
  named : ∀ s ∈ sections, IsMarkerName s.name.toList

/-- The sections of a text fit its lines. -/
theorem fitsLines_scan (text : String) :
    FitsLines (Document.ofText text).lineCount (scan text) where
  sorted := (Document.ofText text).sections_pairwise
  line_lt _ hs := Document.line_lt_lineCount_of_mem_sections hs
  named s hs := by
    obtain ⟨line, index, hline, hsection⟩ := Document.mem_sections_iff.mp hs
    have hplain := forall_isPlain_of_mem_splitLines (List.mem_of_getElem? hline)
    exact isMarkerName_of_sectionOnLine? hplain hsection

namespace FitsLines

variable {count : Nat} {sections : List Section} (hfits : FitsLines count sections)

include hfits

/-- On every line there is at most one of the sections. -/
theorem find?_eq_some_iff {index : Nat} {s : Section} :
    sections.find? (·.line == index) = some s ↔ s ∈ sections ∧ s.line = index := by
  have hdistinct : (sections.map (·.line)).Nodup :=
    (List.pairwise_map.mpr hfits.sorted).imp Nat.ne_of_lt
  constructor
  · intro hfind
    exact ⟨List.mem_of_find?_eq_some hfind, by simpa using List.find?_some hfind⟩
  · rintro ⟨hs, hline⟩
    have hsome : (sections.find? (·.line == index)).isSome :=
      List.find?_isSome.mpr ⟨s, hs, by simpa using hline⟩
    obtain ⟨t, hfind⟩ := Option.isSome_iff_exists.mp hsome
    have htLine : t.line = index := by simpa using List.find?_some hfind
    have heq : t = s := List.inj_on_of_nodup_map hdistinct (List.mem_of_find?_eq_some hfind) hs
      (htLine.trans hline.symm)
    rw [hfind, heq]

theorem lineWith_of_mem {s : Section} (hs : s ∈ sections) :
    lineWith sections s.line = s.writtenLine := by
  rw [lineWith, hfits.find?_eq_some_iff.mpr ⟨hs, rfl⟩]
  rfl

omit hfits in
theorem lineWith_of_forall_ne {index : Nat} (hindex : ∀ s ∈ sections, s.line ≠ index) :
    lineWith sections index = [] := by
  rw [lineWith, List.find?_eq_none.mpr (by simpa using hindex)]
  rfl

/-- A line is that of a section, or it is empty. -/
theorem lineWith_cases (index : Nat) :
    (∃ s ∈ sections, s.line = index ∧ lineWith sections index = s.writtenLine) ∨
      (∀ s ∈ sections, s.line ≠ index) ∧ lineWith sections index = [] := by
  by_cases hindex : ∃ s ∈ sections, s.line = index
  · obtain ⟨s, hs, rfl⟩ := hindex
    exact Or.inl ⟨s, hs, rfl, hfits.lineWith_of_mem hs⟩
  · have hnone : ∀ s ∈ sections, s.line ≠ index := fun s hs hline => hindex ⟨s, hs, hline⟩
    exact Or.inr ⟨hnone, lineWith_of_forall_ne hnone⟩

theorem sectionOnLine?_lineWith_eq_some_iff {index : Nat} {s : Section} :
    sectionOnLine? (lineWith sections index) index = some s ↔ s ∈ sections ∧ s.line = index := by
  rcases hfits.lineWith_cases index with ⟨t, ht, rfl, hline⟩ | ⟨hnone, hline⟩
  · rw [hline, sectionOnLine?_writtenLine (hfits.named t ht), ← hfits.find?_eq_some_iff,
      hfits.find?_eq_some_iff.mpr ⟨ht, rfl⟩]
  · rw [hline]
    exact iff_of_false nofun fun hs => hnone s hs.1 hs.2

theorem lines_textWith (hcount : 0 < count) :
    (Document.ofText (textWith count sections)).lines =
      (List.range count).map (lineWith sections) := by
  rw [Document.lines_ofText, textWith, String.toList_ofList]
  apply splitLines_intercalate
  · simpa using Nat.ne_of_gt hcount
  · intro line hline
    obtain ⟨index, _, rfl⟩ := List.mem_map.mp hline
    rcases hfits.lineWith_cases index with ⟨s, hs, _, hwritten⟩ | ⟨_, hempty⟩
    · rw [hwritten]
      exact isPlain_writtenLine (hfits.named s hs)
    · simp [hempty]

/-- The line with a number is the one that is written for it. -/
theorem line?_textWith {index : Nat} (hindex : index < count) :
    (Document.ofText (textWith count sections)).line? index = some (lineWith sections index) := by
  rw [Document.line?, hfits.lines_textWith (Nat.zero_lt_of_lt hindex), List.getElem?_map,
    List.getElem?_range hindex, Option.map_some]

theorem lineCount_textWith (hcount : 0 < count) :
    (Document.ofText (textWith count sections)).lineCount = count := by
  rw [Document.lineCount, hfits.lines_textWith hcount, List.length_map, List.length_range]

/-- The sections that a text holds are read from it again. -/
theorem scan_textWith (hcount : 0 < count) : scan (textWith count sections) = sections := by
  refine sections_eq_of_mem_iff (Document.sections_pairwise _) hfits.sorted fun s => ?_
  constructor
  · intro hs
    obtain ⟨line, index, hline, hsection⟩ := Document.mem_sections_iff.mp hs
    have hindex := (List.getElem?_eq_some_iff.mp hline).1
    rw [← Document.lineCount, hfits.lineCount_textWith hcount] at hindex
    rw [hfits.line?_textWith hindex, Option.some.injEq] at hline
    rw [← hline] at hsection
    exact (hfits.sectionOnLine?_lineWith_eq_some_iff.mp hsection).1
  · intro hs
    exact Document.mem_sections_iff.mpr ⟨_, s.line, hfits.line?_textWith (hfits.line_lt s hs),
      hfits.sectionOnLine?_lineWith_eq_some_iff.mpr ⟨hs, rfl⟩⟩

end FitsLines

example : textWith 3 [⟨"a  b", 0, 1⟩, ⟨"\uFEFF", 2, 0⟩] = " ~ a  b\n\n~ \uFEFF" ∧
    scan " ~ a  b\n\n~ \uFEFF" = [⟨"a  b", 0, 1⟩, ⟨"\uFEFF", 2, 0⟩] := by
  decide +kernel

/-- The lines and the sections of some text are known by what fits together. -/
theorem exists_scan_eq_iff {count : Nat} (hcount : 0 < count) {sections : List Section} :
    (∃ text, (Document.ofText text).lineCount = count ∧ scan text = sections) ↔
      FitsLines count sections := by
  constructor
  · rintro ⟨text, rfl, rfl⟩
    exact fitsLines_scan text
  · intro hfits
    exact ⟨textWith count sections, hfits.lineCount_textWith hcount, hfits.scan_textWith hcount⟩

/-- The sections of a text are those of the text that has as many lines and holds nothing but them.
Each of them is written on its line, and all other lines are empty. -/
theorem scan_rewritten_sections (text : String) :
    (Document.ofText (textWith (Document.ofText text).lineCount (scan text))).lineCount =
      (Document.ofText text).lineCount ∧
    (∀ s ∈ scan text,
      (Document.ofText (textWith (Document.ofText text).lineCount (scan text))).line? s.line =
        some (List.replicate s.column ' ' ++ '~' :: ' ' :: s.name.toList)) ∧
    (∀ index < (Document.ofText text).lineCount, (∀ s ∈ scan text, s.line ≠ index) →
      (Document.ofText (textWith (Document.ofText text).lineCount (scan text))).line? index =
        some []) ∧
    scan (textWith (Document.ofText text).lineCount (scan text)) = scan text := by
  have hfits := fitsLines_scan text
  have hcount : 0 < (Document.ofText text).lineCount :=
    List.length_pos_iff.mpr (Document.ofText text).lines_ne_nil
  refine ⟨hfits.lineCount_textWith hcount, ?_, ?_, hfits.scan_textWith hcount⟩
  · intro s hs
    rw [hfits.line?_textWith (hfits.line_lt s hs), hfits.lineWith_of_mem hs]
    rfl
  · intro index hindex hnone
    rw [hfits.line?_textWith hindex, FitsLines.lineWith_of_forall_ne hnone]

end DialogueIndex
