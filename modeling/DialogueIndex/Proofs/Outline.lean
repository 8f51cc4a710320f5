import DialogueIndex.ProjectOutline
import DialogueIndex.Proofs.Marker
import Mathlib.Algebra.BigOperators.Group.List.Basic
import Mathlib.Algebra.Order.Ring.Nat

/-! # Outlines as partitions

The entries of an outline stand in the order of their sections and leave no line between each
other. From the line of the first section on, every line of the document belongs to exactly one
entry: that of the last section that does not come after it.
-/

namespace DialogueIndex

namespace OutlineEntry

/-- The section at the start of an entry. -/
def toSection (e : OutlineEntry) : Section := ⟨e.name, e.startLine, e.startColumn⟩

/-- Whether a line belongs to an entry. -/
def Covers (e : OutlineEntry) (line : Nat) : Prop := e.startLine ≤ line ∧ line ≤ e.endLine

end OutlineEntry

namespace Document

/-- Sections in the order of their lines, each on a line of the document and in front of the end
of that line. -/
structure Holds (document : Document) (sections : List Section) : Prop where
  sorted : sections.Pairwise fun a b => a.line < b.line
  line_lt : ∀ s ∈ sections, s.line < document.lineCount
  column_lt : ∀ s ∈ sections, s.column < document.lineLength s.line

theorem holds_sections (document : Document) : document.Holds document.sections where
  sorted := document.sections_pairwise
  line_lt _ hs := line_lt_lineCount_of_mem_sections hs
  column_lt _ hs := Nat.lt_of_succ_lt (column_lt_lineLength_of_mem_sections hs)

theorem Holds.tail {document : Document} {s : Section} {sections : List Section}
    (hholds : document.Holds (s :: sections)) : document.Holds sections where
  sorted := (List.pairwise_cons.mp hholds.sorted).2
  line_lt t ht := hholds.line_lt t (List.mem_cons_of_mem _ ht)
  column_lt t ht := hholds.column_lt t (List.mem_cons_of_mem _ ht)

/-- Sections are on later lines the later they are listed. -/
theorem Holds.line_lt_line {document : Document} {sections : List Section}
    (hholds : document.Holds sections) {i j : Nat} {s t : Section} (hs : sections[i]? = some s)
    (ht : sections[j]? = some t) (hij : i < j) : s.line < t.line := by
  obtain ⟨hi, rfl⟩ := List.getElem?_eq_some_iff.mp hs
  obtain ⟨hj, rfl⟩ := List.getElem?_eq_some_iff.mp ht
  exact List.pairwise_iff_getElem.mp hholds.sorted i j hi hj hij

/-! ## Single entries -/

theorem getElem?_entries (document : Document) (sections : List Section) (i : Nat) :
    (document.entries sections)[i]? =
      sections[i]?.map fun s => document.entry s sections[i + 1]? := by
  induction sections generalizing i with
  | nil => rfl
  | cons s rest ih =>
      cases i with
      | zero =>
          rw [entries, List.getElem?_cons_succ, ← List.head?_eq_getElem? (l := rest)]
          rfl
      | succ i => exact ih i

/-- Every entry is that of a section, seen together with the section that follows. -/
theorem exists_section_of_getElem? {document : Document} {sections : List Section} {i : Nat}
    {e : OutlineEntry} (he : (document.entries sections)[i]? = some e) :
    ∃ s, sections[i]? = some s ∧ e = document.entry s sections[i + 1]? := by
  rw [getElem?_entries] at he
  obtain ⟨s, hs, rfl⟩ := Option.map_eq_some_iff.mp he
  exact ⟨s, hs, rfl⟩

theorem exists_section_of_mem {document : Document} {sections : List Section} {e : OutlineEntry}
    (he : e ∈ document.entries sections) :
    ∃ s ∈ sections, ∃ following, e = document.entry s following := by
  obtain ⟨i, hi⟩ := List.mem_iff_getElem?.mp he
  obtain ⟨s, hs, rfl⟩ := exists_section_of_getElem? hi
  exact ⟨s, List.mem_of_getElem? hs, _, rfl⟩

theorem map_toSection_entries (document : Document) (sections : List Section) :
    (document.entries sections).map OutlineEntry.toSection = sections := by
  induction sections with
  | nil => rfl
  | cons s rest ih =>
      rw [entries, List.map_cons, ih]
      rfl

theorem length_entries (document : Document) (sections : List Section) :
    (document.entries sections).length = sections.length := by
  have hmap := congrArg List.length (document.map_toSection_entries sections)
  rwa [List.length_map] at hmap

/-- An entry ends where the next begins. -/
theorem endLine_some_add_one (document : Document) {s following : Section}
    (hlt : s.line < following.line) : document.endLine s (some following) + 1 = following.line := by
  rw [endLine]
  omega

/-- The last entry ends where the document does. -/
theorem endLine_none (document : Document) {s : Section} (hlt : s.line < document.lineCount) :
    document.endLine s none = document.lastLine := by
  rw [endLine, lastLine]
  omega

theorem Holds.endLine_lt {document : Document} {sections : List Section}
    (hholds : document.Holds sections) {i : Nat} {s : Section} (hs : sections[i]? = some s) :
    document.endLine s sections[i + 1]? < document.lineCount := by
  have hline := hholds.line_lt s (List.mem_of_getElem? hs)
  cases ht : sections[i + 1]? with
  | none =>
      rw [document.endLine_none hline, lastLine]
      omega
  | some t =>
      have hnext := document.endLine_some_add_one (hholds.line_lt_line hs ht i.lt_add_one)
      have htLine := hholds.line_lt t (List.mem_of_getElem? ht)
      omega

theorem line_le_endLine (document : Document) (s : Section) (following : Option Section) :
    s.line ≤ document.endLine s following := by
  cases following with
  | none => exact Nat.le_max_left _ _
  | some t => exact Nat.le_max_left _ _

/-- An entry ends behind the place where it starts. -/
theorem start_before_stop {document : Document} {s : Section}
    (hcolumn : s.column < document.lineLength s.line) (following : Option Section) :
    (document.entry s following).span.start.Before (document.entry s following).span.stop := by
  rcases Nat.lt_or_eq_of_le (document.line_le_endLine s following) with hlt | heq
  · exact Or.inl hlt
  · refine Or.inr ⟨heq, ?_⟩
    change s.column < document.lineLength (document.endLine s following)
    rwa [← heq]

/-- A line belongs to an entry if it comes no earlier than the section and earlier than the next. -/
theorem Holds.covers_iff {document : Document} {sections : List Section}
    (hholds : document.Holds sections) {i : Nat} {s : Section} (hs : sections[i]? = some s)
    {line : Nat} (hline : line ≤ document.lastLine) :
    (document.entry s sections[i + 1]?).Covers line ↔
      s.line ≤ line ∧ ∀ t ∈ sections[i + 1]?, line < t.line := by
  change s.line ≤ line ∧ line ≤ document.endLine s sections[i + 1]? ↔ _
  cases ht : sections[i + 1]? with
  | none =>
      rw [document.endLine_none (hholds.line_lt s (List.mem_of_getElem? hs))]
      simp [hline]
  | some t =>
      have hnext := document.endLine_some_add_one (hholds.line_lt_line hs ht i.lt_add_one)
      simp only [Option.mem_some_iff, forall_eq']
      omega

/-! ## All entries together -/

/-- From the first section on, some section is the last that does not come after a line. -/
theorem exists_last_section {first : Section} {sections : List Section} {line : Nat}
    (hfirst : first.line ≤ line) :
    ∃ i s, (first :: sections)[i]? = some s ∧ s.line ≤ line ∧
      ∀ t ∈ (first :: sections)[i + 1]?, line < t.line := by
  induction sections generalizing first with
  | nil => exact ⟨0, first, rfl, hfirst, nofun⟩
  | cons second rest ih =>
      by_cases hsecond : second.line ≤ line
      · obtain ⟨i, s, hs, hle, hnext⟩ := ih hsecond
        exact ⟨i + 1, s, hs, hle, hnext⟩
      · refine ⟨0, first, rfl, hfirst, ?_⟩
        intro t ht
        cases ht
        exact Nat.lt_of_not_le hsecond

/-- No section that does not come after a line is listed behind one whose next comes after it. -/
theorem Holds.index_le {document : Document} {sections : List Section}
    (hholds : document.Holds sections) {line i j : Nat} {t : Section}
    (hnext : ∀ u ∈ sections[i + 1]?, line < u.line) (ht : sections[j]? = some t)
    (hle : t.line ≤ line) : j ≤ i := by
  by_contra hij
  have hj := (List.getElem?_eq_some_iff.mp ht).1
  have hi : i + 1 < sections.length := by omega
  have hu := List.getElem?_eq_getElem hi
  have hline := hnext _ hu
  rcases Nat.lt_or_eq_of_le (Nat.lt_of_not_le hij) with hlt | heq
  · have hsorted := hholds.line_lt_line hu ht hlt
    omega
  · subst heq
    cases ht.symm.trans hu
    omega

/-- The lines of the entries add up to those from the first section on. -/
theorem Holds.sum_entries {document : Document} {first : Section} {sections : List Section}
    (hholds : document.Holds (first :: sections)) :
    ((document.entries (first :: sections)).map fun e => e.endLine - e.startLine + 1).sum =
      document.lineCount - first.line := by
  have hfirst := hholds.line_lt first List.mem_cons_self
  -- Each entry runs up to the next section, so the sum runs from the first one to the end.
  induction sections generalizing first with
  | nil =>
      change document.endLine first none - first.line + 1 + 0 = _
      rw [document.endLine_none hfirst, lastLine]
      omega
  | cons second rest ih =>
      have hlt := (List.pairwise_cons.mp hholds.sorted).1 second List.mem_cons_self
      have hsecond := hholds.tail.line_lt second List.mem_cons_self
      have hnext := document.endLine_some_add_one hlt
      rw [entries, List.map_cons, List.sum_cons, ih hholds.tail hsecond]
      change document.endLine first (some second) - first.line + 1 + _ = _
      omega

/-- The numbers of lines of entries fit in words if that of the document does. -/
theorem Holds.lineCount_entries_eq {document : Document} {sections : List Section}
    (hholds : document.Holds sections) (hcount : document.lineCount < countRange) :
    (document.entries sections).map (·.lineCount) =
      (document.entries sections).map fun e => e.endLine - e.startLine + 1 := by
  apply List.map_congr_left
  intro e he
  obtain ⟨i, hi⟩ := List.mem_iff_getElem?.mp he
  obtain ⟨s, hs, rfl⟩ := exists_section_of_getElem? hi
  have hend := hholds.endLine_lt hs
  apply Nat.mod_eq_of_lt
  change document.endLine s _ - s.line + 1 < _
  omega

theorem Holds.endLine_add_one {document : Document} {sections : List Section}
    (hholds : document.Holds sections) {i : Nat} {e next : OutlineEntry}
    (he : (document.entries sections)[i]? = some e)
    (hnext : (document.entries sections)[i + 1]? = some next) : e.endLine + 1 = next.startLine := by
  obtain ⟨s, hs, rfl⟩ := exists_section_of_getElem? he
  obtain ⟨t, ht, rfl⟩ := exists_section_of_getElem? hnext
  rw [ht]
  exact document.endLine_some_add_one (hholds.line_lt_line hs ht i.lt_add_one)

theorem Holds.endLine_getLast {document : Document} {sections : List Section}
    (hholds : document.Holds sections) {last : OutlineEntry}
    (hlast : last ∈ (document.entries sections).getLast?) : last.endLine = document.lastLine := by
  rw [Option.mem_def, List.getLast?_eq_getElem?] at hlast
  obtain ⟨s, hs, rfl⟩ := exists_section_of_getElem? hlast
  have hend : sections[(document.entries sections).length - 1 + 1]? = none := by
    rw [List.getElem?_eq_none_iff, document.length_entries]
    omega
  rw [hend]
  exact document.endLine_none (hholds.line_lt s (List.mem_of_getElem? hs))

/-- In front of the first section no line belongs to an entry. -/
theorem Holds.not_covers {document : Document} {first : Section} {rest : List Section}
    (hholds : document.Holds (first :: rest)) {line : Nat} (hline : line < first.line)
    {e : OutlineEntry} (he : e ∈ document.entries (first :: rest)) : ¬ e.Covers line := by
  rintro ⟨hle, _⟩
  obtain ⟨s, hs, _, rfl⟩ := exists_section_of_mem he
  change s.line ≤ line at hle
  rcases List.mem_cons.mp hs with rfl | hs
  · omega
  · have hlt := (List.pairwise_cons.mp hholds.sorted).1 s hs
    omega

/-- From the first section on a line belongs to the last entry that does not start behind it, and
to no other. -/
theorem Holds.exists_covers_iff {document : Document} {first : Section} {rest : List Section}
    (hholds : document.Holds (first :: rest)) {line : Nat} (hfirst : first.line ≤ line)
    (hlast : line ≤ document.lastLine) :
    ∃ (i : Nat) (s : Section), (first :: rest)[i]? = some s ∧ s.line ≤ line ∧
      (∀ (j : Nat) (t : Section), (first :: rest)[j]? = some t → t.line ≤ line → j ≤ i) ∧
      ∀ (j : Nat) (e : OutlineEntry), (document.entries (first :: rest))[j]? = some e →
        (e.Covers line ↔ j = i) := by
  obtain ⟨i, s, hs, hle, hnext⟩ := exists_last_section hfirst
  refine ⟨i, s, hs, hle, fun j t ht hte => hholds.index_le hnext ht hte, ?_⟩
  intro j e he
  obtain ⟨t, ht, rfl⟩ := exists_section_of_getElem? he
  rw [hholds.covers_iff ht hlast]
  constructor
  · rintro ⟨htle, htnext⟩
    exact Nat.le_antisymm (hholds.index_le hnext ht htle) (hholds.index_le htnext hs hle)
  · intro hji
    subst hji
    cases hs.symm.trans ht
    exact ⟨hle, hnext⟩

end Document

/-- The outline of a text has the sections of the text for its entries and parts the lines from the
first of them on among them. -/
theorem outline_partitions_lines (text : String) :
    (outline text).map OutlineEntry.toSection = scan text ∧
    (∀ (i : Nat) (e next : OutlineEntry), (outline text)[i]? = some e →
      (outline text)[i + 1]? = some next → e.endLine + 1 = next.startLine) ∧
    (∀ last ∈ (outline text).getLast?, last.endLine = (Document.ofText text).lastLine) ∧
    (∀ e ∈ outline text, e.endColumn = (Document.ofText text).lineLength e.endLine ∧
      e.span.start.Before e.span.stop) ∧
    (∀ first ∈ (scan text).head?,
      (∀ line < first.line, ∀ e ∈ outline text, ¬ e.Covers line) ∧
      (∀ line, first.line ≤ line → line ≤ (Document.ofText text).lastLine →
        ∃ (i : Nat) (s : Section), (scan text)[i]? = some s ∧ s.line ≤ line ∧
          (∀ (j : Nat) (t : Section), (scan text)[j]? = some t → t.line ≤ line → j ≤ i) ∧
          ∀ (j : Nat) (e : OutlineEntry), (outline text)[j]? = some e → (e.Covers line ↔ j = i)) ∧
      totalOf ((outline text).map (·.lineCount)) =
        ((Document.ofText text).lineCount - first.line) % countRange ∧
      ((Document.ofText text).lineCount < countRange →
        ((outline text).map (·.lineCount)).sum =
          (Document.ofText text).lineCount - first.line)) := by
  have hholds : (Document.ofText text).Holds (scan text) := (Document.ofText text).holds_sections
  refine ⟨(Document.ofText text).map_toSection_entries _, fun i e next => hholds.endLine_add_one,
    fun last => hholds.endLine_getLast, ?_, ?_⟩
  · intro e he
    obtain ⟨s, hs, following, rfl⟩ := Document.exists_section_of_mem he
    exact ⟨rfl, Document.start_before_stop (hholds.column_lt s hs) following⟩
  · intro first hfirst
    obtain ⟨rest, hscan⟩ : ∃ rest, scan text = first :: rest := List.head?_eq_some_iff.mp hfirst
    have houtline : outline text = (Document.ofText text).entries (first :: rest) :=
      congrArg (Document.ofText text).entries hscan
    rw [hscan] at hholds
    have hsum := hholds.sum_entries
    rw [houtline, hscan]
    refine ⟨fun line hline e he => hholds.not_covers hline he,
      fun line => hholds.exists_covers_iff, ?_, ?_⟩
    · rw [← hsum, List.sum_nat_mod, List.map_map]
      rfl
    · intro hcount
      rw [hholds.lineCount_entries_eq hcount, hsum]

end DialogueIndex
