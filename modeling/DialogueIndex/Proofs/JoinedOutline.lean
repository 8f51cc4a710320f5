import DialogueIndex.Proofs.Concatenation
import DialogueIndex.Proofs.Outline
import Mathlib.Data.List.ModifyLast

/-! # Outlines of joined texts

The outline of two texts with a line feed between them is made of the outlines of both. The entries
of the second text are further down, and only one entry of the first text notices that more lines
follow: its last one, which goes on up to the first section of the second text.
-/

namespace DialogueIndex

namespace OutlineEntry

/-- The entry so many lines further down. -/
def below (count : Nat) (e : OutlineEntry) : OutlineEntry :=
  { e with startLine := e.startLine + count, endLine := e.endLine + count }

/-- The entry, from the same start on, up to the end of a line of a document. -/
def upTo (document : Document) (line : Nat) (e : OutlineEntry) : OutlineEntry :=
  { e with endLine := line, endColumn := document.lineLength line }

end OutlineEntry

namespace Document

/-- The line in front of a section, or the last line when no section follows. -/
def lineBefore (document : Document) : Option Section → Nat
  | some following => following.line - 1
  | none => document.lastLine

/-- An entry ends in front of what follows. -/
theorem upTo_entry {document other : Document} {s : Section} {following next : Option Section}
    (hline : s.line < document.lineCount) (hnext : ∀ t ∈ next, s.line < t.line) :
    (other.entry s following).upTo document (document.lineBefore next) = document.entry s next := by
  have hend : document.endLine s next = document.lineBefore next := by
    cases next with
    | none => exact document.endLine_none hline
    | some t =>
        have hadd := document.endLine_some_add_one (hnext t rfl)
        rw [lineBefore]
        omega
  rw [← hend]
  rfl

/-- Entries that end within the lines that two documents share are the same in both. -/
theorem entry_congr {document joined : Document}
    (hlength : ∀ line < document.lineCount, joined.lineLength line = document.lineLength line)
    {s t : Section} (hlt : s.line < t.line) (ht : t.line < document.lineCount) :
    joined.entry s (some t) = document.entry s (some t) := by
  have hadd := document.endLine_some_add_one hlt
  have hcolumn := hlength (document.endLine s (some t)) (by omega)
  rw [entry, entry]
  exact congrArg (OutlineEntry.mk _ _ _ _ _ _) hcolumn

/-- Behind the sections of a document others may follow in a longer one. Of the entries of the
shorter document only the last is another one then. -/
theorem entries_append {document joined : Document}
    (hlength : ∀ line < document.lineCount, joined.lineLength line = document.lineLength line)
    {sections more : List Section} (hholds : document.Holds sections)
    (hjoined : joined.Holds (sections ++ more)) :
    joined.entries (sections ++ more) =
      (document.entries sections).modifyLast
          (OutlineEntry.upTo joined (joined.lineBefore more.head?)) ++
        joined.entries more := by
  induction sections with
  | nil => rfl
  | cons s rest ih =>
      have hline := hjoined.line_lt s List.mem_cons_self
      have hbehind := (List.pairwise_cons.mp hjoined.sorted).1
      rw [List.cons_append, entries, entries]
      -- Only the last entry of the shorter document is followed by something else now.
      cases rest with
      | nil =>
          have hnext : ∀ t ∈ more.head?, s.line < t.line :=
            fun t ht => hbehind t (List.mem_of_head? ht)
          exact congrArg (· :: joined.entries more) (upTo_entry hline hnext).symm
      | cons t rest =>
          have hlt := hbehind t List.mem_cons_self
          have ht := hholds.tail.line_lt t List.mem_cons_self
          have hlast := List.modifyLast_append_of_right_ne_nil
            (OutlineEntry.upTo joined (joined.lineBefore more.head?))
            [document.entry s (some t)] (document.entries (t :: rest)) (List.cons_ne_nil _ _)
          rw [ih hholds.tail hjoined.tail, List.cons_append, List.head?_cons, List.head?_cons,
            entry_congr hlength hlt ht]
          exact congrArg (· ++ joined.entries more) hlast.symm

/-- The lines of a document may stand further down in another one. The entries of its sections do so
too. -/
theorem entries_map_below {document joined : Document} {count : Nat}
    (hlength : ∀ line, joined.lineLength (count + line) = document.lineLength line)
    (hcount : joined.lineCount = count + document.lineCount) (sections : List Section) :
    joined.entries (sections.map (Section.below count)) =
      (document.entries sections).map (OutlineEntry.below count) := by
  have hlast : joined.lastLine = document.lastLine + count := by
    have hpositive := List.length_pos_of_ne_nil document.lines_ne_nil
    rw [lastLine, lastLine, hcount, lineCount]
    omega
  have hend : ∀ s following, joined.endLine (Section.below count s)
      (following.map (Section.below count)) = document.endLine s following + count := by
    intro s following
    cases following with
    | none =>
        change max (s.line + count) joined.lastLine = max s.line document.lastLine + count
        omega
    | some t =>
        change max (s.line + count) (t.line + count - 1) = max s.line (t.line - 1) + count
        omega
  induction sections with
  | nil => rfl
  | cons s rest ih =>
      have hcolumn : joined.lineLength (document.endLine s rest.head? + count) =
          document.lineLength (document.endLine s rest.head?) := by
        rw [Nat.add_comm]
        exact hlength _
      rw [List.map_cons, entries, entries, List.map_cons, ih, List.head?_map, entry, hend, hcolumn]
      rfl

end Document

section

variable {first : String} (hend : first.toList.getLast? ≠ some '\r') (second : String)

include hend

theorem lineCount_append_feed :
    (Document.ofText (first ++ "\n" ++ second)).lineCount =
      (Document.ofText first).lineCount + (Document.ofText second).lineCount := by
  rw [Document.lineCount, lines_append_feed hend, List.length_append]
  rfl

/-- The lines of the first text keep their lengths. -/
theorem lineLength_append_feed {line : Nat} (hline : line < (Document.ofText first).lineCount) :
    (Document.ofText (first ++ "\n" ++ second)).lineLength line =
      (Document.ofText first).lineLength line := by
  rw [Document.lineLength, Document.line?, lines_append_feed hend,
    List.getElem?_append_left hline]
  rfl

end

/-- The lines of two texts with a line feed between them are those of the first and behind them
those of the second. The same goes for the sections and for the entries of the outline, which are
further down by the number of lines of the first text; but the last entry of the first text ends on
the line in front of the first section of the second, or on the last line of all when the second has
no section. -/
theorem outline_append_feed {first : String} (hend : first.toList.getLast? ≠ some '\r')
    (second : String) :
    (Document.ofText (first ++ "\n" ++ second)).lines =
      (Document.ofText first).lines ++ (Document.ofText second).lines ∧
    scan (first ++ "\n" ++ second) =
      scan first ++ (scan second).map (Section.below (Document.ofText first).lineCount) ∧
    outline (first ++ "\n" ++ second) =
      (outline first).modifyLast
          (OutlineEntry.upTo (Document.ofText (first ++ "\n" ++ second))
            ((Document.ofText (first ++ "\n" ++ second)).lineBefore
              ((scan second).map (Section.below (Document.ofText first).lineCount)).head?)) ++
        (outline second).map (OutlineEntry.below (Document.ofText first).lineCount) := by
  have hscan := scan_append_feed hend second
  refine ⟨lines_append_feed hend second, hscan, ?_⟩
  generalize hcount : (Document.ofText first).lineCount = count at hscan ⊢
  generalize hmore : (scan second).map (Section.below count) = more at hscan ⊢
  generalize hdocument : Document.ofText (first ++ "\n" ++ second) = joined
  have hjoined : joined.Holds (scan first ++ more) := by
    rw [← hscan, ← hdocument]
    exact Document.holds_sections _
  have hfront : joined.entries (scan first ++ more) = _ ++ joined.entries more :=
    Document.entries_append
      (fun _ hline => hdocument ▸ lineLength_append_feed hend second hline)
      (Document.ofText first).holds_sections hjoined
  have hback : joined.entries more = (outline second).map (OutlineEntry.below count) := by
    subst hdocument hmore hcount
    refine Document.entries_map_below ?_ (lineCount_append_feed hend second) (scan second)
    intro line
    rw [Document.lineLength, line?_append_feed hend second]
    rfl
  have houtline : outline (first ++ "\n" ++ second) = joined.entries (scan first ++ more) := by
    rw [← hscan, ← hdocument]
    rfl
  rw [houtline, hfront, hback]
  rfl

/-- The last entry of the first text goes on over two more lines, its own last one and the empty one
that the second text begins with. -/
theorem outline_append_feed_over_return :
    "~ a\n~ b\nc".toList.getLast? ≠ some '\r' ∧
    (Document.ofText ("~ a\n~ b\nc" ++ "\n" ++ "\r~ d")).lines =
      (Document.ofText "~ a\n~ b\nc").lines ++ (Document.ofText "\r~ d").lines ∧
    scan ("~ a\n~ b\nc" ++ "\n" ++ "\r~ d") = scan "~ a\n~ b\nc" ++ [⟨"d", 4, 0⟩] ∧
    outline ("~ a\n~ b\nc" ++ "\n" ++ "\r~ d") =
      (outline "~ a\n~ b\nc").modifyLast
          (OutlineEntry.upTo (Document.ofText ("~ a\n~ b\nc" ++ "\n" ++ "\r~ d")) 3) ++
        (outline "\r~ d").map (OutlineEntry.below 3) := by
  have hend : "~ a\n~ b\nc".toList.getLast? ≠ some '\r' := by decide +kernel
  have hcount : (Document.ofText "~ a\n~ b\nc").lineCount = 3 := by decide +kernel
  have hmore : (scan "\r~ d").map (Section.below 3) = [⟨"d", 4, 0⟩] := by decide +kernel
  have hjoined := outline_append_feed hend "\r~ d"
  rw [hcount, hmore] at hjoined
  exact ⟨hend, hjoined⟩

end DialogueIndex
