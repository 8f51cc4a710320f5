import DialogueIndex.Outline
import DialogueIndex.Proofs.Text.LineLayout
import DialogueIndex.Reference

/-! # Texts that differ in how their lines end

How lines end makes no difference to anything that is found in a text. A layout may end all its
lines alike, at line feeds or at carriage returns with line feeds behind them: its lines stay what
they are, and sections, outlines, tokens and jumps are all made from the lines.
-/

namespace DialogueIndex

/-- A text in which every terminator is written as a line feed. -/
def writtenWithFeeds : List Char → List Char
  | [] => []
  | '\r' :: '\n' :: rest => '\n' :: writtenWithFeeds rest
  | '\r' :: rest => '\n' :: writtenWithFeeds rest
  | c :: rest => c :: writtenWithFeeds rest

/-- A text in which a carriage return is written in front of every line feed. -/
def writtenWithReturns (cs : List Char) : List Char :=
  cs.flatMap fun c => if c = '\n' then ['\r', '\n'] else [c]

namespace LineLayout

/-- A layout with the same lines, all of which but the last end in the same way. -/
def endedBy (t : Terminator) (layout : LineLayout) : LineLayout :=
  ⟨layout.ended.map fun piece => (piece.1, t), layout.last⟩

theorem lines_endedBy (t : Terminator) (layout : LineLayout) :
    (layout.endedBy t).lines = layout.lines := by
  rw [lines, lines, endedBy, List.map_map]
  rfl

theorem text_endedBy_cons (t u : Terminator) (line : List Char)
    (ended : List (List Char × Terminator)) (last : List Char) :
    (endedBy t ⟨(line, u) :: ended, last⟩).text =
      line ++ (t.chars ++ (endedBy t ⟨ended, last⟩).text) :=
  text_cons line t _ last

/-- A proper layout stays proper when its lines are not ended by carriage returns alone. -/
theorem proper_endedBy {layout : LineLayout} (hproper : layout.Proper) {t : Terminator}
    (ht : t ≠ .carriageReturn) : (layout.endedBy t).Proper := by
  refine ⟨?_, ?_⟩
  · rw [lines_endedBy]
    exact hproper.plain
  · intro before line after heq
    have hmem : (line, .carriageReturn) ∈ (layout.endedBy t).ended := by simp [heq]
    obtain ⟨_, _, hpiece⟩ := List.mem_map.mp hmem
    exact absurd (Prod.mk.inj hpiece).2 ht

end LineLayout

/-! ## Writing terminators anew -/

theorem writtenWithFeeds_append {line : List Char} (hline : ∀ c ∈ line, LineLayout.isPlain c)
    (cs : List Char) : writtenWithFeeds (line ++ cs) = line ++ writtenWithFeeds cs := by
  induction line with
  | nil => rfl
  | cons c line ih =>
      obtain ⟨hc, hline⟩ := List.forall_mem_cons.mp hline
      have hreturn : c ≠ '\r' := by
        rintro rfl
        cases hc
      have hcons : writtenWithFeeds (c :: (line ++ cs)) = c :: writtenWithFeeds (line ++ cs) := by
        simp [writtenWithFeeds, hreturn]
      rw [List.cons_append, hcons, ih hline, List.cons_append]

theorem writtenWithFeeds_chars {t : Terminator} {cs : List Char}
    (halone : t = .carriageReturn → cs.head? ≠ some '\n') :
    writtenWithFeeds (t.chars ++ cs) = '\n' :: writtenWithFeeds cs := by
  cases t with
  | feed => rfl
  | carriageReturnFeed => rfl
  | carriageReturn =>
      have hnext := halone rfl
      cases cs with
      | nil => rfl
      | cons c cs =>
          have hc : c ≠ '\n' := fun heq => hnext (heq ▸ rfl)
          change writtenWithFeeds ('\r' :: c :: cs) = _
          simp [writtenWithFeeds, hc]

theorem writtenWithReturns_append {line : List Char} (hline : ∀ c ∈ line, LineLayout.isPlain c)
    (cs : List Char) : writtenWithReturns (line ++ cs) = line ++ writtenWithReturns cs := by
  have hself : writtenWithReturns line = line := by
    induction line with
    | nil => rfl
    | cons c line ih =>
        obtain ⟨hc, hline⟩ := List.forall_mem_cons.mp hline
        have hfeed : c ≠ '\n' := by
          rintro rfl
          cases hc
        rw [writtenWithReturns, List.flatMap_cons, if_neg hfeed]
        exact congrArg (c :: ·) (ih hline)
  rw [writtenWithReturns, List.flatMap_append]
  exact congrArg (· ++ writtenWithReturns cs) hself

/-- To write every terminator as a line feed is to end all lines of the layout so. -/
theorem LineLayout.Proper.writtenWithFeeds_text {layout : LineLayout} (hproper : layout.Proper) :
    writtenWithFeeds layout.text = (layout.endedBy .feed).text := by
  obtain ⟨ended, last⟩ := layout
  induction ended with
  | nil =>
      have hlast := writtenWithFeeds_append ((proper_nil_iff last).mp hproper) []
      rwa [writtenWithFeeds, List.append_nil] at hlast
  | cons piece rest ih =>
      obtain ⟨line, t⟩ := piece
      obtain ⟨hline, halone, hrest⟩ := (proper_cons_iff line t rest last).mp hproper
      rw [text_cons, writtenWithFeeds_append hline, writtenWithFeeds_chars halone, ih hrest,
        text_endedBy_cons]
      rfl

/-- To write a carriage return in front of every line feed is to end all lines by both. -/
theorem LineLayout.Proper.writtenWithReturns_text {layout : LineLayout} (hproper : layout.Proper) :
    writtenWithReturns (layout.endedBy .feed).text = (layout.endedBy .carriageReturnFeed).text := by
  obtain ⟨ended, last⟩ := layout
  induction ended with
  | nil =>
      have hlast := writtenWithReturns_append ((proper_nil_iff last).mp hproper) []
      rw [List.append_nil] at hlast
      exact hlast.trans (List.append_nil last)
  | cons piece rest ih =>
      obtain ⟨line, t⟩ := piece
      obtain ⟨hline, _, hrest⟩ := (proper_cons_iff line t rest last).mp hproper
      rw [text_endedBy_cons, text_endedBy_cons, writtenWithReturns_append hline, ← ih hrest]
      rfl

/-- However its lines are made to end, a text is split into the same lines. -/
theorem LineLayout.Proper.splitLines_text_endedBy {layout : LineLayout} (hproper : layout.Proper)
    {t : Terminator} (ht : t ≠ .carriageReturn) :
    splitLines (layout.endedBy t).text = splitLines layout.text := by
  rw [(proper_endedBy hproper ht).splitLines_text, hproper.splitLines_text, lines_endedBy]

/-! ## What is found in a text -/

/-- Two texts in which the same is found at the same places. -/
structure SameFindings (a b : String) : Prop where
  lines : (Document.ofText a).lines = (Document.ofText b).lines
  sections : scan a = scan b
  outline : outline a = outline b
  tokens : ∀ p, (Document.ofText a).tokenAt p = (Document.ofText b).tokenAt p
  jumps : ∀ p, locate a p = locate b p

/-- All that is found in a text is found in its lines. -/
theorem sameFindings_of_splitLines {a b : String}
    (hlines : splitLines a.toList = splitLines b.toList) : SameFindings a b := by
  have hdocument : Document.ofText a = Document.ofText b := by
    simp only [Document.ofText, hlines]
  refine ⟨hlines, ?_, ?_, ?_, ?_⟩
  · rw [scan, scan, hdocument]
  · rw [outline, outline, hdocument]
  · intro p
    rw [hdocument]
  · intro p
    rw [locate, locate, hdocument]

/-- Whether its lines end at line feeds, at carriage returns or at both, also by turns, the same is
found in a text as when all end at line feeds, and as when all end at both. -/
theorem findings_independent_of_line_ends (text : String) :
    SameFindings text (String.ofList (writtenWithFeeds text.toList)) ∧
      SameFindings text
        (String.ofList (writtenWithReturns (writtenWithFeeds text.toList))) := by
  obtain ⟨layout, hproper, htext⟩ := LineLayout.exists_proper text.toList
  have hfeeds := hproper.writtenWithFeeds_text
  have hreturns := hproper.writtenWithReturns_text
  constructor
  · apply sameFindings_of_splitLines
    rw [String.toList_ofList, ← htext, hfeeds, hproper.splitLines_text_endedBy (t := .feed) nofun]
  · apply sameFindings_of_splitLines
    rw [String.toList_ofList, ← htext, hfeeds, hreturns,
      hproper.splitLines_text_endedBy (t := .carriageReturnFeed) nofun]

end DialogueIndex
