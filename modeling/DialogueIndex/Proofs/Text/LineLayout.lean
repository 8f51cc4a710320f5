import DialogueIndex.Text.Line
import Mathlib.Data.List.TakeWhile

/-! # Line layouts

A layout cuts a text into lines and says what ends each of them. A proper layout ends its lines at
line feeds, at carriage returns and at both together, and nowhere else. Every text has exactly one
proper layout, and the lines of its document are the lines of that layout.
-/

namespace DialogueIndex

/-- What ends a line. -/
inductive Terminator where
  | feed
  | carriageReturn
  | carriageReturnFeed
deriving DecidableEq

/-- The characters of a terminator. -/
def Terminator.chars : Terminator → List Char
  | feed => ['\n']
  | carriageReturn => ['\r']
  | carriageReturnFeed => ['\r', '\n']

/-- A line without the terminator at its end, if there is one. The longest is tried first. -/
def stripTerminator (line : List Char) : List Char :=
  match line.reverse with
  | '\n' :: '\r' :: rest => rest.reverse
  | '\n' :: rest => rest.reverse
  | '\r' :: rest => rest.reverse
  | _ => line

/-- A text cut into lines. Every line but the last stands with what ends it. -/
structure LineLayout where
  ended : List (List Char × Terminator)
  last : List Char

namespace LineLayout

/-- The text that is laid out. -/
def text (layout : LineLayout) : List Char :=
  (layout.ended.flatMap fun piece => piece.1 ++ piece.2.chars) ++ layout.last

/-- The lines without what ends them. -/
def lines (layout : LineLayout) : List (List Char) := layout.ended.map (·.1) ++ [layout.last]

/-- The lines together with what ends them. -/
def writtenLines (layout : LineLayout) : List (List Char) :=
  (layout.ended.map fun piece => piece.1 ++ piece.2.chars) ++ [layout.last]

/-- A layout is proper if its lines hold nothing that ends a line, and if a carriage return that
ends a line on its own is not followed by a line feed in the text. -/
structure Proper (layout : LineLayout) : Prop where
  plain : ∀ line ∈ layout.lines, '\n' ∉ line ∧ '\r' ∉ line
  alone : ∀ before line after, layout.ended = before ++ (line, .carriageReturn) :: after →
    (text ⟨after, layout.last⟩).head? ≠ some '\n'

@[simp] theorem text_nil (last : List Char) : text ⟨[], last⟩ = last := rfl

@[simp] theorem text_cons (line : List Char) (t : Terminator)
    (ended : List (List Char × Terminator)) (last : List Char) :
    text ⟨(line, t) :: ended, last⟩ = line ++ (t.chars ++ text ⟨ended, last⟩) := by
  simp [text]

@[simp] theorem lines_nil (last : List Char) : lines ⟨[], last⟩ = [last] := rfl

@[simp] theorem lines_cons (line : List Char) (t : Terminator)
    (ended : List (List Char × Terminator)) (last : List Char) :
    lines ⟨(line, t) :: ended, last⟩ = line :: lines ⟨ended, last⟩ := rfl

theorem length_lines (layout : LineLayout) :
    layout.lines.length = layout.ended.length + 1 := by
  simp [lines]

/-! ## Proper layouts, line by line -/

/-- Whether a character is no part of a terminator. -/
def isPlain (c : Char) : Bool := c ≠ '\n' && c ≠ '\r'

theorem plain_iff (line : List Char) :
    ('\n' ∉ line ∧ '\r' ∉ line) ↔ ∀ c ∈ line, isPlain c := by
  simp only [isPlain, Bool.and_eq_true, decide_eq_true_eq]
  constructor
  · rintro ⟨hfeed, hreturn⟩ c hc
    exact ⟨fun heq => hfeed (heq ▸ hc), fun heq => hreturn (heq ▸ hc)⟩
  · intro hall
    exact ⟨fun hmem => (hall _ hmem).1 rfl, fun hmem => (hall _ hmem).2 rfl⟩

theorem proper_nil_iff (last : List Char) : Proper ⟨[], last⟩ ↔ ∀ c ∈ last, isPlain c := by
  rw [← plain_iff]
  constructor
  · intro hproper
    exact hproper.plain last List.mem_cons_self
  · intro hlast
    refine ⟨?_, ?_⟩
    · intro line hline
      rw [lines_nil, List.mem_singleton] at hline
      exact hline ▸ hlast
    · intro before line after heq
      simp at heq

theorem proper_cons_iff (line : List Char) (t : Terminator)
    (ended : List (List Char × Terminator)) (last : List Char) :
    Proper ⟨(line, t) :: ended, last⟩ ↔
      (∀ c ∈ line, isPlain c) ∧
        (t = .carriageReturn → (text ⟨ended, last⟩).head? ≠ some '\n') ∧
        Proper ⟨ended, last⟩ := by
  rw [← plain_iff]
  constructor
  · intro hproper
    refine ⟨hproper.plain line List.mem_cons_self, ?_, ?_, ?_⟩
    · rintro rfl
      exact hproper.alone [] line ended rfl
    · intro other hother
      exact hproper.plain other (List.mem_cons_of_mem _ hother)
    · intro before other after heq
      exact hproper.alone ((line, t) :: before) other after (congrArg ((line, t) :: ·) heq)
  · rintro ⟨hline, halone, hrest⟩
    refine ⟨?_, ?_⟩
    · intro other hother
      rcases List.mem_cons.mp hother with rfl | hother
      · exact hline
      · exact hrest.plain other hother
    · intro before other after heq
      cases before with
      | nil =>
          obtain ⟨hpiece, rfl⟩ := List.cons.inj heq
          exact halone (Prod.mk.inj hpiece).2
      | cons piece before =>
          exact hrest.alone before other after (List.cons.inj heq).2

/-! ## Uniqueness -/

theorem takeWhile_isPlain_append {line : List Char} (hline : ∀ c ∈ line, isPlain c)
    (t : Terminator) (rest : List Char) :
    (line ++ (t.chars ++ rest)).takeWhile isPlain = line := by
  rw [List.takeWhile_append_of_pos hline]
  cases t <;> exact List.append_nil line

theorem dropWhile_isPlain_append {line : List Char} (hline : ∀ c ∈ line, isPlain c)
    (t : Terminator) (rest : List Char) :
    (line ++ (t.chars ++ rest)).dropWhile isPlain = t.chars ++ rest := by
  rw [List.dropWhile_append_of_pos hline]
  cases t <;> rfl

/-- What a text starts with tells its terminator, unless a carriage return is mistaken for half of
a terminator of two characters. -/
theorem terminator_eq_of_append_eq {t u : Terminator} {rest other : List Char}
    (ht : t = .carriageReturn → rest.head? ≠ some '\n')
    (hu : u = .carriageReturn → other.head? ≠ some '\n')
    (heq : t.chars ++ rest = u.chars ++ other) : t = u ∧ rest = other := by
  cases t <;> cases u <;> simp_all [Terminator.chars]
  exact hu (heq ▸ rfl)

/-- A text has at most one proper layout. -/
theorem Proper.eq_of_text_eq {a b : LineLayout} (ha : a.Proper) (hb : b.Proper)
    (htext : a.text = b.text) : a = b := by
  obtain ⟨ended, last⟩ := a
  obtain ⟨ended', last'⟩ := b
  induction ended generalizing ended' with
  | nil =>
      rw [proper_nil_iff] at ha
      cases ended' with
      | nil =>
          rw [text_nil, text_nil] at htext
          rw [htext]
      | cons piece rest' =>
          obtain ⟨line, t⟩ := piece
          obtain ⟨hline, _, _⟩ := (proper_cons_iff line t rest' last').mp hb
          rw [text_nil, text_cons] at htext
          have hdrop := congrArg (List.dropWhile isPlain) htext
          rw [dropWhile_isPlain_append hline, List.dropWhile_eq_nil_iff.mpr ha] at hdrop
          cases t <;> cases hdrop
  | cons piece rest ih =>
      obtain ⟨line, t⟩ := piece
      obtain ⟨hline, halone, hrest⟩ := (proper_cons_iff line t rest last).mp ha
      rw [text_cons] at htext
      -- What stands in front of the first terminator is the first line of both layouts.
      have htake := congrArg (List.takeWhile isPlain) htext
      have hdrop := congrArg (List.dropWhile isPlain) htext
      rw [takeWhile_isPlain_append hline] at htake
      rw [dropWhile_isPlain_append hline] at hdrop
      cases ended' with
      | nil =>
          rw [proper_nil_iff] at hb
          rw [text_nil, List.dropWhile_eq_nil_iff.mpr hb] at hdrop
          cases t <;> cases hdrop
      | cons piece' rest' =>
          obtain ⟨line', t'⟩ := piece'
          obtain ⟨hline', halone', hrest'⟩ := (proper_cons_iff line' t' rest' last').mp hb
          rw [text_cons, takeWhile_isPlain_append hline'] at htake
          rw [text_cons, dropWhile_isPlain_append hline'] at hdrop
          obtain ⟨ht, htail⟩ := terminator_eq_of_append_eq halone halone' hdrop
          cases ih hrest rest' hrest' htail
          rw [htake, ht]

/-! ## Existence -/

theorem eq_of_not_isPlain {c : Char} (hc : ¬ isPlain c) : c = '\n' ∨ c = '\r' := by
  by_contra hne
  rw [not_or] at hne
  exact hc (by simp [isPlain, hne])

/-- A text that starts with a line feed starts with an empty line. -/
theorem Proper.exists_ended_of_head?_text {ended : List (List Char × Terminator)}
    {last : List Char} (hproper : Proper ⟨ended, last⟩)
    (hhead : (text ⟨ended, last⟩).head? = some '\n') :
    ∃ rest, ended = ([], .feed) :: rest := by
  cases ended with
  | nil =>
      have hlast := (proper_nil_iff last).mp hproper
      cases hlast '\n' (List.mem_of_mem_head? hhead)
  | cons piece rest =>
      obtain ⟨line, t⟩ := piece
      have hline := ((proper_cons_iff line t rest last).mp hproper).1
      rw [text_cons] at hhead
      cases line with
      | nil =>
          cases t with
          | feed => exact ⟨rest, rfl⟩
          | carriageReturn => cases hhead
          | carriageReturnFeed => cases hhead
      | cons c line =>
          have hc : c = '\n' := Option.some.inj hhead
          cases hc ▸ hline c List.mem_cons_self

/-- Every text has a proper layout. -/
theorem exists_proper (cs : List Char) :
    ∃ layout : LineLayout, layout.Proper ∧ layout.text = cs := by
  induction cs with
  | nil => exact ⟨⟨[], []⟩, (proper_nil_iff []).mpr (by simp), rfl⟩
  | cons c cs ih =>
      obtain ⟨⟨ended, last⟩, hproper, htext⟩ := ih
      by_cases hplain : isPlain c
      · -- an ordinary character becomes the first one of the first line
        cases ended with
        | nil =>
            rw [proper_nil_iff] at hproper
            refine ⟨⟨[], c :: last⟩, (proper_nil_iff _).mpr ?_, ?_⟩
            · exact List.forall_mem_cons.mpr ⟨hplain, hproper⟩
            · rw [← htext, text_nil, text_nil]
        | cons piece rest =>
            obtain ⟨line, t⟩ := piece
            obtain ⟨hline, halone, hrest⟩ := (proper_cons_iff line t rest last).mp hproper
            refine ⟨⟨(c :: line, t) :: rest, last⟩, (proper_cons_iff _ _ _ _).mpr ?_, ?_⟩
            · exact ⟨List.forall_mem_cons.mpr ⟨hplain, hline⟩, halone, hrest⟩
            · rw [← htext, text_cons, text_cons, List.cons_append]
      · rcases eq_of_not_isPlain hplain with rfl | rfl
        · refine ⟨⟨([], .feed) :: ended, last⟩, (proper_cons_iff _ _ _ _).mpr ?_, ?_⟩
          · exact ⟨List.forall_mem_nil _, nofun, hproper⟩
          · rw [← htext, text_cons]
            rfl
        · by_cases hfeed : cs.head? = some '\n'
          · -- the carriage return joins the line feed that is there already
            rw [← htext] at hfeed
            obtain ⟨rest, rfl⟩ := hproper.exists_ended_of_head?_text hfeed
            have hrest := ((proper_cons_iff _ _ _ _).mp hproper).2.2
            refine ⟨⟨([], .carriageReturnFeed) :: rest, last⟩, (proper_cons_iff _ _ _ _).mpr ?_, ?_⟩
            · exact ⟨List.forall_mem_nil _, nofun, hrest⟩
            · rw [← htext, text_cons, text_cons]
              rfl
          · refine ⟨⟨([], .carriageReturn) :: ended, last⟩, (proper_cons_iff _ _ _ _).mpr ?_, ?_⟩
            · exact ⟨List.forall_mem_nil _, fun _ => htext ▸ hfeed, hproper⟩
            · rw [← htext, text_cons]
              rfl

end LineLayout

/-! ## The lines of a document -/

@[simp] theorem splitLines_nil : splitLines [] = [[]] := rfl

theorem splitLines_ne_nil (cs : List Char) : splitLines cs ≠ [] := List.cons_ne_nil _ _

theorem splitLines_feed (cs : List Char) : splitLines ('\n' :: cs) = [] :: splitLines cs := rfl

/-- A split text is known to be before a line feed exactly if it is. -/
theorem beforeFeed_foldr_push (cs : List Char) :
    (cs.foldr LineSplit.push LineSplit.empty).beforeFeed = (cs.head? == some '\n') := by
  cases cs with
  | nil => rfl
  | cons c cs =>
      rw [List.foldr_cons, LineSplit.push]
      by_cases hfeed : c = '\n'
      · simp [hfeed]
      · by_cases hreturn : c = '\r'
        · subst hreturn
          rw [if_neg hfeed, if_pos rfl]
          split <;> rfl
        · simp [hfeed, hreturn]

theorem splitLines_carriageReturn {cs : List Char} (hnext : cs.head? ≠ some '\n') :
    splitLines ('\r' :: cs) = [] :: splitLines cs := by
  have hbefore : (cs.foldr LineSplit.push LineSplit.empty).beforeFeed = false := by
    rw [beforeFeed_foldr_push]
    simpa using hnext
  simp [splitLines, LineSplit.push, LineSplit.lines, hbefore]

theorem splitLines_carriageReturnFeed (cs : List Char) :
    splitLines ('\r' :: '\n' :: cs) = [] :: splitLines cs := rfl

/-- Characters that end no line lengthen the first line. -/
theorem splitLines_append {line : List Char} (hline : ∀ c ∈ line, LineLayout.isPlain c)
    (cs : List Char) :
    splitLines (line ++ cs) = (line ++ (splitLines cs).head (splitLines_ne_nil cs)) ::
      (splitLines cs).tail := by
  induction line with
  | nil => exact (List.cons_head_tail (splitLines_ne_nil cs)).symm
  | cons c line ih =>
      obtain ⟨hc, hline⟩ := List.forall_mem_cons.mp hline
      simp only [LineLayout.isPlain, Bool.and_eq_true, decide_eq_true_eq] at hc
      have hpush : splitLines (c :: (line ++ cs)) =
          (c :: (splitLines (line ++ cs)).head (splitLines_ne_nil _)) ::
            (splitLines (line ++ cs)).tail := by
        simp [splitLines, LineSplit.push, LineSplit.lines, hc.1, hc.2]
      rw [List.cons_append, hpush]
      simp only [ih hline, List.head_cons, List.tail_cons, List.cons_append]

/-- The first line ends at its terminator. -/
theorem splitLines_append_chars {line : List Char} (hline : ∀ c ∈ line, LineLayout.isPlain c)
    {t : Terminator} {cs : List Char} (halone : t = .carriageReturn → cs.head? ≠ some '\n') :
    splitLines (line ++ (t.chars ++ cs)) = line :: splitLines cs := by
  have hcut : splitLines (t.chars ++ cs) = [] :: splitLines cs := by
    cases t with
    | feed => exact splitLines_feed cs
    | carriageReturn => exact splitLines_carriageReturn (halone rfl)
    | carriageReturnFeed => exact splitLines_carriageReturnFeed cs
  rw [splitLines_append hline]
  simp only [hcut, List.head_cons, List.tail_cons, List.append_nil]

/-- Splitting the text of a proper layout gives back its lines. -/
theorem LineLayout.Proper.splitLines_text {layout : LineLayout} (hproper : layout.Proper) :
    splitLines layout.text = layout.lines := by
  obtain ⟨ended, last⟩ := layout
  induction ended with
  | nil =>
      have hlast := (proper_nil_iff last).mp hproper
      simpa using splitLines_append hlast []
  | cons piece rest ih =>
      obtain ⟨line, t⟩ := piece
      obtain ⟨hline, halone, hrest⟩ := (proper_cons_iff line t rest last).mp hproper
      rw [text_cons, lines_cons, splitLines_append_chars hline halone, ih hrest]

/-- No line of a text holds anything that ends a line. -/
theorem forall_isPlain_of_mem_splitLines {cs line : List Char} (hline : line ∈ splitLines cs) :
    ∀ c ∈ line, LineLayout.isPlain c := by
  obtain ⟨layout, hproper, rfl⟩ := LineLayout.exists_proper cs
  rw [hproper.splitLines_text] at hline
  exact (LineLayout.plain_iff line).mp (hproper.plain line hline)

/-! ## Written lines -/

/-- Stripping takes away the whole terminator of a line and nothing of the line. -/
theorem stripTerminator_append_chars {line : List Char} (hline : ∀ c ∈ line, LineLayout.isPlain c)
    (t : Terminator) : stripTerminator (line ++ t.chars) = line := by
  have hreverse : ∀ c ∈ line.reverse, LineLayout.isPlain c := by simpa using hline
  rw [stripTerminator, List.reverse_append]
  cases t with
  | feed =>
      change (match '\n' :: line.reverse with
        | '\n' :: '\r' :: rest => rest.reverse
        | '\n' :: rest => rest.reverse
        | '\r' :: rest => rest.reverse
        | _ => line ++ ['\n']) = line
      split
      next rest heq =>
        rw [List.cons.injEq] at heq
        cases hreverse '\r' (heq.2 ▸ List.mem_cons_self)
      next rest _ heq => rw [← (List.cons.inj heq).2, List.reverse_reverse]
      next rest heq => cases heq
      next _ hne _ => cases hne _ rfl
  | carriageReturn => exact List.reverse_reverse line
  | carriageReturnFeed => exact List.reverse_reverse line

theorem stripTerminator_of_plain {line : List Char} (hline : ∀ c ∈ line, LineLayout.isPlain c) :
    stripTerminator line = line := by
  have hreverse : ∀ c ∈ line.reverse, LineLayout.isPlain c := by simpa using hline
  unfold stripTerminator
  split
  next heq => cases hreverse '\n' (heq ▸ List.mem_cons_self)
  next heq => cases hreverse '\n' (heq ▸ List.mem_cons_self)
  next heq => cases hreverse '\r' (heq ▸ List.mem_cons_self)
  next => rfl

/-- What ends the lines of a proper layout is all that stripping takes away. -/
theorem LineLayout.Proper.map_stripTerminator {layout : LineLayout} (hproper : layout.Proper) :
    layout.writtenLines.map stripTerminator = layout.lines := by
  have hplain : ∀ line ∈ layout.lines, ∀ c ∈ line, isPlain c :=
    fun line hline => (plain_iff line).mp (hproper.plain line hline)
  rw [lines, List.forall_mem_append] at hplain
  obtain ⟨hended, hlast⟩ := hplain
  rw [writtenLines, lines, List.map_append, List.map_map]
  congr 1
  · apply List.map_congr_left
    intro piece hpiece
    exact stripTerminator_append_chars (hended _ (List.mem_map_of_mem hpiece)) piece.2
  · rw [List.map_singleton, stripTerminator_of_plain (hlast _ List.mem_cons_self)]

namespace Document

theorem lines_ofText (text : String) : (ofText text).lines = splitLines text.toList := rfl

theorem feed_notMem_of_line? {text : String} {index : Nat} {line : List Char}
    (hline : (ofText text).line? index = some line) : '\n' ∉ line := by
  have hplain := forall_isPlain_of_mem_splitLines (List.mem_of_getElem? hline)
  exact ((LineLayout.plain_iff line).mpr hplain).1

theorem lineLength_of_line? {document : Document} {index : Nat} {line : List Char}
    (hline : document.line? index = some line) : document.lineLength index = line.length := by
  rw [lineLength, hline, Option.map_some, Option.getD_some]

theorem lineLength_of_le (document : Document) {index : Nat} (hindex : document.lineCount ≤ index) :
    document.lineLength index = 0 := by
  rw [lineLength, line?, List.getElem?_eq_none hindex, Option.map_none, Option.getD_none]

/-- Going through a document by the numbers of its lines leaves no line out. -/
theorem filterMap_line?_range (document : Document) :
    (List.range document.lineCount).filterMap document.line? = document.lines := by
  change (List.range document.lines.length).filterMap (document.lines[·]?) = document.lines
  induction document.lines with
  | nil => rfl
  | cons line lines ih =>
      rw [List.length_cons, List.range_succ_eq_map, List.filterMap_cons, List.getElem?_cons_zero,
        List.filterMap_map]
      exact congrArg (line :: ·) ih

end Document

/-- The lines of a document are those of the one proper layout of its text, and are reached by
their numbers. -/
theorem document_lines_unique_layout (text : String) :
    ∃ layout : LineLayout,
      (layout.Proper ∧ layout.text = text.toList) ∧
      (∀ other : LineLayout, other.Proper → other.text = text.toList → other = layout) ∧
      (Document.ofText text).lines = layout.lines ∧
      layout.lines = layout.writtenLines.map stripTerminator ∧
      (Document.ofText text).lineCount = layout.lines.length ∧
      1 ≤ (Document.ofText text).lineCount ∧
      (∀ index line, (Document.ofText text).line? index = some line ↔
        ∃ hindex : index < layout.lines.length, layout.lines[index] = line) ∧
      (∀ (index : Nat) (hindex : index < layout.lines.length),
        (Document.ofText text).lineLength index = layout.lines[index].length) ∧
      (∀ index, layout.lines.length ≤ index → (Document.ofText text).lineLength index = 0) ∧
      (List.range (Document.ofText text).lineCount).filterMap (Document.ofText text).line? =
        layout.lines := by
  obtain ⟨layout, hproper, htext⟩ := LineLayout.exists_proper text.toList
  have hlines : (Document.ofText text).lines = layout.lines := by
    rw [← hproper.splitLines_text, htext]
    rfl
  have hcount : (Document.ofText text).lineCount = layout.lines.length :=
    congrArg List.length hlines
  refine ⟨layout, ⟨hproper, htext⟩, ?_, hlines, hproper.map_stripTerminator.symm, hcount, ?_, ?_,
    ?_, ?_, ?_⟩
  · intro other hother htext'
    exact hother.eq_of_text_eq hproper (htext'.trans htext.symm)
  · rw [hcount, LineLayout.length_lines]
    exact Nat.le_add_left 1 _
  · intro index line
    rw [Document.line?, hlines]
    exact List.getElem?_eq_some_iff
  · intro index hindex
    apply Document.lineLength_of_line?
    rw [Document.line?, hlines, List.getElem?_eq_getElem hindex]
  · intro index hindex
    exact Document.lineLength_of_le _ (hcount ▸ hindex)
  · rw [Document.filterMap_line?_range, hlines]

end DialogueIndex
