import DialogueIndex.Proofs.Concatenation
import DialogueIndex.Proofs.Reference

/-! # Links to sections

A section whose key is a token can be reached: a link to the key, on a line of its own behind the
text, leads to the first section with the key. The line opens no section, so that the sections are
those of the text, and the key is its own key, so that the token is looked up as it is written.
-/

namespace DialogueIndex

/-- What stands in front of the token of a link. -/
def linkHead : List Char := ['=', '>', ' ']

section

variable {key : List Char} (hkey : ∀ c ∈ key, isTokenChar c)

include hkey

/-- A link is on one line. -/
theorem lines_link :
    (Document.ofText (String.ofList (linkHead ++ key))).lines = [linkHead ++ key] := by
  have hhead : ∀ c ∈ linkHead, LineLayout.isPlain c := List.all_eq_true.mp (by decide)
  have hplain : ∀ c ∈ linkHead ++ key, LineLayout.isPlain c := by
    refine List.forall_mem_append.mpr ⟨hhead, ?_⟩
    intro c hc
    -- What ends a line is white space, and tokens have none.
    have hspace := isSpace_eq_false_of_isTokenChar (hkey c hc)
    by_contra hends
    rcases LineLayout.eq_of_not_isPlain hends with rfl | rfl
    · cases hspace
    · cases hspace
  rw [Document.lines_ofText, String.toList_ofList]
  simpa using splitLines_append hplain []

theorem scan_link : scan (String.ofList (linkHead ++ key)) = [] := by
  rw [scan, Document.sections, lines_link hkey]
  rfl

/-- Every cursor from the start of the token on touches the token, also one beyond the line. -/
theorem touchesRun_link (hne : key ≠ []) {text : String} (hend : text.toList.getLast? ≠ some '\r')
    (beyond : Nat) :
    TouchesRun (text ++ "\n" ++ String.ofList (linkHead ++ key))
      ⟨(Document.ofText text).lineCount, linkHead.length + beyond⟩ key := by
  refine ⟨linkHead ++ key, ?_, ?_, linkHead, [], by rw [List.append_nil], ?_, ?_, ?_⟩
  · rw [← Nat.add_zero (Document.ofText text).lineCount, line?_append_feed hend, Document.line?,
      lines_link hkey]
    rfl
  · exact ⟨[], ' ' :: key, rfl⟩
  · refine ⟨hne, hkey, ?_, by simp⟩
    intro c hc
    cases hc
    decide +kernel
  · dsimp only
    rw [List.length_append]
    omega
  · rw [List.length_append]
    exact Nat.min_le_right _ _

end

/-- A link to the key of a section, written behind the text, leads to the first section with that
key, wherever in the token or behind it the cursor is. -/
theorem locate_appended_link {text : String} (hend : text.toList.getLast? ≠ some '\r') {s : Section}
    (hs : s ∈ scan text) (hkey : ∀ c ∈ s.key.toList, isTokenChar c) (beyond : Nat) :
    ∃ first, IsFirst (fun t => t.key = s.key) (scan text) first ∧
      locate (text ++ "\n=> " ++ s.key) ⟨(Document.ofText text).lineCount, 3 + beyond⟩ =
        some first.position := by
  obtain ⟨first, hfirst⟩ := exists_isFirst (P := fun t => t.key = s.key) hs rfl
  refine ⟨first, hfirst, ?_⟩
  have hlink : text ++ "\n=> " ++ s.key =
      text ++ "\n" ++ String.ofList (linkHead ++ s.key.toList) := by
    have hhead : "\n=> " = "\n" ++ String.ofList linkHead := by decide
    rw [hhead, String.ofList_append, String.ofList_toList]
    simp only [String.append_assoc]
  have hne : s.key.toList ≠ [] := nameKey_toList_ne_nil (Document.name_ne_empty_of_mem_sections hs)
  have hscan : scan (text ++ "\n" ++ String.ofList (linkHead ++ s.key.toList)) = scan text := by
    rw [scan_append_feed hend, scan_link hkey, List.map_nil, List.append_nil]
  have hexact : IsFirst (Section.HasKeyOf s.key) (scan text) first := by
    -- The token is looked up by its own key, which is the token again.
    have hown : Section.HasKeyOf s.key = fun t => t.key = s.key := by
      funext t
      rw [Section.HasKeyOf, Section.key, Section.key, nameKey_nameKey]
    rw [hown]
    exact hfirst
  rw [hlink, locate_eq_some_iff]
  refine ⟨s.key.toList, ⟨first, .exact⟩, touchesRun_link hkey hne hend beyond, ?_, rfl⟩
  rw [hscan, String.ofList_toList]
  exact (resolve_eq_some_iff _ _ _).mpr (Or.inl ⟨rfl, hexact⟩)

/-- A text with two sections of one key, which differ in case and in the letter at the end. -/
def twinText : String := "~ ΟΔΟΣ\r\n ~ οδος"

theorem locate_appended_link_twin :
    (twinText.toList.getLast? ≠ some '\r' ∧ ⟨"οδος", 1, 1⟩ ∈ scan twinText ∧
      ∀ c ∈ (Section.key ⟨"οδος", 1, 1⟩).toList, isTokenChar c) ∧
    ∃ first, IsFirst (fun t => t.key = Section.key ⟨"οδος", 1, 1⟩) (scan twinText) first ∧
      locate (twinText ++ "\n=> " ++ Section.key ⟨"οδος", 1, 1⟩)
        ⟨(Document.ofText twinText).lineCount, 3 + 7⟩ = some first.position := by
  have hend : twinText.toList.getLast? ≠ some '\r' := by decide +kernel
  have hmem : ⟨"οδος", 1, 1⟩ ∈ scan twinText := by decide +kernel
  have hkey : ∀ c ∈ (Section.key ⟨"οδος", 1, 1⟩).toList, isTokenChar c :=
    List.all_eq_true.mp (by decide +kernel)
  exact ⟨⟨hend, hmem, hkey⟩, locate_appended_link hend hmem hkey 7⟩

end DialogueIndex
