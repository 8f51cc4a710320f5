import DialogueIndex.Proofs.TargetCase

/-! # Spellings of names

A key is what all spellings of a name have in common. A name may be spelled with any white space, or
with an underscore, where it has a run of white space, and in lower case; its key is one of the
spellings. Whichever is looked up, the first section with the key is found.
-/

namespace DialogueIndex

/-- What may be written for a run of white space: white space of any amount and kind, or one
underscore. -/
def IsGap (gap : List Char) : Prop :=
  gap = ['_'] ∨ gap ≠ [] ∧ ∀ c ∈ gap, isSpace c

/-- A text that is a name but for the gaps in place of the runs of white space of the name. -/
inductive IsSpelledAs : List Char → List Char → Prop
  | nil : IsSpelledAs [] []
  | keep {c : Char} {name spelled : List Char} (hc : isSpace c = false)
      (hrest : IsSpelledAs name spelled) : IsSpelledAs (c :: name) (c :: spelled)
  | replace (spaces gap : List Char) {name spelled : List Char} (hne : spaces ≠ [])
      (hspaces : ∀ c ∈ spaces, isSpace c) (hhead : ∀ c ∈ name.head?, isSpace c = false)
      (hgap : IsGap gap) (hrest : IsSpelledAs name spelled) :
      IsSpelledAs (spaces ++ name) (gap ++ spelled)

/-! ## Collapsed spellings -/

theorem collapseFrom_of_head? {cs : List Char} (hhead : ∀ c ∈ cs.head?, isSpace c = false)
    (inRun : Bool) : collapseFrom inRun cs = collapseFrom false cs := by
  cases cs with
  | nil => rfl
  | cons c rest =>
      have hc : ¬ isSpace c := by simp [hhead c rfl]
      rw [collapseFrom, if_neg hc, collapseFrom, if_neg hc]

theorem collapseFrom_true_append {spaces : List Char} (hspaces : ∀ c ∈ spaces, isSpace c)
    (rest : List Char) : collapseFrom true (spaces ++ rest) = collapseFrom true rest := by
  induction spaces with
  | nil => rfl
  | cons c spaces ih =>
      obtain ⟨hc, hspaces⟩ := List.forall_mem_cons.mp hspaces
      rw [List.cons_append, collapseFrom, if_pos hc, if_pos rfl, ih hspaces]

/-- A gap leaves one underscore, as a run of white space does. -/
theorem collapseFrom_gap_append {gap rest : List Char} (hgap : IsGap gap)
    (hhead : ∀ c ∈ rest.head?, isSpace c = false) :
    collapseFrom false (gap ++ rest) = '_' :: collapseFrom false rest := by
  rcases hgap with rfl | ⟨hne, hspaces⟩
  · rfl
  · obtain ⟨c, spaces, rfl⟩ := List.exists_cons_of_ne_nil hne
    obtain ⟨hc, hspaces⟩ := List.forall_mem_cons.mp hspaces
    rw [List.cons_append, collapseFrom, if_pos hc, collapseFrom_true_append hspaces,
      collapseFrom_of_head? hhead]
    rfl

namespace IsSpelledAs

/-- A spelling of a name that begins with no white space begins as the name does. -/
theorem head?_eq {name spelled : List Char} (hspelled : IsSpelledAs name spelled)
    (hhead : ∀ c ∈ name.head?, isSpace c = false) : spelled.head? = name.head? := by
  cases hspelled with
  | nil => rfl
  | keep => rfl
  | replace spaces gap hne hspaces =>
      obtain ⟨c, spaces, rfl⟩ := List.exists_cons_of_ne_nil hne
      have hc := hspaces c List.mem_cons_self
      rw [hhead c rfl] at hc
      cases hc

theorem collapseSpaces_eq {name spelled : List Char} (hspelled : IsSpelledAs name spelled) :
    collapseSpaces spelled = collapseSpaces name := by
  rw [collapseSpaces, collapseSpaces]
  induction hspelled with
  | nil => rfl
  | @keep c name spelled hc hrest ih =>
      have hspace : ¬ isSpace c := by simp [hc]
      rw [collapseFrom, if_neg hspace, collapseFrom, if_neg hspace, ih]
  | replace spaces gap hne hspaces hhead hgap hrest ih =>
      have hspelledHead := hrest.head?_eq hhead ▸ hhead
      rw [collapseFrom_gap_append hgap hspelledHead,
        collapseFrom_gap_append (Or.inr ⟨hne, hspaces⟩) hhead, ih]

end IsSpelledAs

/-! ## Sections by their spellings -/

/-- Whether a target is a spelling of the name of a section, as it is or in lower case, or its
key. -/
def Section.AnswersTo (target : String) (s : Section) : Prop :=
  target = s.key ∨ ∃ spelled, IsSpelledAs s.name.toList spelled ∧
    (target = String.ofList spelled ∨ target = lowered (String.ofList spelled))

/-- Keys are made without trimming. -/
theorem nameKey_eq_ofList (name : String) :
    nameKey name = String.ofList (lowercase (collapseSpaces name.toList)) := by
  rw [← nameKey_toList, String.ofList_toList]

theorem Section.AnswersTo.nameKey_eq {target : String} {s : Section}
    (hanswers : s.AnswersTo target) : nameKey target = s.key := by
  rcases hanswers with rfl | ⟨spelled, hspelled, htarget⟩
  · exact nameKey_nameKey s.name
  · have hkey : nameKey (String.ofList spelled) = s.key := by
      rw [nameKey_eq_ofList, String.toList_ofList, hspelled.collapseSpaces_eq,
        ← nameKey_eq_ofList, key]
    rcases htarget with rfl | rfl
    · exact hkey
    · rw [nameKey_lowered, hkey]

/-- Where a section answers to a target, the target leads to the first section with its key. -/
theorem exists_resolve_of_answersTo {sections : List Section} {s : Section} (hs : s ∈ sections)
    {target : String} (hanswers : s.AnswersTo target) :
    ∃ first, IsFirst (fun t => t.key = s.key) sections first ∧
      resolve target sections = some ⟨first, .exact⟩ := by
  obtain ⟨first, hfirst⟩ := exists_isFirst (P := fun t => t.key = s.key) hs rfl
  refine ⟨first, hfirst, resolve_eq_some_exact_iff.mpr ?_⟩
  rw [Section.hasKeyOf_eq hanswers.nameKey_eq]
  exact hfirst

/-- A key has no white space, is its own key and is not changed by trimming. Every spelling of the
name of a section leads to the first section with the key of that section, and so does the key. -/
theorem spellings_share_canonical_key :
    (∀ name : String, (∀ c ∈ (nameKey name).toList, isSpace c = false) ∧
      nameKey (nameKey name) = nameKey name ∧
      nameKey name = String.ofList (lowercase (collapseSpaces name.toList))) ∧
    ∀ (sections : List Section), ∀ s ∈ sections, ∀ target, s.AnswersTo target →
      ∃ first, IsFirst (fun t => t.key = s.key) sections first ∧
        resolve target sections = some ⟨first, .exact⟩ := by
  refine ⟨?_, ?_⟩
  · intro name
    exact ⟨fun c hc => isSpace_eq_false_of_mem_nameKey hc, nameKey_nameKey name,
      nameKey_eq_ofList name⟩
  · intro sections s hs target hanswers
    exact exists_resolve_of_answersTo hs hanswers

/-- Three names of which the second and the third differ in case and white space only. The first has
another small sigma. -/
def wordSections : List Section := [⟨"Οσ α", 0, 0⟩, ⟨"Ος\tα", 2, 0⟩, ⟨"ΟΣ  Α", 4, 0⟩]

theorem spellings_share_canonical_key_final_sigma :
    ⟨"ΟΣ  Α", 4, 0⟩ ∈ wordSections ∧ Section.AnswersTo "ος_α" ⟨"ΟΣ  Α", 4, 0⟩ ∧
      (∃ first, IsFirst (fun t => t.key = Section.key ⟨"ΟΣ  Α", 4, 0⟩) wordSections first ∧
        resolve "ος_α" wordSections = some ⟨first, .exact⟩) ∧
      resolve "ος_α" wordSections = some ⟨⟨"Ος\tα", 2, 0⟩, .exact⟩ := by
  have hs : ⟨"ΟΣ  Α", 4, 0⟩ ∈ wordSections := by decide +kernel
  have hspelled : IsSpelledAs ['Ο', 'Σ', ' ', ' ', 'Α'] ['Ο', 'Σ', '_', 'Α'] := by
    refine .keep rfl (.keep rfl (.replace [' ', ' '] ['_'] (List.cons_ne_nil _ _)
      (List.all_eq_true.mp rfl) ?_ (Or.inl rfl) (.keep rfl .nil)))
    intro c hc
    cases hc
    rfl
  have hanswers : Section.AnswersTo "ος_α" ⟨"ΟΣ  Α", 4, 0⟩ :=
    Or.inr ⟨_, hspelled, Or.inr (by decide +kernel)⟩
  have hfound := spellings_share_canonical_key.2 wordSections _ hs _ hanswers
  exact ⟨hs, hanswers, hfound, by decide +kernel⟩

end DialogueIndex
