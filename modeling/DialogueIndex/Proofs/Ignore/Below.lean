import DialogueIndex.Ignore.Filter
import DialogueIndex.Proofs.Path.Descend

/-! # What filters say of paths below their root

A filter judges a path below its root by the names on the way down, and not by how the root is
written or where it is. Only a root that is a dot, a slash and one more name of the working
directory is not taken off the paths that rules are told.
-/

namespace DialogueIndex

/-- Whether a path is a dot and a slash in front of another name of the same directory. -/
def Path.IsDoubledDot (p : Path) : Prop :=
  ∃ rest, p.text.toList = '.' :: '/' :: rest ∧ (⟨String.ofList rest⟩ : Path).Same ⟨"."⟩

namespace Path

theorem not_isDoubledDot_of_head? {p : Path} (hhead : p.text.toList.head? ≠ some '.') :
    ¬ p.IsDoubledDot := by
  rintro ⟨rest, htext, _⟩
  rw [htext] at hhead
  exact hhead rfl

/-- A path of nothing but the special dot is a dot, behind which a slash may stand. -/
theorem here_of_same {p : Path} (hsame : p.Same ⟨"."⟩) :
    p.text.toList = ['.'] ∨ ∃ rest, p.text.toList = '.' :: '/' :: rest := by
  have hhere : p.components = [.here] := hsame
  rw [components, componentsOf] at hhere
  cases hstart : start? p.text.toList with
  | none =>
      -- Pieces stand for names and for steps up.
      rw [hstart, Option.toList_none, List.nil_append] at hhere
      obtain ⟨piece, _, hpiece⟩ := List.mem_map.mp (hhere ▸ List.mem_singleton_self Component.here)
      rw [componentOf] at hpiece
      split at hpiece <;> cases hpiece
  | some start =>
      rw [hstart, Option.toList_some, List.singleton_append] at hhere
      obtain ⟨rfl, _⟩ := List.cons_eq_cons.mp hhere
      unfold start? at hstart
      split at hstart
      next => cases hstart
      next heq => exact Or.inl heq
      next rest heq => exact Or.inr ⟨rest, heq⟩
      next => cases hstart

end Path

namespace IgnoreRule

theorem dropHere_cases (text : List Char) :
    text = '.' :: '/' :: dropHere text ∨ dropHere text = text := by
  unfold dropHere
  split
  · exact Or.inl rfl
  · exact Or.inr rfl

theorem dropHere_of_not {c d : Char} (hhere : ¬ (c = '.' ∧ d = '/')) (rest : List Char) :
    dropHere (c :: d :: rest) = c :: d :: rest := by
  unfold dropHere
  split
  next heq =>
    obtain ⟨hc, hrest⟩ := List.cons_eq_cons.mp heq
    exact absurd ⟨hc, (List.cons_eq_cons.mp hrest).1⟩ hhere
  next => rfl

/-- In front of a slash, only a dot alone is taken for a dot and a slash. -/
theorem dropHere_append_slash {trunk : List Char} (htrunk : trunk ≠ ['.']) (below : List Char) :
    dropHere (trunk ++ '/' :: below) = dropHere trunk ++ '/' :: below := by
  rcases trunk with _ | ⟨c, _ | ⟨d, rest⟩⟩
  · rfl
  · have hdot : c ≠ '.' := fun h => htrunk (by rw [h])
    simp [dropHere, hdot]
  · by_cases hhere : c = '.' ∧ d = '/'
    · obtain ⟨rfl, rfl⟩ := hhere
      rfl
    · rw [dropHere_of_not hhere]
      exact dropHere_of_not hhere _

/-- Without a dot and a slash in front, a root is not the dot itself, unless it is doubled. -/
theorem not_same_dropHere {root : Path} (hdots : ¬ root.IsDoubledDot)
    (htrunk : root.trunk ≠ ['.']) :
    ¬ (⟨String.ofList (dropHere root.text.toList)⟩ : Path).Same ⟨"."⟩ := by
  intro hsame
  rcases dropHere_cases root.text.toList with hhere | hwhole
  · exact hdots ⟨_, hhere, hsame⟩
  · rw [hwhole, String.ofList_toList] at hsame
    rcases Path.here_of_same hsame with hdot | ⟨rest, hrest⟩
    · apply htrunk
      rw [Path.trunk, hdot]
      rfl
    · rw [hrest] at hwhole
      have hlength := congrArg List.length hwhole
      simp only [dropHere, List.length_cons] at hlength
      omega

theorem getD_behindChar? {text : List Char} (hhead : text.head? ≠ some '/') :
    (behindChar? '/' text).getD text = text := by
  cases text with
  | nil => rfl
  | cons c rest =>
      have hslash : c ≠ '/' := by simpa using hhead
      rw [behindChar?, if_neg hslash, Option.getD_none]

/-- Taking the text of a root off that of a path below leaves what is behind the slash. -/
theorem getD_behindChar?_drop {root trunk below : List Char}
    (hroot : root = trunk ∨ root = trunk ++ ['/']) (hhead : below.head? ≠ some '/') :
    (behindChar? '/' ((trunk ++ '/' :: below).drop root.length)).getD
      ((trunk ++ '/' :: below).drop root.length) = below := by
  rcases hroot with rfl | rfl
  · rw [List.drop_left, behindChar?, if_pos rfl, Option.getD_some]
  · rw [List.append_cons trunk '/' below, List.drop_left, getD_behindChar? hhead]

theorem isPrefixOf_append_slash {root trunk : List Char}
    (hroot : root = trunk ∨ root = trunk ++ ['/']) (below : List Char) :
    root.isPrefixOf (trunk ++ '/' :: below) := by
  rw [List.isPrefixOf_iff_prefix]
  rcases hroot with rfl | rfl
  · exact List.prefix_append _ _
  · rw [List.append_cons trunk '/' below]
    exact List.prefix_append _ _

/-- Rules are told the names below the root, however the root is written. -/
theorem candidate_descend {root : Path} (hroot : root.text ≠ "") (hdots : ¬ root.IsDoubledDot)
    {names : List String} (hne : names ≠ []) (hnames : ∀ name ∈ names, IsEntryName name) :
    candidate root (root.descend names) = Path.joinSlashes (names.map String.toList) := by
  have hpath := Path.descend_text_toList hroot hne hnames
  have hhead := Path.head?_joinSlashes_names hnames
  generalize Path.joinSlashes (names.map String.toList) = below at hpath hhead ⊢
  rw [candidate, hpath]
  by_cases htrunk : root.trunk = ['.']
  · -- The dot and the slash are dropped, and nothing else stands in front.
    rw [htrunk]
    rcases Path.text_eq_trunk root with htext | htext
    · rw [htext, htrunk, if_pos (Or.inl (by decide))]
      rfl
    · rw [htext, htrunk]
      change (if _ then below else if true then (behindChar? '/' below).getD below else below) = _
      rw [getD_behindChar? hhead, if_pos rfl, ite_self]
  · have habove : dropHere root.text.toList = dropHere root.trunk ∨
        dropHere root.text.toList = dropHere root.trunk ++ ['/'] := by
      rcases Path.text_eq_trunk root with htext | htext
      · exact Or.inl (congrArg dropHere htext)
      · rw [htext]
        exact Or.inr (dropHere_append_slash htrunk [])
    have hslash : (dropHere root.trunk ++ '/' :: below).contains '/' := by simp
    have hstripped : ¬ ((⟨String.ofList (dropHere root.text.toList)⟩ : Path).Same ⟨"."⟩ ∨
        ¬ (dropHere root.trunk ++ '/' :: below).contains '/') :=
      not_or_intro (not_same_dropHere hdots htrunk) (not_not_intro hslash)
    rw [dropHere_append_slash htrunk]
    dsimp only
    rw [if_neg hstripped, String.toList_ofList, if_pos (isPrefixOf_append_slash habove below),
      getD_behindChar?_drop habove hhead]

end IgnoreRule

namespace IgnoreFilter

/-- Whether a file or directory is left out, as far as the names from the root down to it tell. -/
def ignoresBelow (filter : IgnoreFilter) (names : List String) (isDirectory : Bool) : Bool :=
  let below := Path.joinSlashes (names.map String.toList)
  (!filter.includeHidden && names.getLast?.any (·.toList.head? == some '.')) ||
    filter.patterns.any (·.isMatch below) || IgnoreRule.ignores filter.rules below isDirectory

theorem ignores_descend {filter : IgnoreFilter} (hroot : filter.root.text ≠ "")
    (hdots : ¬ filter.root.IsDoubledDot) {names : List String} (hne : names ≠ [])
    (hnames : ∀ name ∈ names, IsEntryName name) (isDirectory : Bool) :
    filter.ignores (filter.root.descend names) isDirectory =
      filter.ignoresBelow names isDirectory := by
  rw [ignores, ignoresBelow, Path.descend_relativeTo hroot hnames hne,
    IgnoreRule.candidate_descend hroot hdots hne hnames, isHidden]
  dsimp only
  rw [Path.intercalate_toList, Path.fileName?_descend hroot hnames hne, Option.any_map]

end IgnoreFilter

end DialogueIndex
