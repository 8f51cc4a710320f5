import DialogueIndex.Proofs.NameKey
import DialogueIndex.Proofs.Resolution
import DialogueIndex.Proofs.Text.SpaceCase

/-! # The case of targets

White space may be collapsed before or after lower-casing, since an underscore ends a word as white
space does. So a target has the key of its lower-case form and is resolved as that is. A target that
is the whole name of a section in lower case has the key of the section; what is found by its
beginning only has a longer name.
-/

namespace DialogueIndex

/-! ## Collapsing and lower-casing -/

theorem collapseFrom_append_of_forall {cs : List Char} (hne : cs ≠ [])
    (hcs : ∀ c ∈ cs, isSpace c = false) (inRun : Bool) (rest : List Char) :
    collapseFrom inRun (cs ++ rest) = cs ++ collapseFrom false rest := by
  induction cs generalizing inRun with
  | nil => exact absurd rfl hne
  | cons c cs ih =>
      obtain ⟨hc, hcs⟩ := List.forall_mem_cons.mp hcs
      rw [List.cons_append, collapseFrom, if_neg (by simp [hc]), List.cons_append]
      cases cs with
      | nil => rfl
      | cons d cs => rw [ih (List.cons_ne_nil d cs) hcs]

/-- A word goes on in a collapsed text if it does in the text. -/
theorem startsCased_collapseFrom (cs : List Char) :
    startsCased (collapseFrom false cs) = startsCased cs := by
  induction cs with
  | nil => rfl
  | cons c rest ih =>
      rw [collapseFrom]
      split
      next hspace =>
        rw [startsCased_cons_of_isSpace hspace]
        rfl
      next => rw [startsCased_cons, startsCased_cons, ih]

/-- A character that is not white space has the same form in front of two texts if a word goes on in
both or in neither. -/
theorem exists_lowerFrom_cons {c : Char} (hc : isSpace c = false) (seen : List Char)
    {first second : List Char} (hnext : startsCased first = startsCased second) :
    ∃ form, form ≠ [] ∧ (∀ d ∈ form, isSpace d = false) ∧
      lowerFrom (startsCased seen) (c :: first) =
        form ++ lowerFrom (startsCased (c :: seen)) first ∧
      lowerFrom (startsCased seen) (c :: second) =
        form ++ lowerFrom (startsCased (c :: seen)) second := by
  by_cases hsigma : c = 'Σ'
  · -- Only a sigma looks at what is behind it.
    subst hsigma
    refine ⟨[if startsCased seen && !startsCased first then 'ς' else 'σ'], List.cons_ne_nil _ _,
      ?_, lowerFrom_sigma seen first, ?_⟩
    · refine List.forall_mem_singleton.mpr ?_
      split <;> rfl
    · rw [lowerFrom_sigma, hnext]
      rfl
  · exact ⟨lowerChar c, lowerChar_ne_nil c, fun d hd => isSpace_eq_false_of_mem_lowerChar hc hd,
      lowerFrom_cons_of_ne hsigma seen first, lowerFrom_cons_of_ne hsigma seen second⟩

/-- The induction is on the text behind what has been `seen`. Within a run of white space nothing
cased comes just before, which is what lower-casing finds behind the underscore as well. -/
theorem collapseFrom_lowerFrom {inRun : Bool} {seen : List Char}
    (hrun : inRun → startsCased seen = false) (cs : List Char) :
    collapseFrom inRun (lowerFrom (startsCased seen) cs) =
      lowerFrom (startsCased seen) (collapseFrom inRun cs) := by
  induction cs generalizing inRun seen with
  | nil => rfl
  | cons c rest ih =>
      cases hspace : isSpace c with
      | true =>
          have hlower := isLower_of_isSpace hspace
          have hseen := startsCased_cons_of_isSpace hspace seen
          rw [lowerFrom_cons_of_ne hlower.ne_sigma, hlower.lowerChar_eq, List.singleton_append,
            collapseFrom, if_pos hspace, collapseFrom, if_pos hspace, ih fun _ => hseen, hseen]
          cases inRun with
          | true =>
              rw [hrun rfl]
              rfl
          | false => rfl
      | false =>
          obtain ⟨form, hne, hform, hfirst, hsecond⟩ :=
            exists_lowerFrom_cons hspace seen (startsCased_collapseFrom rest).symm
          have hrest : collapseFrom false (lowerFrom (startsCased (c :: seen)) rest) =
              lowerFrom (startsCased (c :: seen)) (collapseFrom false rest) :=
            ih fun hrun => absurd hrun Bool.false_ne_true
          have hkept : collapseFrom inRun (c :: rest) = c :: collapseFrom false rest := by
            rw [collapseFrom, if_neg (by simp [hspace])]
          rw [hkept, hfirst, hsecond, collapseFrom_append_of_forall hne hform, hrest]

theorem collapseSpaces_lowercase (cs : List Char) :
    collapseSpaces (lowercase cs) = lowercase (collapseSpaces cs) := by
  have hcollapse : collapseFrom false (lowerFrom (startsCased []) cs) = _ :=
    collapseFrom_lowerFrom (fun hrun => absurd hrun Bool.false_ne_true) cs
  exact hcollapse

/-! ## Keys of lower-case names -/

theorem toList_lowered (text : String) : (lowered text).toList = lowercase text.toList :=
  String.toList_ofList

/-- Letter case does not count in a key. -/
theorem nameKey_lowered (name : String) : nameKey (lowered name) = nameKey name := by
  apply String.toList_injective
  rw [nameKey_toList, nameKey_toList, toList_lowered, collapseSpaces_lowercase,
    lowercase_lowercase]

/-! ## Resolving lower-case targets -/

theorem resolve_lowered (target : String) (sections : List Section) :
    resolve (lowered target) sections = resolve target sections := by
  have hexact : exactMatch? (lowered target) sections = exactMatch? target sections := by
    rw [exactMatch?, exactMatch?, nameKey_lowered]
  have hleading : leadingMatch? (lowered target) sections = leadingMatch? target sections := by
    rw [leadingMatch?, leadingMatch?, toList_lowered, lowercase_lowercase]
  rw [resolve, resolve, hexact, hleading]

/-- A section whose name is the target in lower case is found by its key. -/
theorem Section.hasKeyOf_of_lowered_eq {s : Section} {target : String}
    (hname : lowered s.name = lowered target) : s.HasKeyOf target := by
  rw [HasKeyOf, key, ← nameKey_lowered, hname, nameKey_lowered]

/-- A target and its lower-case form are resolved alike, to the same section in the same tier. If
that is the second tier, the name of the section goes on in lower case behind the target, and no
section has the target for its name in lower case. -/
theorem resolve_ignores_case_whole_names_first (target : String) (sections : List Section) :
    resolve (lowered target) sections = resolve target sections ∧
    ∀ s, resolve target sections = some ⟨s, .leading⟩ →
      (∃ rest, rest ≠ "" ∧ lowered s.name = lowered target ++ rest) ∧
      ∀ t ∈ sections, lowered t.name ≠ lowered target := by
  refine ⟨resolve_lowered target sections, ?_⟩
  intro s hs
  obtain ⟨hkeyless, hfirst⟩ := resolve_eq_some_leading_iff.mp hs
  have hwhole : ∀ t ∈ sections, lowered t.name ≠ lowered target :=
    fun t ht hname => hkeyless t ht (Section.hasKeyOf_of_lowered_eq hname)
  refine ⟨?_, hwhole⟩
  obtain ⟨rest, hrest⟩ : lowercase target.toList <+: lowercase s.name.toList := hfirst.holds
  have hname : lowered s.name = lowered target ++ String.ofList rest := by
    rw [lowered, ← hrest, String.ofList_append, lowered]
  refine ⟨String.ofList rest, ?_, hname⟩
  intro hempty
  rw [hempty, String.append_empty] at hname
  exact hwhole s hfirst.mem hname

end DialogueIndex
