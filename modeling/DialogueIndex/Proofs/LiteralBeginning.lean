import DialogueIndex.Proofs.NameKey
import DialogueIndex.Proofs.Resolution
import DialogueIndex.Proofs.Text.SpaceCase

/-! # Targets that are written as a name begins

A target that is, character for character, the beginning of a name is resolved. The one exception is
a target that breaks off a word behind a capital sigma: the target has a final sigma in lower case,
and the name has none there.
-/

namespace DialogueIndex

/-! ## Keys of longer names -/

theorem exists_collapseFrom_append (inRun : Bool) (cs rest : List Char) :
    ∃ inRun', collapseFrom inRun (cs ++ rest) =
      collapseFrom inRun cs ++ collapseFrom inRun' rest := by
  induction cs generalizing inRun with
  | nil => exact ⟨inRun, rfl⟩
  | cons c cs ih =>
      rw [List.cons_append, collapseFrom, collapseFrom]
      split_ifs
      · exact ih true
      · obtain ⟨inRun', hrest⟩ := ih true
        exact ⟨inRun', by rw [hrest, List.cons_append]⟩
      · obtain ⟨inRun', hrest⟩ := ih false
        exact ⟨inRun', by rw [hrest, List.cons_append]⟩

theorem mem_collapseFrom {c : Char} (hspace : isSpace c = false) {cs : List Char} (hc : c ∈ cs)
    (inRun : Bool) : c ∈ collapseFrom inRun cs := by
  induction cs generalizing inRun with
  | nil => cases hc
  | cons d rest ih =>
      rw [collapseFrom]
      rcases List.mem_cons.mp hc with rfl | hrest
      · rw [if_neg (by simp [hspace])]
        exact List.mem_cons_self
      · split_ifs
        · exact ih hrest true
        · exact List.mem_cons_of_mem _ (ih hrest true)
        · exact List.mem_cons_of_mem _ (ih hrest false)

/-- The key of a name is longer than that of a beginning of it that leaves out more than white
space. -/
theorem nameKey_ne_of_append {name target : String} {rest : List Char} {c : Char}
    (hname : name.toList = target.toList ++ rest) (hc : c ∈ rest) (hspace : isSpace c = false) :
    nameKey name ≠ nameKey target := by
  obtain ⟨inRun, hcollapse⟩ := exists_collapseFrom_append false target.toList rest
  have hne : lowercase (collapseFrom inRun rest) ≠ [] :=
    mt lowercase_eq_nil_iff.mp (List.ne_nil_of_mem (mem_collapseFrom hspace hc inRun))
  intro hkey
  have hlength := congrArg List.length (congrArg String.toList hkey)
  rw [nameKey_toList, nameKey_toList, hname, collapseSpaces, collapseSpaces, hcollapse,
    length_lowercase_append, Nat.add_eq_left] at hlength
  exact hne (List.length_eq_zero_iff.mp hlength)

/-! ## Resolving beginnings -/

/-- A section is found by the beginning of its name as it is written, unless the beginning breaks
off a word behind a capital sigma. -/
theorem Section.beginsWith_iff_of_append {s : Section} {target : String} {rest : List Char}
    (hname : s.name.toList = target.toList ++ rest) :
    s.BeginsWith target ↔ ¬ (EndsInSigma [] target.toList ∧ startsCased rest) := by
  rw [BeginsWith, hname, lowercase_prefix_iff]

/-- Where a beginning breaks off a word, the key of the name does not match either. -/
theorem Section.not_hasKeyOf_of_append {s : Section} {target : String} {rest : List Char}
    (hname : s.name.toList = target.toList ++ rest) (hcased : startsCased rest) :
    ¬ s.HasKeyOf target := by
  obtain ⟨c, hc, hcased⟩ := exists_isCased_of_startsCased hcased
  exact nameKey_ne_of_append hname hc (isSpace_eq_false_of_isCased hcased)

/-- A target that is a beginning of the name of a section as it is written is resolved, unless it
breaks off a word behind a capital sigma. If it does, the section is found in neither tier. -/
theorem literal_beginning_resolves {target : String} {sections : List Section} {s : Section}
    (hs : s ∈ sections) {rest : List Char} (hname : s.name.toList = target.toList ++ rest) :
    (¬ (EndsInSigma [] target.toList ∧ startsCased rest) → (resolve target sections).isSome) ∧
    ((resolve target [s]).isSome ↔ ¬ (EndsInSigma [] target.toList ∧ startsCased rest)) := by
  have hbegins := Section.beginsWith_iff_of_append hname
  refine ⟨?_, ?_⟩
  · intro hwhole
    exact (resolve_isSome_iff target sections).mpr ⟨s, hs, Or.inr (hbegins.mpr hwhole)⟩
  · rw [resolve_isSome_iff, ← hbegins]
    constructor
    · rintro ⟨t, ht, hkey | hstart⟩
      · obtain rfl := List.mem_singleton.mp ht
        rw [hbegins]
        exact fun hbroken => Section.not_hasKeyOf_of_append hname hbroken.2 hkey
      · exact List.mem_singleton.mp ht ▸ hstart
    · exact fun hstart => ⟨s, List.mem_singleton_self s, Or.inr hstart⟩

/-- A word that is longer than `ΟΔΟΣ`, and a name that has it for its first word. -/
def streetSections : List Section := [⟨"ΟΔΟΣΑ", 0, 0⟩, ⟨"ΟΔΟΣ ΑΒ", 2, 0⟩]

theorem literal_beginning_resolves_whole_word :
    ⟨"ΟΔΟΣ ΑΒ", 2, 0⟩ ∈ streetSections ∧ EndsInSigma [] "ΟΔΟΣ".toList ∧
      (Section.mk "ΟΔΟΣ ΑΒ" 2 0).name.toList = "ΟΔΟΣ".toList ++ " ΑΒ".toList ∧
      (resolve "ΟΔΟΣ" streetSections).isSome := by
  have hs : ⟨"ΟΔΟΣ ΑΒ", 2, 0⟩ ∈ streetSections := by decide
  have hname : (Section.mk "ΟΔΟΣ ΑΒ" 2 0).name.toList = "ΟΔΟΣ".toList ++ " ΑΒ".toList := by
    decide +kernel
  have hwhole : startsCased " ΑΒ".toList = false := by decide +kernel
  refine ⟨hs, ⟨['Ο', 'Δ', 'Ο'], [], by decide +kernel, by decide +kernel, List.forall_mem_nil _⟩,
    hname, (literal_beginning_resolves hs hname).1 ?_⟩
  rintro ⟨_, hcased⟩
  rw [hwhole] at hcased
  cases hcased

/-- A target that breaks off a word behind a capital sigma is not resolved. -/
theorem broken_word_not_resolved :
    "ΟΔΟΣ".toList <+: (Section.mk "ΟΔΟΣΑ" 0 0).name.toList ∧
      resolve "ΟΔΟΣ" [⟨"ΟΔΟΣΑ", 0, 0⟩] = none := by
  refine ⟨⟨['Α'], by decide +kernel⟩, by decide +kernel⟩

end DialogueIndex
