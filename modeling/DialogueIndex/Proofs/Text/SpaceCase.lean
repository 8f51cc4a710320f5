import DialogueIndex.Proofs.Text.FinalSigma

/-! # White space and case

White space has no case, is not case-ignorable and is left alone by lower-casing. So it ends a word
for a sigma on either side of it, and lower-casing makes white space of nothing else.
-/

namespace DialogueIndex

theorem casedRanges_apart_spaceRanges : casedRanges.apart spaceRanges := by decide +kernel

theorem caseIgnorableRanges_apart_spaceRanges : caseIgnorableRanges.apart spaceRanges := by
  decide +kernel

theorem lowerRuns_apart_spaceRanges :
    CodeRanges.apart (lowerRuns.map fun run => (run.first, run.last)) spaceRanges := by
  decide +kernel

theorem isSpace_eq_false_of_isCased {c : Char} (hc : isCased c) : isSpace c = false :=
  CodeRanges.contains_eq_false_of_apart casedRanges_apart_spaceRanges hc

theorem isSpace_eq_false_of_isCaseIgnorable {c : Char} (hc : isCaseIgnorable c) :
    isSpace c = false :=
  CodeRanges.contains_eq_false_of_apart caseIgnorableRanges_apart_spaceRanges hc

/-- In front of white space no word goes on, and behind it none has begun. -/
theorem startsCased_cons_of_isSpace {c : Char} (hc : isSpace c) (cs : List Char) :
    startsCased (c :: cs) = false := by
  have hcased : ¬ isCased c := fun h => by simp [isSpace_eq_false_of_isCased h] at hc
  have hignorable : ¬ isCaseIgnorable c :=
    fun h => by simp [isSpace_eq_false_of_isCaseIgnorable h] at hc
  rw [startsCased_cons, if_neg hignorable]
  simpa using hcased

theorem isLower_of_isSpace {c : Char} (hc : isSpace c) : IsLower c := by
  refine isLower_of_lowerRun? ?_ ?_
  · rintro rfl
    cases hc
  · rw [Option.eq_none_iff_forall_ne_some]
    intro run hrun
    obtain ⟨hmem, hcovers⟩ := lowerRun?_eq_some hrun
    obtain ⟨hfirst, hlast, _⟩ := CaseRun.covers_iff.mp hcovers
    obtain ⟨range, hrange, hlow, hhigh⟩ := CodeRanges.exists_of_contains hc
    have hruns := List.all_eq_true.mp lowerRuns_apart_spaceRanges (run.first, run.last)
      (List.mem_map_of_mem hmem)
    have hapart := List.all_eq_true.mp hruns range hrange
    simp only [Bool.or_eq_true, decide_eq_true_eq] at hapart
    omega

theorem isSpace_eq_false_of_mem_lowerChar {c d : Char} (hc : isSpace c = false)
    (hd : d ∈ lowerChar c) : isSpace d = false := by
  rcases mem_lowerChar hd with ⟨rfl, _⟩ | hform
  · exact hc
  · exact hform.notSpace

end DialogueIndex
