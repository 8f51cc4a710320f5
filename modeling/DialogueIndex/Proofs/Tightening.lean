import DialogueIndex.Proofs.FileTree.Pruning
import DialogueIndex.Proofs.Ignore.Filter
import DialogueIndex.Proofs.Scanner

/-! # Configurations that leave out more

A configuration with fewer extensions, more patterns, a lower size limit and no more hidden names
lists fewer files. What it does list is listed as before, and in the same order.
-/

namespace DialogueIndex

/-! ## Parts of lists -/

/-- What is made of some members of a list is part of what is made of more of them. -/
theorem filterMap_sublist_filterMap {α β : Type} {f g : α → Option β}
    (hfg : ∀ a b, f a = some b → g a = some b) (as : List α) :
    (as.filterMap f).Sublist (as.filterMap g) := by
  induction as with
  | nil => exact List.Sublist.refl _
  | cons a rest ih =>
      cases hf : f a with
      | none =>
          rw [List.filterMap_cons_none hf]
          exact ih.trans ((List.sublist_cons_self a rest).filterMap g)
      | some b =>
          rw [List.filterMap_cons_some hf, List.filterMap_cons_some (hfg a b hf)]
          exact ih.cons_cons b

section Sorting

variable {α : Type} {le : α → α → Bool} (htrans : ∀ a b c, le a b → le b c → le a c)
  (htotal : ∀ a b, le a b || le b a)

include htrans htotal

/-- A further member of a list is sorted in front of all that it does not come behind. -/
theorem mergeSort_cons_eq (a : α) (l : List α) :
    (a :: l).mergeSort le =
      (l.mergeSort le).filter (!le a ·) ++ a :: (l.mergeSort le).filter (le a ·) := by
  obtain ⟨before, after, hcons, hsorted, hbefore⟩ := List.mergeSort_cons htrans htotal a l
  have hafter : ∀ b ∈ after, le a b := by
    have hpairwise := List.pairwise_mergeSort htrans htotal (a :: l)
    rw [hcons] at hpairwise
    exact (List.pairwise_cons.mp (List.pairwise_append.mp hpairwise).2.1).1
  have hfront : ∀ b ∈ before, ¬ le a b := by
    intro b hb
    simpa using hbefore b hb
  have hback : ∀ b ∈ after, ¬ !le a b := by
    intro b hb
    simpa using hafter b hb
  rw [hcons, hsorted, List.filter_append, List.filter_append, List.filter_eq_self.mpr hbefore,
    List.filter_eq_nil_iff.mpr hback, List.filter_eq_nil_iff.mpr hfront,
    List.filter_eq_self.mpr hafter, List.append_nil, List.nil_append]

/-- Sorting part of a list gives part of the sorted list, since sorting is stable. -/
theorem mergeSort_sublist_mergeSort {part whole : List α} (hpart : part.Sublist whole) :
    (part.mergeSort le).Sublist (whole.mergeSort le) := by
  induction hpart with
  | slnil => exact List.Sublist.refl _
  | @cons part whole a _ ih =>
      obtain ⟨before, after, hcons, hsorted, _⟩ := List.mergeSort_cons htrans htotal a whole
      rw [hcons]
      rw [hsorted] at ih
      exact ih.trans ((List.sublist_cons_self a after).append_left before)
  | @cons_cons part whole a _ ih =>
      rw [mergeSort_cons_eq htrans htotal, mergeSort_cons_eq htrans htotal]
      exact (ih.filter _).append ((ih.filter _).cons_cons a)

end Sorting

/-! ## Scans -/

/-- A configuration for the same project that leaves out at least as much as another one. -/
structure ScanConfig.Tightens (tight loose : ScanConfig) : Prop where
  root : tight.root = loose.root
  ignoreFile : tight.ignoreFile = loose.ignoreFile
  followLinks : tight.followLinks = loose.followLinks
  includeUntitled : tight.includeUntitled = loose.includeUntitled
  extensions : tight.extensions ⊆ loose.extensions
  ignorePatterns : loose.ignorePatterns ⊆ tight.ignorePatterns
  maxFileSize : tight.maxFileSize ≤ loose.maxFileSize
  includeHidden : tight.includeHidden → loose.includeHidden

namespace Scanner

variable {tree : FileTree} {tight loose : ScanConfig} {strict lenient : Scanner}
  (htightens : tight.Tightens loose) (hstrict : ofConfig tree tight = .ok strict)
  (hlenient : ofConfig tree loose = .ok lenient)

include htightens

theorem isDialogueFile_of_tightens {p : Path} (hp : tight.isDialogueFile p) :
    loose.isDialogueFile p := by
  rw [ScanConfig.isDialogueFile] at hp ⊢
  split at hp
  next extension =>
    rw [List.any_eq_true] at hp ⊢
    obtain ⟨wanted, hwanted, hsame⟩ := hp
    exact ⟨wanted, htightens.extensions hwanted, hsame⟩
  next => cases hp

include hstrict hlenient

theorem ignores_of_tightens {p : Path} {isDirectory : Bool}
    (hignored : lenient.filter.ignores p isDirectory) : strict.filter.ignores p isDirectory := by
  obtain ⟨_, hstrict⟩ := ofConfig_eq_ok_iff.mp hstrict
  obtain ⟨_, hlenient⟩ := ofConfig_eq_ok_iff.mp hlenient
  obtain ⟨own, standard, hown, hstandard, hfilter⟩ := IgnoreFilter.ofConfig_eq_ok_iff.mp hstrict
  obtain ⟨own', standard', hown', hstandard', hfilter'⟩ :=
    IgnoreFilter.ofConfig_eq_ok_iff.mp hlenient
  cases hstandard.symm.trans hstandard'
  have hrules : IgnoreFilter.ruleFiles tree tight = IgnoreFilter.ruleFiles tree loose := by
    rw [IgnoreFilter.ruleFiles, IgnoreFilter.ruleFiles, htightens.root, htightens.ignoreFile]
  have hsubset : own' ⊆ own := by
    intro pattern hpattern
    obtain ⟨text, htext, hread⟩ := (IgnoreFilter.mem_patternsOf_iff hown' pattern).mp hpattern
    exact (IgnoreFilter.mem_patternsOf_iff hown pattern).mpr
      ⟨text, htightens.ignorePatterns htext, hread⟩
  rw [hfilter'] at hignored
  rw [hfilter]
  refine IgnoreFilter.ignores_of_subset htightens.root (congrArg IgnoreFilter.rulesOf hrules) ?_
    htightens.includeHidden hignored
  exact List.append_subset.mpr ⟨List.subset_append_left standard own,
    List.Subset.trans hsubset (List.subset_append_right standard own)⟩

theorem isWithin_of_tightens : (strict.walk tree).IsWithin (lenient.walk tree) := by
  obtain ⟨rfl, _⟩ := ofConfig_eq_ok_iff.mp hstrict
  obtain ⟨rfl, _⟩ := ofConfig_eq_ok_iff.mp hlenient
  refine ⟨rfl, htightens.followLinks, ?_⟩
  intro p hp
  rw [enters_walk_iff] at hp ⊢
  by_contra hignored
  rw [Bool.not_eq_false] at hignored
  rw [ignores_of_tightens htightens hstrict hlenient hignored] at hp
  cases hp

theorem source?_of_tightens {visit : Visit} {p : Path} (hsource : strict.source? visit = some p) :
    lenient.source? visit = some p := by
  obtain ⟨rfl, _⟩ := ofConfig_eq_ok_iff.mp hstrict
  obtain ⟨rfl, _⟩ := ofConfig_eq_ok_iff.mp hlenient
  cases visit with
  | fault => cases hsource
  | leaf leaf =>
      rw [source?_leaf_eq_some_iff] at hsource ⊢
      obtain ⟨⟨hdialogue, hkept, hsmall⟩, hpath⟩ := hsource
      refine ⟨⟨isDialogueFile_of_tightens htightens hdialogue, ?_,
        Nat.le_trans hsmall htightens.maxFileSize⟩, hpath⟩
      by_contra hignored
      rw [Bool.not_eq_false] at hignored
      rw [ignores_of_tightens htightens hstrict hlenient hignored] at hkept
      cases hkept

/-- What both read, they outline alike. -/
theorem outline?_eq_of_tightens : strict.outline? tree = lenient.outline? tree := by
  obtain ⟨rfl, _⟩ := ofConfig_eq_ok_iff.mp hstrict
  obtain ⟨rfl, _⟩ := ofConfig_eq_ok_iff.mp hlenient
  funext p
  simp only [outline?, ScanConfig.outlineText, ScanConfig.shownEntries, htightens.root,
    htightens.includeUntitled]

theorem sources_sublist_of_tightens :
    (strict.sources tree).Sublist (lenient.sources tree) := by
  have hwithin := isWithin_of_tightens htightens hstrict hlenient
  obtain ⟨hroot, _⟩ := ofConfig_eq_ok_iff.mp hstrict
  obtain ⟨hroot', _⟩ := ofConfig_eq_ok_iff.mp hlenient
  rw [sources, sources, visits, visits, hroot, hroot', htightens.root]
  refine ((hwithin.visits_sublist loose.root).filterMap strict.source?).trans ?_
  apply filterMap_sublist_filterMap
  intro visit p
  exact source?_of_tightens htightens hstrict hlenient

end Scanner

/-- A scan that leaves out more lists part of what the other lists. The outlines of the files that
it still lists are the same. -/
theorem tighter_scan_sublist {tree : FileTree} {tight loose : ScanConfig}
    {strict lenient : Scanner} (htightens : tight.Tightens loose)
    (hstrict : Scanner.ofConfig tree tight = .ok strict)
    (hlenient : Scanner.ofConfig tree loose = .ok lenient) (measure : Nat → ScanMetadata) :
    (strict.scan tree measure).files.Sublist (lenient.scan tree measure).files := by
  have hsources := Scanner.sources_sublist_of_tightens htightens hstrict hlenient
  have houtline := Scanner.outline?_eq_of_tightens htightens hstrict hlenient
  change (strict.files tree).Sublist (lenient.files tree)
  rw [Scanner.files, Scanner.files, houtline]
  exact mergeSort_sublist_mergeSort Scanner.listedBefore_trans Scanner.listedBefore_total
    (hsources.filterMap _)

/-! ## A project with hidden files, drafts and notes -/

def shelfTree : FileTree where
  entries := [("notes.txt", .file "~ n\n".toUTF8),
    ("drafts", .directory [("b.dialogue", .file "~ b\n~ \n".toUTF8)]),
    (".c.dialogue", .file "~ c\n".toUTF8), ("a.dialogue", .file "~ a\n".toUTF8)]
  workingDirectory := []

/-- A configuration that leaves out little. -/
def openConfig : ScanConfig :=
  { ScanConfig.standard ⟨"."⟩ 1 with
    extensions := ["txt", ".dialogue"], ignorePatterns := ["*.bak"], includeHidden := true }

/-- A configuration that leaves out hidden files, drafts and notes. -/
def narrowConfig : ScanConfig :=
  { ScanConfig.standard ⟨"."⟩ 4 with
    extensions := [".dialogue"], ignorePatterns := ["drafts", "*.bak"], maxFileSize := 4 }

theorem narrowConfig_tightens_openConfig : narrowConfig.Tightens openConfig := by
  constructor <;> decide

theorem sources_shelf :
    (Scanner.ofConfig shelfTree openConfig).toOption.map (·.sources shelfTree) =
        some [⟨"./notes.txt"⟩, ⟨"./drafts/b.dialogue"⟩, ⟨"./.c.dialogue"⟩, ⟨"./a.dialogue"⟩] ∧
      (Scanner.ofConfig shelfTree narrowConfig).toOption.map (·.sources shelfTree) =
        some [⟨"./a.dialogue"⟩] := by
  decide +kernel

theorem narrow_scan_sublist_shelf :
    narrowConfig.Tightens openConfig ∧ ∃ strict lenient,
      Scanner.ofConfig shelfTree narrowConfig = .ok strict ∧
      Scanner.ofConfig shelfTree openConfig = .ok lenient ∧
      (strict.sources shelfTree).length = 1 ∧ (lenient.sources shelfTree).length = 4 ∧
      ∀ measure, (strict.scan shelfTree measure).files.Sublist
        (lenient.scan shelfTree measure).files := by
  obtain ⟨hopen, hnarrow⟩ := sources_shelf
  obtain ⟨strict, hstrict, hone⟩ := Scanner.exists_of_map_toOption hnarrow
  obtain ⟨lenient, hlenient, hfour⟩ := Scanner.exists_of_map_toOption hopen
  exact ⟨narrowConfig_tightens_openConfig, strict, lenient, hstrict, hlenient,
    congrArg List.length hone, congrArg List.length hfour,
    tighter_scan_sublist narrowConfig_tightens_openConfig hstrict hlenient⟩

end DialogueIndex
