import DialogueIndex.Proofs.FileTree.LeafPaths
import DialogueIndex.Proofs.FileTree.Reordering
import DialogueIndex.Proofs.Scanner

/-! # Scans in any order

What a scan lists does not depend on the order in which anything is done: not on that in which
directories list their entries, and not on that in which outlines are collected. No two files are
listed under the same path, so that their order is decided by the paths alone.
-/

namespace DialogueIndex

theorem RuleFile.read_eq_of_reordered {tree other : FileTree} (hreordered : tree.Reordered other)
    (p : Path) : RuleFile.read tree p = RuleFile.read other p := by
  rw [RuleFile.read, RuleFile.read, hreordered.read_eq]

/-- A filter opens alike in reordered trees, however many threads there are. -/
theorem IgnoreFilter.ofConfig_eq_of_reordered {tree other : FileTree}
    (hreordered : tree.Reordered other) (config : ScanConfig) (threads : Nat) :
    ofConfig other { config with threads := threads } = ofConfig tree config := by
  have hcontains : other.contains = tree.contains :=
    funext fun p => (hreordered.contains_eq p).symm
  have hread : RuleFile.read other = RuleFile.read tree :=
    funext fun p => (RuleFile.read_eq_of_reordered hreordered p).symm
  simp only [ofConfig, ruleFiles, hcontains, hread]

namespace Scanner

variable {scanner : Scanner} {tree : FileTree}

theorem leafPath?_of_source? {visit : Visit} {p : Path} (hsource : scanner.source? visit = some p) :
    visit.leafPath? = some p := by
  cases visit with
  | fault => cases hsource
  | leaf leaf => exact congrArg some (source?_leaf_eq_some_iff.mp hsource).2

/-- The paths under which the leaves of a scan would be listed differ. -/
theorem leafPaths_pairwise (htree : tree.top.IsFormed) :
    (leafPaths (scanner.visits tree)).Pairwise fun p q =>
      ¬ (p.relativeTo scanner.config.root).Same (q.relativeTo scanner.config.root) := by
  have hapart : LiesApart scanner.config.root (scanner.visits tree) :=
    Walk.liesApart_visits htree scanner.config.root
  obtain ⟨places, hnodup, hnames, hpaths⟩ := hapart
  by_cases hroot : scanner.config.root.text = ""
  · -- The empty path leads nowhere, so that the walk is over at once.
    rw [visits, Walk.visits, FileTree.find_of_text_eq_empty hroot]
    exact List.Pairwise.nil
  · rw [hpaths, List.pairwise_map]
    refine hnodup.imp_of_mem ?_
    intro first second hfirst hsecond hne hsame
    rw [Path.Same, Path.components_relativeTo hroot (hnames first hfirst),
      Path.components_relativeTo hroot (hnames second hsecond)] at hsame
    apply hne
    refine List.map_injective_iff.mpr ?_ hsame
    intro name name' hname
    exact String.toList_injective (Path.Component.name.inj hname)

/-- No two outlines of a scan are listed under the same path. -/
theorem outlines_pairwise_of_isFormed (htree : tree.top.IsFormed) :
    ((scanner.sources tree).filterMap (scanner.outline? tree)).Pairwise
      fun a b => ¬ a.path.Same b.path := by
  have hleaves : (leafPaths (scanner.visits tree)).Pairwise fun p q =>
      ¬ (p.relativeTo scanner.config.root).Same (q.relativeTo scanner.config.root) :=
    leafPaths_pairwise htree
  rw [leafPaths, List.pairwise_filterMap] at hleaves
  rw [List.pairwise_filterMap, sources, List.pairwise_filterMap]
  refine hleaves.imp ?_
  intro first second hapart p hp q hq a ha b hb
  obtain ⟨_, _, rfl⟩ := outline?_eq_some_iff.mp ha
  obtain ⟨_, _, rfl⟩ := outline?_eq_some_iff.mp hb
  exact hapart p (leafPath?_of_source? hp) q (leafPath?_of_source? hq)

section Reordered

variable {other : FileTree} (hreordered : tree.Reordered other)

include hreordered

/-- Each file has one outline, however the directories on the way list their entries. -/
theorem outline?_eq_of_reordered (p : Path) :
    scanner.outline? tree p = scanner.outline? other p := by
  rw [outline?, outline?, hreordered.readText_eq]
  simp only [ScanConfig.outlineText, hreordered.canonical_eq]

/-- Scans of reordered trees collect the same outlines, each in an order of its own. -/
theorem outlines_perm :
    ((scanner.sources other).filterMap (scanner.outline? other)).Perm
      ((scanner.sources tree).filterMap (scanner.outline? tree)) := by
  have hwalk : (scanner.walk tree).Reordered (scanner.walk other) := ⟨hreordered, rfl, rfl⟩
  have houtline : scanner.outline? other = scanner.outline? tree :=
    funext fun p => (outline?_eq_of_reordered hreordered p).symm
  rw [houtline]
  exact ((hwalk.visits_perm scanner.config.root).symm.filterMap _).filterMap _

end Reordered

end Scanner

/-- The files of a scan and the counts over them depend neither on the number of threads nor on the
order in which directories list their entries, nor on that in which the outlines are collected. -/
theorem scan_independent_of_order {tree other : FileTree} {config : ScanConfig} {scanner : Scanner}
    (htree : tree.top.IsFormed) (hreordered : tree.Reordered other)
    (hscanner : Scanner.ofConfig tree config = .ok scanner) (threads : Nat)
    (measure : Nat → ScanMetadata) :
    ∃ threaded, Scanner.ofConfig other { config with threads := threads } = .ok threaded ∧
      (threaded.scan other measure).root = (scanner.scan tree measure).root ∧
      (threaded.scan other measure).files = (scanner.scan tree measure).files ∧
      (threaded.scan other measure).stats = (scanner.scan tree measure).stats ∧
      (scanner.scan tree measure).files.Pairwise (fun a b => a.path.compare b.path = .lt) ∧
      ∀ collected : List FileOutline,
        collected.Perm ((threaded.sources other).filterMap (threaded.outline? other)) →
          collected.mergeSort Scanner.listedBefore = (scanner.scan tree measure).files ∧
          .ofFiles (collected.mergeSort Scanner.listedBefore) =
            (scanner.scan tree measure).stats := by
  obtain ⟨rfl, hfilter⟩ := Scanner.ofConfig_eq_ok_iff.mp hscanner
  have houtlines : ((scanner.sources tree).filterMap (scanner.outline? tree)).Pairwise
      fun a b => ¬ a.path.Same b.path := Scanner.outlines_pairwise_of_isFormed htree
  -- The number of threads is not looked at: both scanners collect the same.
  have hcollected : ∀ collected : List FileOutline,
      collected.Perm ((scanner.sources other).filterMap (scanner.outline? other)) →
        collected.mergeSort Scanner.listedBefore = scanner.files tree :=
    fun collected hperm => Scanner.mergeSort_eq_of_perm houtlines
      (hperm.trans (Scanner.outlines_perm hreordered))
  have hfiles : scanner.files other = scanner.files tree := hcollected _ (List.Perm.refl _)
  refine ⟨⟨{ scanner.config with threads := threads }, scanner.filter⟩, ?_, rfl, hfiles, ?_,
    Scanner.mergeSort_pairwise houtlines, ?_⟩
  · rw [Scanner.ofConfig_eq_ok_iff, IgnoreFilter.ofConfig_eq_of_reordered hreordered]
    exact ⟨rfl, hfilter⟩
  · exact congrArg ScanStats.ofFiles hfiles
  · intro collected hperm
    have hsorted := hcollected collected hperm
    exact ⟨hsorted, congrArg ScanStats.ofFiles hsorted⟩

/-! ## A directory that is met twice, in one order and in another -/

/-- Two scenes in a directory. -/
def sceneEntries : List (String × Node) :=
  [("b.dialogue", .file "~ b\n".toUTF8), ("a.dialogue", .file "~ a\n".toUTF8)]

/-- A directory of scenes, and a link to it under another name. -/
def sceneTree : FileTree where
  entries := [("scenes", .directory sceneEntries), ("draft", .link "scenes")]
  workingDirectory := []

/-- The same tree with all entries in the opposite order. -/
def turnedTree : FileTree where
  entries := [("draft", .link "scenes"), ("scenes", .directory sceneEntries.reverse)]
  workingDirectory := []

def followingConfig : ScanConfig := { ScanConfig.standard ⟨"."⟩ 1 with followLinks := true }

theorem isFormed_sceneTree : sceneTree.top.IsFormed := by decide

theorem sceneTree_reordered_turnedTree : sceneTree.Reordered turnedTree := by
  have hscenes : (Node.directory sceneEntries).Reordered (.directory sceneEntries.reverse) := by
    refine .directory (by decide) ?_
    simp [sceneEntries, Node.Reordered.file]
  refine ⟨.directory (by decide) ?_, rfl⟩
  simp [sceneTree, turnedTree, hscenes, Node.Reordered.link]

theorem sources_scenes :
    (Scanner.ofConfig sceneTree followingConfig).toOption.map
        (fun scanner => (scanner.sources sceneTree, scanner.sources turnedTree)) =
      some ([⟨"./scenes/b.dialogue"⟩, ⟨"./scenes/a.dialogue"⟩, ⟨"./draft/b.dialogue"⟩,
          ⟨"./draft/a.dialogue"⟩],
        [⟨"./draft/a.dialogue"⟩, ⟨"./draft/b.dialogue"⟩, ⟨"./scenes/a.dialogue"⟩,
          ⟨"./scenes/b.dialogue"⟩]) := by
  decide +kernel

theorem scan_scenes_in_either_order :
    sceneTree.top.IsFormed ∧ sceneTree.Reordered turnedTree ∧ ∃ scanner,
      Scanner.ofConfig sceneTree followingConfig = .ok scanner ∧
      (scanner.sources sceneTree).length = 4 ∧
      scanner.sources sceneTree ≠ scanner.sources turnedTree ∧
      ∀ measure, ∃ threaded,
        Scanner.ofConfig turnedTree { followingConfig with threads := 8 } = .ok threaded ∧
        (threaded.scan turnedTree measure).files = (scanner.scan sceneTree measure).files := by
  obtain ⟨scanner, hscanner, hsources⟩ := Scanner.exists_of_map_toOption sources_scenes
  obtain ⟨hfirst, hsecond⟩ := Prod.mk.inj hsources
  refine ⟨isFormed_sceneTree, sceneTree_reordered_turnedTree, scanner, hscanner, ?_, ?_, ?_⟩
  · rw [hfirst]
    rfl
  · rw [hfirst, hsecond]
    decide
  · intro measure
    obtain ⟨threaded, hthreaded, _, hfiles, _⟩ :=
      scan_independent_of_order isFormed_sceneTree sceneTree_reordered_turnedTree hscanner 8 measure
    exact ⟨threaded, hthreaded, hfiles⟩

end DialogueIndex
