import DialogueIndex.Proofs.FileTree.Dots
import DialogueIndex.Proofs.FileTree.Walk
import DialogueIndex.Proofs.Path.Order
import DialogueIndex.Scanner

/-! # What a scan lists

In a tree without links a scan lists the dialogue files that nothing leaves out, neither them nor a
directory on the way, and that can be read. A file cannot be read when its path from the root on is
too long. Each file is listed once, in the order of the paths below the root.
-/

namespace DialogueIndex

/-- What a configuration says of a text at a location below its root, which is at a place. -/
def ScanConfig.listing (config : ScanConfig) (place names : Location) (text : String) :
    FileOutline where
  path := ⟨String.intercalate "/" names⟩
  absolutePath := Location.path (place ++ names)
  totalLines := (Document.ofText text).lineCount
  entries :=
    if config.includeUntitled then outline text
    else (outline text).filter (·.name ≠ "(untitled section)")

namespace Scanner

/-- A file at a location below the root that a scan does not leave out, and its text. The root is
never left out. -/
structure Selects (scanner : Scanner) (names : Location) (content : ByteArray) (text : String) :
    Prop where
  dialogue : scanner.config.isDialogueFile (scanner.config.root.descend names)
  small : content.size ≤ scanner.config.maxFileSize
  readable : String.fromUTF8? content = some text
  kept : scanner.filter.ignores (scanner.config.root.descend names) false = false
  entered : ∀ above, above <+: names → above ≠ [] → above ≠ names →
    scanner.filter.ignores (scanner.config.root.descend above) true = false

theorem config_of_ofConfig {tree : FileTree} {config : ScanConfig} {scanner : Scanner}
    (hscanner : ofConfig tree config = .ok scanner) : scanner.config = config := by
  rw [ofConfig] at hscanner
  split at hscanner
  · cases hscanner
    rfl
  · cases hscanner

theorem ofConfig_eq_ok_iff {tree : FileTree} {config : ScanConfig} {scanner : Scanner} :
    ofConfig tree config = .ok scanner ↔
      scanner.config = config ∧ IgnoreFilter.ofConfig tree config = .ok scanner.filter := by
  rw [ofConfig]
  cases IgnoreFilter.ofConfig tree config with
  | error e => simp
  | ok filter =>
      obtain ⟨own, ownFilter⟩ := scanner
      simp [eq_comm]

/-- What is evaluated on a scanner that may not open is evaluated on one that does. -/
theorem exists_of_map_toOption {α : Type} {opened : Except ScanError Scanner} {f : Scanner → α}
    {a : α} (hmap : opened.toOption.map f = some a) :
    ∃ scanner, opened = .ok scanner ∧ f scanner = a := by
  cases opened with
  | error e => cases hmap
  | ok scanner => exact ⟨scanner, rfl, Option.some.inj hmap⟩

variable {scanner : Scanner} {tree : FileTree}

theorem outline?_eq_some_iff {p : Path} {file : FileOutline} :
    scanner.outline? tree p = some file ↔
      ∃ text, tree.readText p = .ok text ∧
        file = scanner.config.outlineText tree text (p.relativeTo scanner.config.root) p := by
  rw [outline?]
  cases tree.readText p <;> simp [eq_comm]

theorem enters_walk_iff (p : Path) :
    (scanner.walk tree).enters p ↔ scanner.filter.ignores p true = false := by
  simp [walk]

theorem source?_leaf_eq_some_iff {leaf : Leaf} {p : Path} :
    scanner.source? (.leaf leaf) = some p ↔
      (scanner.config.isDialogueFile leaf.path ∧ scanner.filter.ignores leaf.path false = false ∧
        leaf.size ≤ scanner.config.maxFileSize) ∧ leaf.path = p := by
  simp [source?, wants, allows, and_assoc]

/-- Every file of a scan is what can be read at a leaf of the walk that the scanner wants. -/
theorem exists_source_of_mem_files {file : FileOutline} (hfile : file ∈ scanner.files tree) :
    ∃ p ∈ scanner.sources tree, scanner.outline? tree p = some file :=
  List.mem_filterMap.mp (List.mem_mergeSort.mp hfile)

theorem exists_leaf_of_mem_files {file : FileOutline} (hfile : file ∈ scanner.files tree) :
    ∃ leaf, .leaf leaf ∈ scanner.visits tree ∧
      scanner.source? (.leaf leaf) = some leaf.path ∧
        scanner.outline? tree leaf.path = some file := by
  obtain ⟨p, hp, houtline⟩ := exists_source_of_mem_files hfile
  obtain ⟨visit, hvisit, hsource⟩ := List.mem_filterMap.mp hp
  cases visit with
  | leaf leaf =>
      obtain ⟨_, rfl⟩ := source?_leaf_eq_some_iff.mp hsource
      exact ⟨leaf, hvisit, hsource, houtline⟩
  | fault => cases hsource

theorem listedBefore_trans (a b c : FileOutline) (hab : listedBefore a b)
    (hbc : listedBefore b c) : listedBefore a c :=
  Std.TransCmp.isLE_trans hab hbc

theorem listedBefore_total (a b : FileOutline) : listedBefore a b || listedBefore b a := by
  have hswap : b.path.compare a.path = (a.path.compare b.path).swap := Std.OrientedCmp.eq_swap
  rw [listedBefore, listedBefore, hswap]
  cases a.path.compare b.path <;> rfl

theorem compare_eq_lt {a b : FileOutline} (hle : listedBefore a b)
    (hne : ¬ a.path.Same b.path) : a.path.compare b.path = .lt := by
  rw [listedBefore] at hle
  rw [← Path.compare_eq_eq_iff] at hne
  cases hcompare : a.path.compare b.path with
  | lt => rfl
  | eq => exact absurd hcompare hne
  | gt => simp [hcompare] at hle

/-- Sorting puts outlines with different paths in the strict order of their paths. -/
theorem mergeSort_pairwise {outlines : List FileOutline}
    (houtlines : outlines.Pairwise fun a b => ¬ a.path.Same b.path) :
    (outlines.mergeSort listedBefore).Pairwise fun a b => a.path.compare b.path = .lt := by
  have hsorted : (outlines.mergeSort listedBefore).Pairwise fun a b => listedBefore a b :=
    List.pairwise_mergeSort listedBefore_trans listedBefore_total _
  have hdistinct : (outlines.mergeSort listedBefore).Pairwise fun a b => ¬ a.path.Same b.path :=
    houtlines.perm (List.mergeSort_perm _ _).symm fun hab hba => hab hba.symm
  exact hsorted.imp₂ (fun _ _ => compare_eq_lt) hdistinct

/-- Outlines with different paths can be sorted in one way only. -/
theorem mergeSort_eq_of_perm {outlines others : List FileOutline}
    (houtlines : outlines.Pairwise fun a b => ¬ a.path.Same b.path)
    (hperm : others.Perm outlines) :
    others.mergeSort listedBefore = outlines.mergeSort listedBefore := by
  have hothers : others.Pairwise fun a b => ¬ a.path.Same b.path :=
    houtlines.perm hperm.symm fun hab hba => hab hba.symm
  refine List.Perm.eq_of_pairwise ?_ (mergeSort_pairwise hothers) (mergeSort_pairwise houtlines) ?_
  · intro a b _ _ hab hba
    have hswap : b.path.compare a.path = (a.path.compare b.path).swap := Std.OrientedCmp.eq_swap
    rw [hab, hba] at hswap
    cases hswap
  · exact ((List.mergeSort_perm others _).trans hperm).trans (List.mergeSort_perm outlines _).symm

/-- The outline of a file below the root, if it is listed. -/
def fileOutline? (scanner : Scanner) (tree : FileTree) (file : Location × ByteArray) :
    Option FileOutline :=
  if (scanner.walk tree).passesBelow scanner.config.root file.1 then
    (scanner.source? (Walk.fileVisit scanner.config.root file)).bind (scanner.outline? tree)
  else none

section Root

variable {place : Location} {entries : List (String × Node)}
  (hroot : tree.find .followed scanner.config.root = .ok (place, .directory entries))
  (hplain : (Node.directory entries).IsPlain)

include hroot

/-- The root cannot be read as a file. -/
theorem outline?_root : scanner.outline? tree scanner.config.root = none := by
  rw [outline?, FileTree.readText, FileTree.read, hroot]

include hplain

theorem outlines_eq :
    (scanner.sources tree).filterMap (scanner.outline? tree) =
      (Node.directory entries).files.filterMap (scanner.fileOutline? tree) := by
  obtain ⟨before, hbefore, hvisits⟩ :=
    (scanner.walk tree).visits_eq_of_plain hroot hplain
  -- What comes before the files is under the path of the root, which leads to a directory.
  have hnone : (before.filterMap scanner.source?).filterMap (scanner.outline? tree) = [] := by
    rw [List.filterMap_filterMap, List.filterMap_eq_nil_iff]
    intro visit hvisit
    obtain ⟨size, rfl⟩ := hbefore visit hvisit
    rw [source?]
    split
    · exact outline?_root hroot
    · rfl
  rw [sources, visits, hvisits, List.filterMap_append, List.filterMap_append, hnone,
    List.nil_append, Walk.fileVisits, List.filterMap_map, List.filterMap_filterMap,
    List.filterMap_filter]
  rfl

/-- A file that is read is listed with its names below the root and where it is. -/
theorem outlineText_descend {names : Location} {found : Node} (hne : names ≠ [])
    (hfound : (Node.directory entries).at? names = some found)
    (hshort : (scanner.config.root.descend names).text.utf8ByteSize < FileTree.pathLimit)
    (text : String) :
    scanner.config.outlineText tree text
        ((scanner.config.root.descend names).relativeTo scanner.config.root)
        (scanner.config.root.descend names) =
      scanner.config.listing place names text := by
  have hfind := FileTree.find_descend hroot hplain hfound hshort
  have hpath := Path.descend_relativeTo (FileTree.text_ne_empty_of_find hroot)
    (hplain.at? hfound).2 hne
  have hshown : scanner.config.shownEntries (outline text) =
      if scanner.config.includeUntitled then outline text
      else (outline text).filter (·.name ≠ "(untitled section)") := by
    rw [ScanConfig.shownEntries]
    congr 1
    apply List.filter_congr
    intro e _
    rw [decide_not]
    rfl
  rw [ScanConfig.outlineText, ScanConfig.listing, hpath, FileTree.canonical, hfind]
  dsimp only
  rw [← hshown]
  rfl

/-- A file below the root is listed if and only if the scan does not leave it out. -/
theorem fileOutline?_eq_some_iff {names : Location} {content : ByteArray}
    (hfile : (Node.directory entries).at? names = some (.file content)) (file : FileOutline) :
    scanner.fileOutline? tree (names, content) = some file ↔
      ∃ text, scanner.Selects names content text ∧
        (scanner.config.root.descend names).text.utf8ByteSize < FileTree.pathLimit ∧
        file = scanner.config.listing place names text := by
  have hne : names ≠ [] := by
    rintro rfl
    cases hfile
  have hpasses := (scanner.walk tree).passesBelow_iff scanner.config.root names
  simp only [enters_walk_iff] at hpasses
  rw [fileOutline?, Option.ite_none_right_eq_some, hpasses, Option.bind_eq_some_iff]
  constructor
  · rintro ⟨hentered, p, hsource, houtline⟩
    obtain ⟨⟨hdialogue, hkept, hsmall⟩, rfl⟩ := source?_leaf_eq_some_iff.mp hsource
    obtain ⟨text, hread, rfl⟩ := outline?_eq_some_iff.mp houtline
    obtain ⟨hshort, hreadable⟩ := (FileTree.readText_descend hroot hplain hfile text).mp hread
    exact ⟨text, ⟨hdialogue, hsmall, hreadable, hkept, hentered⟩, hshort,
      outlineText_descend hroot hplain hne hfile hshort text⟩
  · rintro ⟨text, hselects, hshort, rfl⟩
    refine ⟨hselects.entered, _, source?_leaf_eq_some_iff.mpr
      ⟨⟨hselects.dialogue, hselects.kept, hselects.small⟩, rfl⟩, ?_⟩
    refine outline?_eq_some_iff.mpr ⟨text, ?_,
      (outlineText_descend hroot hplain hne hfile hshort text).symm⟩
    exact (FileTree.readText_descend hroot hplain hfile text).mpr ⟨hshort, hselects.readable⟩

/-- The files of a scan are those below the root that it does not leave out and can read. -/
theorem mem_files_iff {file : FileOutline} :
    file ∈ scanner.files tree ↔
      ∃ names content text, (Node.directory entries).at? names = some (.file content) ∧
        scanner.Selects names content text ∧
        (scanner.config.root.descend names).text.utf8ByteSize < FileTree.pathLimit ∧
        file = scanner.config.listing place names text := by
  rw [files, List.mem_mergeSort, outlines_eq hroot hplain, List.mem_filterMap]
  constructor
  · rintro ⟨⟨names, content⟩, hmem, hfile⟩
    have hat := hplain.mem_files_iff.mp hmem
    obtain ⟨text, hlisted⟩ := (fileOutline?_eq_some_iff hroot hplain hat file).mp hfile
    exact ⟨names, content, text, hat, hlisted⟩
  · rintro ⟨names, content, text, hat, hlisted⟩
    exact ⟨(names, content), hplain.mem_files_iff.mpr hat,
      (fileOutline?_eq_some_iff hroot hplain hat file).mpr ⟨text, hlisted⟩⟩

end Root

end Scanner

/-! ## One file, reached by any number of dots -/

/-- The text of a file with one section. -/
def loneText : String := "~ a\n"

/-- A tree with one file. -/
def loneTree : FileTree := ⟨[("a.dialogue", .file loneText.toUTF8)], []⟩

/-- The standard configuration for a root of one dot more than is counted. -/
def dotsConfig (count : Nat) : ScanConfig := .standard (Path.dots (count + 1)) 1

theorem isEntryName_lone : IsEntryName "a.dialogue" := by decide

theorem isPlain_loneTree : loneTree.top.IsPlain := by
  refine .directory ?_ (by decide) ?_
  · exact List.forall_mem_singleton.mpr isEntryName_lone
  · exact List.forall_mem_singleton.mpr (.file _)

theorem fileName?_descend_lone (count : Nat) :
    ((Path.dots (count + 1)).descend ["a.dialogue"]).fileName? = some "a.dialogue".toList := by
  rw [Path.fileName?_descend (Path.dots_text_ne_empty count)
    (List.forall_mem_singleton.mpr isEntryName_lone) (List.cons_ne_nil _ _)]
  rfl

/-- The standard patterns can be read, and none of them matches the file. -/
theorem exists_standardPatterns :
    ∃ patterns, IgnoreFilter.patternsOf IgnoreFilter.standardTexts = .ok patterns ∧
      patterns.any (·.isMatch "a.dialogue".toList) = false := by
  have hpass : (IgnoreFilter.patternsOf IgnoreFilter.standardTexts).toOption.map
      (·.any (·.isMatch "a.dialogue".toList)) = some false := by decide +kernel
  generalize IgnoreFilter.patternsOf IgnoreFilter.standardTexts = parsed at hpass ⊢
  cases parsed with
  | error => cases hpass
  | ok patterns => exact ⟨patterns, rfl, Option.some.inj hpass⟩

theorem ruleFiles_lone (count : Nat) :
    IgnoreFilter.ruleFiles loneTree (dotsConfig count) = [] := by
  have hname : IsEntryName IgnoreFilter.rulesName := by decide
  have hnode : loneTree.nodeAt? loneTree.workingDirectory = some (.directory loneTree.entries) :=
    rfl
  have hmissing : loneTree.entries.lookup IgnoreFilter.rulesName = none := by decide
  have hcontains := FileTree.contains_join_dots hnode hname hmissing count
  simp [IgnoreFilter.ruleFiles, dotsConfig, ScanConfig.standard, hcontains]

theorem isDialogueFile_lone (count : Nat) :
    (dotsConfig count).isDialogueFile ((Path.dots (count + 1)).descend ["a.dialogue"]) := by
  rw [ScanConfig.isDialogueFile, Path.extension?, fileName?_descend_lone]
  change List.any ["dialogue"] _ = true
  decide

theorem ignores_lone {filter : IgnoreFilter} {count : Nat}
    (hroot : filter.root = Path.dots (count + 1)) (hrules : filter.rules = [])
    (hpatterns : filter.patterns.any (·.isMatch "a.dialogue".toList) = false) :
    filter.ignores ((Path.dots (count + 1)).descend ["a.dialogue"]) false = false := by
  have hpath := Path.descend_relativeTo (Path.dots_text_ne_empty count)
    (List.forall_mem_singleton.mpr isEntryName_lone) (List.cons_ne_nil "a.dialogue" [])
  have hhidden : IgnoreFilter.isHidden ((Path.dots (count + 1)).descend ["a.dialogue"]) =
      false := by
    rw [IgnoreFilter.isHidden, fileName?_descend_lone]
    decide
  rw [IgnoreFilter.ignores, hroot, hpath, hrules, hhidden, String.intercalate_singleton]
  dsimp only
  rw [hpatterns, Bool.and_false]
  rfl

/-- However many dots name the root, its file is not left out. -/
theorem exists_scanner_selects_lone (count : Nat) :
    ∃ scanner, Scanner.ofConfig loneTree (dotsConfig count) = .ok scanner ∧
      scanner.Selects ["a.dialogue"] loneText.toUTF8 loneText := by
  obtain ⟨patterns, hpatterns, hpass⟩ := exists_standardPatterns
  refine ⟨⟨dotsConfig count, ⟨Path.dots (count + 1), false, patterns ++ [], []⟩⟩, ?_, ?_⟩
  · rw [Scanner.ofConfig, IgnoreFilter.ofConfig, hpatterns, ruleFiles_lone]
    rfl
  · refine ⟨isDialogueFile_lone count, ?_, dif_pos loneText.isValidUTF8, ?_, ?_⟩
    · change loneText.toUTF8.size ≤ 10 * 1024 * 1024
      decide
    · exact ignores_lone rfl rfl (by rw [List.append_nil, hpass])
    · -- No directory stands between the root and its own file.
      intro above hprefix hne hproper
      rcases List.prefix_cons_iff.mp hprefix with hnil | ⟨tail, rfl, htail⟩
      · exact absurd hnil hne
      · rw [List.prefix_nil.mp htail] at hproper
        exact absurd rfl hproper

/-- When too many dots name the root, the path of its file is too long. -/
theorem files_lone_eq_nil {count : Nat} {scanner : Scanner}
    (hscanner : Scanner.ofConfig loneTree (dotsConfig count) = .ok scanner)
    (hroot : loneTree.find .followed (dotsConfig count).root = .ok ([], loneTree.top))
    (hlong : FileTree.pathLimit ≤ 2 * count + 1 + "a.dialogue".utf8ByteSize) :
    scanner.files loneTree = [] := by
  have hconfig := Scanner.config_of_ofConfig hscanner
  rw [← hconfig] at hroot
  rw [List.eq_nil_iff_forall_not_mem]
  intro file hfile
  obtain ⟨names, content, _, hat, _, hshort, _⟩ :=
    (Scanner.mem_files_iff hroot isPlain_loneTree).mp hfile
  have hmem : (names, content) ∈ [(["a.dialogue"], loneText.toUTF8)] :=
    isPlain_loneTree.mem_files_iff.mpr hat
  obtain ⟨rfl, _⟩ := Prod.mk.inj (List.mem_singleton.mp hmem)
  have hjoin : (Path.dots (count + 1)).text.utf8ByteSize + _ ≤ _ :=
    Path.utf8ByteSize_add_le_join isEntryName_lone
  rw [Path.dots_utf8ByteSize] at hjoin
  rw [hconfig] at hshort
  exact Nat.not_lt.mpr (Nat.le_trans hlong hjoin) hshort

end DialogueIndex
