import DialogueIndex.Proofs.FileTree.Mount
import DialogueIndex.Proofs.Ignore.Below
import DialogueIndex.Proofs.Ignore.Filter
import DialogueIndex.Proofs.Scanner

/-! # Projects that stand elsewhere

A scan of a directory without links does not depend on where the directory stands or on how its
root is written. Only what leads out of the directory, paths that are too long and a root of more
than one leading dot can make a difference.
-/

namespace DialogueIndex

/-- The configuration for a root, from which the ignore file is seen. -/
def ScanConfig.mountedAt (config : ScanConfig) (root : Path) (ignored : Option String) :
    ScanConfig :=
  { config with root := root, ignoreFile := ignored.map root.join }

/-- An outline that does not tell where its file really is. -/
def FileOutline.unplaced (file : FileOutline) : FileOutline := { file with absolutePath := ⟨""⟩ }

theorem ScanStats.ofFiles_map_unplaced (files : List FileOutline) :
    ofFiles (files.map FileOutline.unplaced) = ofFiles files := by
  simp only [ofFiles, List.length_map, List.map_map, List.countP_map]
  rfl

/-- Files of which the same can be read hold the same rules. -/
theorem RuleFile.read_alike {tree other : FileTree} {p q : Path}
    (hread : ∀ content, tree.read p = .ok content ↔ other.read q = .ok content) :
    (read tree p).faults.isEmpty = (read other q).faults.isEmpty ∧
      (read tree p).rules = (read other q).rules := by
  rw [read, read]
  cases htree : tree.read p with
  | ok content =>
      rw [(hread content).mp htree]
      exact ⟨rfl, rfl⟩
  | error e =>
      cases hother : other.read q with
      | ok content =>
          rw [(hread content).mpr hother] at htree
          cases htree
      | error e => exact ⟨rfl, rfl⟩

/-- An ignore file is the same for two roots: its path stays within the root and is too long from
both or from none, or what can be read there is the same. -/
inductive SeenAlike (tree other : FileTree) (root site : Path) (text : String) : Prop
  | within (hhead : text.toList.head? ≠ some '/')
      (hwithin : FileTree.staysWithin 0 (FileTree.stepsOf text))
      (hshort : (root.join text).text.utf8ByteSize < FileTree.pathLimit ↔
        (site.join text).text.utf8ByteSize < FileTree.pathLimit)
  | elsewhere (hread : ∀ content,
      tree.read (root.join text) = .ok content ↔ other.read (site.join text) = .ok content)

section Moved

variable {tree other : FileTree} {root site : Path} {entries : List (String × Node)}
  {config : ScanConfig} {ignored : Option String} (hplain : (Node.directory entries).IsPlain)
  (htree : tree.Mounts root entries) (hother : other.Mounts site entries)

include hplain htree hother

theorem SeenAlike.read_eq_ok_iff {text : String} (halike : SeenAlike tree other root site text)
    (content : ByteArray) :
    tree.read (root.join text) = .ok content ↔ other.read (site.join text) = .ok content := by
  cases halike with
  | elsewhere hread => exact hread content
  | within hhead hwithin hshort =>
      obtain ⟨_, hroot⟩ := htree
      obtain ⟨_, hsite⟩ := hother
      rw [FileTree.read_join_eq_ok_iff hroot hplain hhead hwithin,
        FileTree.read_join_eq_ok_iff hsite hplain hhead hwithin, hshort]

variable (hreach : FileTree.ReachesAlike entries root site)

include hreach

/-- The ignore file of the directory itself is the same for both roots. -/
theorem seenAlike_rulesName : SeenAlike tree other root site IgnoreFilter.rulesName := by
  obtain ⟨_, hroot⟩ := htree
  obtain ⟨_, hsite⟩ := hother
  have hname : IsEntryName IgnoreFilter.rulesName := by decide
  refine .elsewhere fun content => ?_
  rw [FileTree.read_join_eq_ok_iff hroot hplain (by decide) (by decide),
    FileTree.read_join_eq_ok_iff hsite hplain (by decide) (by decide)]
  apply and_congr_left
  intro hread
  exact hreach [IgnoreFilter.rulesName] content (FileTree.at?_of_read_alone hplain hname hread)

variable (hignored : ∀ text ∈ ignored, SeenAlike tree other root site text)

include hignored

theorem IgnoreFilter.rulesOf_mountedAt :
    rulesOf (ruleFiles other (config.mountedAt site ignored)) =
      rulesOf (ruleFiles tree (config.mountedAt root ignored)) := by
  have hpaths : ∀ base : Path, rulePaths (config.mountedAt base ignored) =
      (rulesName :: ignored.toList).map base.join := by
    intro base
    rw [rulePaths, ScanConfig.mountedAt, Option.toList_map]
    rfl
  have hread : ∀ text ∈ rulesName :: ignored.toList, ∀ content,
      other.read (site.join text) = .ok content ↔ tree.read (root.join text) = .ok content := by
    intro text htext content
    have halike : SeenAlike tree other root site text := by
      rcases List.mem_cons.mp htext with rfl | htext
      · exact seenAlike_rulesName hplain htree hother hreach
      · exact hignored text (Option.mem_toList.mp htext)
    exact (halike.read_eq_ok_iff hplain htree hother content).symm
  rw [rulesOf_ruleFiles, rulesOf_ruleFiles, hpaths, hpaths, List.map_map, List.map_map]
  apply rulesOf_map_congr
  · exact fun text htext => (RuleFile.read_alike (hread text htext)).1
  · exact fun text htext => (RuleFile.read_alike (hread text htext)).2

end Moved

namespace Scanner

/-- The scanner for the same project at another root. -/
def movedTo (scanner : Scanner) (site : Path) (ignored : Option String) : Scanner where
  config := scanner.config.mountedAt site ignored
  filter := { scanner.filter with root := site }

variable {scanner : Scanner} {tree : FileTree} {entries : List (String × Node)}
  {names : Location} {content : ByteArray}

theorem Selects.of_eq {other : Scanner} {text : String}
    (hselects : scanner.Selects names content text)
    (hdialogue : other.config.isDialogueFile (other.config.root.descend names) =
      scanner.config.isDialogueFile (scanner.config.root.descend names))
    (hsize : other.config.maxFileSize = scanner.config.maxFileSize)
    (hignores : ∀ above, above <+: names → above ≠ [] → ∀ isDirectory,
      other.filter.ignores (other.config.root.descend above) isDirectory =
        scanner.filter.ignores (scanner.config.root.descend above) isDirectory)
    (hne : names ≠ []) : other.Selects names content text where
  dialogue := hdialogue.trans hselects.dialogue
  small := hsize ▸ hselects.small
  readable := hselects.readable
  kept := (hignores names (List.prefix_refl _) hne false).trans hselects.kept
  entered := fun above hprefix habove hproper =>
    (hignores above hprefix habove true).trans (hselects.entered above hprefix habove hproper)

/-- What is selected does not depend on how the root is written. -/
theorem selects_movedTo_iff {site : Path} {ignored : Option String} {text : String}
    (hroot : scanner.config.root.text ≠ "") (hsite : site.text ≠ "")
    (hfilter : scanner.filter.root = scanner.config.root)
    (hdots : ¬ scanner.config.root.IsDoubledDot) (hdots' : ¬ site.IsDoubledDot)
    (hne : names ≠ []) (hnames : ∀ name ∈ names, IsEntryName name) :
    (scanner.movedTo site ignored).Selects names content text ↔
      scanner.Selects names content text := by
  have hdialogue : scanner.config.isDialogueFile (site.descend names) =
      scanner.config.isDialogueFile (scanner.config.root.descend names) := by
    rw [ScanConfig.isDialogueFile, ScanConfig.isDialogueFile, Path.extension?, Path.extension?,
      Path.fileName?_descend hsite hnames hne, Path.fileName?_descend hroot hnames hne]
  have hignores : ∀ above, above <+: names → above ≠ [] → ∀ isDirectory,
      (scanner.movedTo site ignored).filter.ignores (site.descend above) isDirectory =
        scanner.filter.ignores (scanner.config.root.descend above) isDirectory := by
    intro above hprefix habove isDirectory
    have hentry : ∀ name ∈ above, IsEntryName name := by
      intro name hname
      exact hnames name (List.IsPrefix.subset hprefix hname)
    have hmoved : (scanner.movedTo site ignored).filter.ignores (site.descend above) isDirectory =
        (scanner.movedTo site ignored).filter.ignoresBelow above isDirectory :=
      IgnoreFilter.ignores_descend hsite hdots' habove hentry isDirectory
    rw [← hfilter] at hroot hdots ⊢
    rw [hmoved, IgnoreFilter.ignores_descend hroot hdots habove hentry]
    rfl
  constructor
  · intro hselects
    exact hselects.of_eq hdialogue.symm rfl
      (fun above hprefix habove isDirectory => (hignores above hprefix habove isDirectory).symm) hne
  · intro hselects
    exact hselects.of_eq hdialogue rfl hignores hne

/-- A file of a mounted directory is listed if and only if it is selected and its path is not too
long. -/
theorem unplaced_fileOutline?_eq_some_iff (hmounts : tree.Mounts scanner.config.root entries)
    (hplain : (Node.directory entries).IsPlain)
    (hfile : (Node.directory entries).at? names = some (.file content)) (file : FileOutline) :
    (scanner.fileOutline? tree (names, content)).map FileOutline.unplaced = some file ↔
      ∃ text, scanner.Selects names content text ∧
        (scanner.config.root.descend names).text.utf8ByteSize < FileTree.pathLimit ∧
        file = (scanner.config.listing [] names text).unplaced := by
  obtain ⟨place, hroot⟩ := hmounts
  rw [Option.map_eq_some_iff]
  constructor
  · rintro ⟨placed, hplaced, rfl⟩
    obtain ⟨text, hselects, hshort, rfl⟩ :=
      (fileOutline?_eq_some_iff hroot hplain hfile placed).mp hplaced
    exact ⟨text, hselects, hshort, rfl⟩
  · rintro ⟨text, hselects, hshort, rfl⟩
    exact ⟨_, (fileOutline?_eq_some_iff hroot hplain hfile _).mpr ⟨text, hselects, hshort, rfl⟩,
      rfl⟩

/-- But for absolute paths, a scan lists what it lists of the files below the root, one by one. -/
theorem files_map_unplaced (hmounts : tree.Mounts scanner.config.root entries)
    (hplain : (Node.directory entries).IsPlain) :
    (scanner.files tree).map FileOutline.unplaced =
      ((Node.directory entries).files.filterMap fun file =>
        (scanner.fileOutline? tree file).map FileOutline.unplaced).mergeSort listedBefore := by
  obtain ⟨place, hroot⟩ := hmounts
  have hsorted : ∀ a ∈ (scanner.sources tree).filterMap (scanner.outline? tree),
      ∀ b ∈ (scanner.sources tree).filterMap (scanner.outline? tree),
        listedBefore a b = listedBefore a.unplaced b.unplaced := fun _ _ _ _ => rfl
  rw [files, List.map_mergeSort hsorted, outlines_eq hroot hplain, List.map_filterMap]

variable {other : FileTree} {site : Path} {ignored : Option String}

/-- But for absolute paths, the files of a moved project are listed as before. -/
theorem files_movedTo (hplain : (Node.directory entries).IsPlain)
    (hmounts : tree.Mounts scanner.config.root entries) (hother : other.Mounts site entries)
    (hreach : FileTree.ReachesAlike entries scanner.config.root site)
    (hfilter : scanner.filter.root = scanner.config.root)
    (hdots : ¬ scanner.config.root.IsDoubledDot) (hdots' : ¬ site.IsDoubledDot) :
    ((scanner.movedTo site ignored).files other).map FileOutline.unplaced =
      (scanner.files tree).map FileOutline.unplaced := by
  have hmoved : other.Mounts (scanner.movedTo site ignored).config.root entries := hother
  rw [files_map_unplaced hmoved hplain, files_map_unplaced hmounts hplain]
  congr 1
  apply List.filterMap_congr
  rintro ⟨names, content⟩ hmem
  have hfile := hplain.mem_files_iff.mp hmem
  have hne : names ≠ [] := by
    rintro rfl
    cases hfile
  have hselects : ∀ text, (scanner.movedTo site ignored).Selects names content text ↔
      scanner.Selects names content text := by
    intro text
    obtain ⟨_, hroot⟩ := hmounts
    obtain ⟨_, hsite⟩ := hother
    exact selects_movedTo_iff (FileTree.text_ne_empty_of_find hroot)
      (FileTree.text_ne_empty_of_find hsite) hfilter hdots hdots' hne (hplain.at? hfile).2
  apply Option.ext
  intro file
  rw [unplaced_fileOutline?_eq_some_iff hmoved hplain hfile,
    unplaced_fileOutline?_eq_some_iff hmounts hplain hfile, hreach names content hfile]
  simp only [hselects]
  rfl

end Scanner

/-- A scan lists the same files with the same outlines and the same counts, wherever the project
stands and however its root is written. -/
theorem scan_independent_of_place {tree other : FileTree} {root site : Path}
    {entries : List (String × Node)} {config : ScanConfig} {ignored : Option String}
    {scanner : Scanner} (hplain : (Node.directory entries).IsPlain)
    (htree : tree.Mounts root entries) (hother : other.Mounts site entries)
    (hreach : FileTree.ReachesAlike entries root site) (hroot : ¬ root.IsDoubledDot)
    (hsite : ¬ site.IsDoubledDot)
    (hignored : ∀ text ∈ ignored, SeenAlike tree other root site text)
    (hscanner : Scanner.ofConfig tree (config.mountedAt root ignored) = .ok scanner)
    (measure : Nat → ScanMetadata) :
    ∃ moved, Scanner.ofConfig other (config.mountedAt site ignored) = .ok moved ∧
      (moved.scan other measure).files.map FileOutline.unplaced =
        (scanner.scan tree measure).files.map FileOutline.unplaced ∧
      (moved.scan other measure).stats = (scanner.scan tree measure).stats := by
  obtain ⟨hconfig, hopened⟩ := Scanner.ofConfig_eq_ok_iff.mp hscanner
  obtain ⟨own, standard, hown, hstandard, hfilter⟩ := IgnoreFilter.ofConfig_eq_ok_iff.mp hopened
  have hfiles : ((scanner.movedTo site ignored).files other).map FileOutline.unplaced =
      (scanner.files tree).map FileOutline.unplaced := by
    apply Scanner.files_movedTo hplain _ hother _ _ _ hsite
    · rw [hconfig]
      exact htree
    · rw [hconfig]
      exact hreach
    · rw [hconfig, hfilter]
    · rw [hconfig]
      exact hroot
  refine ⟨scanner.movedTo site ignored, ?_, hfiles, ?_⟩
  · rw [Scanner.ofConfig_eq_ok_iff, IgnoreFilter.ofConfig_eq_ok_iff]
    refine ⟨?_, own, standard, hown, hstandard, ?_⟩
    · rw [Scanner.movedTo, hconfig]
      rfl
    · rw [IgnoreFilter.rulesOf_mountedAt hplain htree hother hreach hignored, Scanner.movedTo,
        hfilter]
      rfl
  · change ScanStats.ofFiles _ = ScanStats.ofFiles _
    rw [← ScanStats.ofFiles_map_unplaced, hfiles, ScanStats.ofFiles_map_unplaced]

/-! ## A project in a build directory and in a hidden one -/

/-- A project whose ignore file leaves out one of two files. -/
def gameEntries : List (String × Node) :=
  [("rules", .file "/b.dialogue\n".toUTF8), ("b.dialogue", .file loneText.toUTF8),
    ("a.dialogue", .file loneText.toUTF8)]

/-- A tree in which the project stands twice. -/
def gamesTree : FileTree where
  entries := [("build", .directory [("game", .directory gameEntries)]),
    (".cache", .directory gameEntries)]
  workingDirectory := ["build"]

theorem isPlain_gameEntries : (Node.directory gameEntries).IsPlain := by
  refine .directory (by decide) (by decide) ?_
  exact List.forall_mem_cons.mpr ⟨.file _, List.forall_mem_cons.mpr ⟨.file _,
    List.forall_mem_singleton.mpr (.file _)⟩⟩

/-- In the project there are only files. -/
theorem exists_of_at?_game {names : Location} {content : ByteArray}
    (hfile : (Node.directory gameEntries).at? names = some (.file content)) :
    ∃ name ∈ gameEntries.map Prod.fst, names = [name] := by
  cases names with
  | nil => cases hfile
  | cons name rest =>
      obtain ⟨child, hchild, hrest⟩ := Node.at?_cons_eq_some_iff.mp hfile
      have hmem := (Node.lookup_eq_some_iff isPlain_gameEntries.distinct).mp hchild
      have hfiles : ∀ e ∈ gameEntries, ∃ own, e.2 = .file own := by simp [gameEntries]
      obtain ⟨own, rfl⟩ : ∃ own, child = .file own := hfiles _ hmem
      obtain ⟨rfl, _⟩ := Node.at?_file_eq_some_iff.mp hrest
      exact ⟨name, List.mem_map.mpr ⟨_, hmem, rfl⟩, rfl⟩

theorem mounts_game :
    gamesTree.Mounts ⟨"game"⟩ gameEntries ∧ gamesTree.Mounts ⟨"/.cache"⟩ gameEntries :=
  ⟨⟨["build", "game"], rfl⟩, ⟨[".cache"], rfl⟩⟩

theorem reachesAlike_game : FileTree.ReachesAlike gameEntries ⟨"game"⟩ ⟨"/.cache"⟩ := by
  intro names content hfile
  obtain ⟨name, hname, rfl⟩ := exists_of_at?_game hfile
  have hshort : ∀ name ∈ ["rules", "b.dialogue", "a.dialogue"],
      ((⟨"game"⟩ : Path).descend [name]).text.utf8ByteSize < FileTree.pathLimit ∧
        ((⟨"/.cache"⟩ : Path).descend [name]).text.utf8ByteSize < FileTree.pathLimit := by
    decide
  exact iff_of_true (hshort name hname).1 (hshort name hname).2

theorem seenAlike_rules_game : SeenAlike gamesTree gamesTree ⟨"game"⟩ ⟨"/.cache"⟩ "./rules" :=
  .within (by decide) (by decide) (by decide)

theorem scan_lists_game_in_both_places :
    (Node.directory gameEntries).IsPlain ∧ gamesTree.Mounts ⟨"game"⟩ gameEntries ∧
      gamesTree.Mounts ⟨"/.cache"⟩ gameEntries ∧
      FileTree.ReachesAlike gameEntries ⟨"game"⟩ ⟨"/.cache"⟩ ∧
      SeenAlike gamesTree gamesTree ⟨"game"⟩ ⟨"/.cache"⟩ "./rules" ∧
      ∃ scanner, Scanner.ofConfig gamesTree
          ((ScanConfig.standard ⟨"."⟩ 1).mountedAt ⟨"game"⟩ (some "./rules")) = .ok scanner ∧
        scanner.sources gamesTree = [⟨"game/a.dialogue"⟩] ∧
        ∀ measure, ∃ moved, Scanner.ofConfig gamesTree
            ((ScanConfig.standard ⟨"."⟩ 1).mountedAt ⟨"/.cache"⟩ (some "./rules")) = .ok moved ∧
          (moved.scan gamesTree measure).files.map FileOutline.unplaced =
            (scanner.scan gamesTree measure).files.map FileOutline.unplaced ∧
          (moved.scan gamesTree measure).stats = (scanner.scan gamesTree measure).stats := by
  have hopened : (Scanner.ofConfig gamesTree
      ((ScanConfig.standard ⟨"."⟩ 1).mountedAt ⟨"game"⟩ (some "./rules"))).toOption.map
        (·.sources gamesTree) = some [⟨"game/a.dialogue"⟩] := by
    decide +kernel
  obtain ⟨scanner, hscanner, hsources⟩ := Scanner.exists_of_map_toOption hopened
  obtain ⟨hgame, hcache⟩ := mounts_game
  refine ⟨isPlain_gameEntries, hgame, hcache, reachesAlike_game, seenAlike_rules_game, scanner,
    hscanner, hsources, ?_⟩
  refine scan_independent_of_place isPlain_gameEntries hgame hcache reachesAlike_game
    (Path.not_isDoubledDot_of_head? (by decide)) (Path.not_isDoubledDot_of_head? (by decide)) ?_
    hscanner
  intro text htext
  cases htext
  exact seenAlike_rules_game

/-! ## Roots that make a difference -/

/-- Scans of a directory at two roots that list other paths for the one than for the other. -/
structure Diverges (tree : FileTree) (entries : List (String × Node)) (config : ScanConfig)
    (ignored : Option String) (root site : Path) : Prop where
  plain : (Node.directory entries).IsPlain
  mounts : tree.Mounts root entries
  mountsElsewhere : tree.Mounts site entries
  differs : ∃ scanner moved,
    Scanner.ofConfig tree (config.mountedAt root ignored) = .ok scanner ∧
    Scanner.ofConfig tree (config.mountedAt site ignored) = .ok moved ∧
    ∀ measure, (scanner.scan tree measure).files.map (·.path) ≠
      (moved.scan tree measure).files.map (·.path)

/-- The number of files that a scan lists, if the scanner opens. -/
def listedCount? (tree : FileTree) (config : ScanConfig) : Option Nat :=
  (Scanner.ofConfig tree config).toOption.map fun scanner =>
    ((scanner.sources tree).filterMap (scanner.outline? tree)).length

theorem length_files (scanner : Scanner) (tree : FileTree) :
    (scanner.files tree).length =
      ((scanner.sources tree).filterMap (scanner.outline? tree)).length :=
  List.length_mergeSort _

/-- Scans that list different numbers of files do not list the same paths. -/
theorem differs_of_listedCount? {tree : FileTree} {config other : ScanConfig} {count count' : Nat}
    (hcount : listedCount? tree config = some count)
    (hcount' : listedCount? tree other = some count') (hne : count ≠ count') :
    ∃ scanner moved, Scanner.ofConfig tree config = .ok scanner ∧
      Scanner.ofConfig tree other = .ok moved ∧
      ∀ measure, (scanner.scan tree measure).files.map (·.path) ≠
        (moved.scan tree measure).files.map (·.path) := by
  obtain ⟨scanner, hscanner, rfl⟩ := Scanner.exists_of_map_toOption hcount
  obtain ⟨moved, hmoved, rfl⟩ := Scanner.exists_of_map_toOption hcount'
  refine ⟨scanner, moved, hscanner, hmoved, ?_⟩
  intro measure hpaths
  have hlength := congrArg List.length hpaths
  rw [List.length_map, List.length_map] at hlength
  rw [← length_files, ← length_files] at hne
  exact hne hlength

/-- A tree whose rules leave out its only file by its path from the top. -/
def anchoredTree : FileTree where
  entries := [(".gitignore", .file "/a.dialogue\n".toUTF8), ("a.dialogue", .file loneText.toUTF8)]
  workingDirectory := []

/-- A tree with the same file in two places, and rules next to one of them. -/
def neighbourTree : FileTree where
  entries := [("rules", .file "*.dialogue\n".toUTF8), ("a", loneTree.top),
    ("b", .directory [("c", loneTree.top)])]
  workingDirectory := []

theorem isPlain_anchoredTree : anchoredTree.top.IsPlain := by
  refine .directory (by decide) (by decide) ?_
  exact List.forall_mem_cons.mpr ⟨.file _, List.forall_mem_singleton.mpr (.file _)⟩

theorem listedCount?_lone :
    listedCount? loneTree (dotsConfig 0) = some 1 ∧
      listedCount? loneTree (dotsConfig 2045) = some 0 := by
  constructor
  · decide +kernel
  · obtain ⟨scanner, hscanner, _⟩ := exists_scanner_selects_lone 2045
    have hroot : loneTree.find .followed (dotsConfig 2045).root = .ok ([], loneTree.top) :=
      FileTree.find_dots rfl (by decide)
    have hfiles := files_lone_eq_nil hscanner hroot (by decide)
    rw [listedCount?, hscanner, Except.toOption, Option.map_some, ← length_files, hfiles]
    rfl

theorem listedCount?_anchored :
    listedCount? anchoredTree (.standard ⟨"."⟩ 1) = some 0 ∧
      listedCount? anchoredTree (.standard ⟨"./."⟩ 1) = some 1 := by
  decide +kernel

theorem listedCount?_neighbour :
    listedCount? neighbourTree
        ((ScanConfig.standard ⟨"."⟩ 1).mountedAt ⟨"a"⟩ (some "../rules")) = some 0 ∧
      listedCount? neighbourTree
        ((ScanConfig.standard ⟨"."⟩ 1).mountedAt ⟨"b/c"⟩ (some "../rules")) = some 1 := by
  decide +kernel

/-- A root of many dots makes paths too long, a doubled dot is not taken off the paths that rules
are told, and an ignore file outside the root is not there from elsewhere. -/
theorem scans_diverge_between_roots :
    Diverges loneTree loneTree.entries (.standard ⟨"."⟩ 1) none (Path.dots 1) (Path.dots 2046) ∧
      Diverges anchoredTree anchoredTree.entries (.standard ⟨"."⟩ 1) none ⟨"."⟩ ⟨"./."⟩ ∧
      Diverges neighbourTree loneTree.entries (.standard ⟨"."⟩ 1) (some "../rules") ⟨"a"⟩
        ⟨"b/c"⟩ := by
  obtain ⟨hone, hnone⟩ := listedCount?_lone
  obtain ⟨hdot, hdoubled⟩ := listedCount?_anchored
  obtain ⟨hbeside, helsewhere⟩ := listedCount?_neighbour
  refine ⟨⟨isPlain_loneTree, ⟨[], ?_⟩, ⟨[], ?_⟩, ?_⟩,
    ⟨isPlain_anchoredTree, ⟨[], rfl⟩, ⟨[], rfl⟩, ?_⟩,
    ⟨isPlain_loneTree, ⟨["a"], rfl⟩, ⟨["b", "c"], rfl⟩, ?_⟩⟩
  · exact FileTree.find_dots rfl (by decide)
  · exact FileTree.find_dots rfl (by decide)
  · exact differs_of_listedCount? hone hnone (by decide)
  · exact differs_of_listedCount? hdot hdoubled (by decide)
  · exact differs_of_listedCount? hbeside helsewhere (by decide)

end DialogueIndex
