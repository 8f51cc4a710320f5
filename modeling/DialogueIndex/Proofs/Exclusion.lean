import DialogueIndex.Proofs.FileTree.Leaf
import DialogueIndex.Proofs.Glob.Directories
import DialogueIndex.Proofs.Ignore.Filter
import DialogueIndex.Proofs.Scanner

/-! # What no scan lists

The standard patterns leave out all files below directories with certain names, however deep the
directories lie below the root. Hidden names are left out where they stand: a scan does not enter a
hidden directory, so that it lists nothing below one.
-/

namespace DialogueIndex

namespace IgnoreFilter

/-- The directories below which the standard patterns leave everything out. Of several names, each
is that of a directory somewhere below the one in front. -/
def standardDirectories : List (List String) :=
  [[".git"], [".godot"], [".import"], ["addons", "tests"], ["build"], ["export"], ["target"]]

/-- The standard patterns are those for the standard directories. -/
theorem patternsOf_standardTexts :
    patternsOf standardTexts =
      .ok (standardDirectories.map fun names => ⟨globOptions, Glob.directoryTokens names⟩) := rfl

/-- No standard pattern goes by the name of a file. -/
theorem goesByName_standardDirectories : ∀ names ∈ standardDirectories,
    Glob.goesByName globOptions (Glob.directoryTokens names) = false := by
  decide

section

variable {tree : FileTree} {config : ScanConfig} {filter : IgnoreFilter}
  (hfilter : ofConfig tree config = .ok filter) (hroot : config.root.text ≠ "")
  {dirs : List String} {name : String} (hnames : ∀ other ∈ dirs ++ [name], IsEntryName other)

include hfilter hroot hnames

/-- Everything below standard directories is left out, whatever else is in the configuration. -/
theorem ignores_of_standardDirectories {excluded : List String}
    (hexcluded : excluded ∈ standardDirectories) (hsub : excluded.Sublist dirs)
    (isDirectory : Bool) :
    filter.ignores (config.root.descend (dirs ++ [name])) isDirectory := by
  obtain ⟨own, standard, _, hstandard, rfl⟩ := ofConfig_eq_ok_iff.mp hfilter
  rw [patternsOf_standardTexts, Except.ok.injEq] at hstandard
  have hmatch := GlobPattern.isMatch_directoryTokens
    (goesByName_standardDirectories excluded hexcluded) hsub name
  have hpath := Path.descend_relativeTo hroot hnames (List.concat_ne_nil name dirs)
  rw [ignores, hpath, Path.intercalate_toList, Bool.or_eq_true, Bool.or_eq_true, List.any_eq_true]
  refine Or.inl (Or.inr ⟨_, List.mem_append_left own ?_, hmatch⟩)
  rw [← hstandard]
  exact List.mem_map_of_mem hexcluded

/-- Hidden names are left out unless they are asked for. -/
theorem ignores_of_hidden (hhidden : config.includeHidden = false)
    (hname : name.toList.head? = some '.') (isDirectory : Bool) :
    filter.ignores (config.root.descend (dirs ++ [name])) isDirectory := by
  obtain ⟨own, standard, _, _, rfl⟩ := ofConfig_eq_ok_iff.mp hfilter
  have hlast : (config.root.descend (dirs ++ [name])).fileName? = some name.toList := by
    rw [Path.fileName?_descend hroot hnames (List.concat_ne_nil name dirs), List.getLast?_concat]
    rfl
  rw [ignores, isHidden, hlast, hhidden, Option.any_some, hname]
  rfl

end

end IgnoreFilter

/-- A file is listed under names below the root, and neither it nor a directory on the way to it is
left out. -/
theorem Scanner.exists_names_of_mem_files {scanner : Scanner} {tree : FileTree}
    (htree : tree.top.IsFormed) {file : FileOutline} (hfile : file ∈ scanner.files tree) :
    scanner.config.root.text ≠ "" ∧ ∃ names : Location, (∀ name ∈ names, IsEntryName name) ∧
      file.path.components = names.map (fun name => .name name.toList) ∧
      ∀ dirs name, dirs ++ [name] <+: names → ∃ isDirectory,
        scanner.filter.ignores (scanner.config.root.descend (dirs ++ [name])) isDirectory =
          false := by
  obtain ⟨leaf, hleaf, hsource, houtline⟩ := exists_leaf_of_mem_files hfile
  obtain ⟨⟨_, hkept, _⟩, _⟩ := source?_leaf_eq_some_iff.mp hsource
  obtain ⟨text, _, rfl⟩ := outline?_eq_some_iff.mp houtline
  have hroot : scanner.config.root.text ≠ "" := Walk.start_ne_empty_of_mem_visits hleaf
  refine ⟨hroot, ?_⟩
  rcases Walk.getsTo_of_mem_visits htree hleaf with hstart | ⟨dir, last, hdir, hlast, hpath⟩
  · refine ⟨[], List.forall_mem_nil _, ?_, by simp⟩
    change (leaf.path.relativeTo scanner.config.root).components = []
    rw [hstart, Path.relativeTo_self]
    rfl
  · obtain ⟨above, habove, rfl, hentered⟩ := hdir.exists_entered
    rw [Path.join_descend] at hpath
    have hnames : ∀ name ∈ above ++ [last], IsEntryName name :=
      List.forall_mem_append.mpr ⟨habove, List.forall_mem_singleton.mpr hlast⟩
    refine ⟨above ++ [last], hnames, ?_, ?_⟩
    · change (leaf.path.relativeTo scanner.config.root).components = _
      rw [hpath, Path.components_relativeTo hroot hnames]
    · intro dirs name hprefix
      rcases List.prefix_concat_iff.mp hprefix with hwhole | hprefix
      · exact ⟨false, by rw [hwhole, ← hpath, hkept]⟩
      · exact ⟨true, enters_walk_iff _ |>.mp (hentered dirs name hprefix)⟩

/-- A scan lists no file below a directory for version control, caches or exports, nor one below a
directory for tests below one for addons, and nothing with a hidden name on the way unless hidden
names are asked for. This is so however the tree has changed since the scanner was opened. -/
theorem scan_lists_nothing_excluded {earlier tree : FileTree} {config : ScanConfig}
    {scanner : Scanner} (htree : tree.top.IsFormed)
    (hscanner : Scanner.ofConfig earlier config = .ok scanner) (measure : Nat → ScanMetadata)
    {file : FileOutline} (hfile : file ∈ (scanner.scan tree measure).files) :
    ∃ names : Location, file.path.components = names.map (fun name => .name name.toList) ∧
      (∀ excluded ∈ [".git", ".godot", ".import", "build", "export", "target"],
        excluded ∉ names.dropLast) ∧
      ¬ ["addons", "tests"].Sublist names.dropLast ∧
      (config.includeHidden = false → ∀ name ∈ names, name.toList.head? ≠ some '.') := by
  obtain ⟨rfl, hfilter⟩ := Scanner.ofConfig_eq_ok_iff.mp hscanner
  obtain ⟨hroot, names, hnames, hpath, hkept⟩ := Scanner.exists_names_of_mem_files htree hfile
  -- Below a standard directory the file itself would be left out.
  have hstandard : ∀ excluded ∈ IgnoreFilter.standardDirectories,
      ¬ excluded.Sublist names.dropLast := by
    intro excluded hexcluded hsub
    rcases List.eq_nil_or_concat' names with rfl | ⟨dirs, last, rfl⟩
    · rw [List.dropLast_nil, List.sublist_nil] at hsub
      exact absurd (hsub ▸ hexcluded) (by decide)
    · obtain ⟨isDirectory, hfileKept⟩ := hkept dirs last (List.prefix_refl _)
      rw [List.dropLast_concat] at hsub
      rw [IgnoreFilter.ignores_of_standardDirectories hfilter hroot hnames hexcluded hsub]
        at hfileKept
      cases hfileKept
  have hsingle : ∀ excluded ∈ [".git", ".godot", ".import", "build", "export", "target"],
      [excluded] ∈ IgnoreFilter.standardDirectories := by decide
  refine ⟨names, hpath, ?_, hstandard _ (by decide), ?_⟩
  · intro excluded hexcluded hmem
    exact hstandard _ (hsingle excluded hexcluded) (List.singleton_sublist.mpr hmem)
  · intro hhidden name hname hdot
    obtain ⟨dirs, behind, rfl⟩ := List.append_of_mem hname
    have hbegins : dirs ++ [name] <+: dirs ++ name :: behind := ⟨behind, by simp⟩
    obtain ⟨isDirectory, hnameKept⟩ := hkept dirs name hbegins
    have hdirs : ∀ other ∈ dirs ++ [name], IsEntryName other :=
      fun other hother => hnames other (hbegins.subset hother)
    rw [IgnoreFilter.ignores_of_hidden hfilter hroot hdirs hhidden hdot] at hnameKept
    cases hnameKept

/-! ## A project with tests, of which some are those of addons -/

/-- Addons below a directory for tests, and tests below one for addons. -/
def addonTree : FileTree where
  entries := [
    ("tests", .directory [("addons", .directory [("a.dialogue", .file "~ a\n".toUTF8)])]),
    ("addons", .directory
      [("quest", .directory [("tests", .directory [("b.dialogue", .file "~ b\n".toUTF8)])])]),
    ("build", .directory [("c.dialogue", .file "~ c\n".toUTF8)]),
    (".d.dialogue", .file "~ d\n".toUTF8)]
  workingDirectory := []

/-- What a scan says of the addon below the tests. -/
def testedAddon : FileOutline where
  path := ⟨"tests/addons/a.dialogue"⟩
  absolutePath := ⟨"/tests/addons/a.dialogue"⟩
  totalLines := 2
  entries := [⟨"a", "Dialogue block", .namespaced, 0, 0, 1, 0⟩]

theorem isFormed_addonTree : addonTree.top.IsFormed := by decide

theorem outlines_addons :
    (Scanner.ofConfig addonTree (.standard ⟨"."⟩ 1)).toOption.map (fun scanner =>
      (scanner.sources addonTree).filterMap (scanner.outline? addonTree)) = some [testedAddon] := by
  decide +kernel

theorem scan_lists_tested_addon :
    addonTree.top.IsFormed ∧ ∃ scanner,
      Scanner.ofConfig addonTree (.standard ⟨"."⟩ 1) = .ok scanner ∧
      ∀ measure, (scanner.scan addonTree measure).files = [testedAddon] ∧
        ∃ names : Location,
          testedAddon.path.components = names.map (fun name => .name name.toList) ∧
          ¬ ["addons", "tests"].Sublist names.dropLast ∧
          ∀ name ∈ names, name.toList.head? ≠ some '.' := by
  obtain ⟨scanner, hscanner, houtlines⟩ := Scanner.exists_of_map_toOption outlines_addons
  refine ⟨isFormed_addonTree, scanner, hscanner, ?_⟩
  intro measure
  have hfiles : (scanner.scan addonTree measure).files = [testedAddon] := by
    rw [Scanner.scan, Scanner.files, houtlines, List.mergeSort_singleton]
  obtain ⟨names, hpath, _, htests, hhidden⟩ := scan_lists_nothing_excluded isFormed_addonTree
    hscanner measure (hfiles ▸ List.mem_singleton_self testedAddon)
  exact ⟨hfiles, names, hpath, htests, hhidden rfl⟩

end DialogueIndex
