import DialogueIndex.Proofs.FileTree.Leaf
import DialogueIndex.Proofs.Scanner
import DialogueIndex.Proofs.SourceFile

/-! # The size limit of scans and of single files

A scan and the outline of a single file read through links, but they do not measure the same: when
links are not followed, a scan holds the limit against the link and not against what is read.
Everything else about a file is the same both ways.
-/

namespace DialogueIndex

/-- The outline of a file that a scan lists is found again at the file's path below the root, and
it is the same but for the path it is listed under, unless the file is too large. It can only be too
large if links are not followed and its path is that of a link whose own size is within the
limit. -/
theorem scanned_file_outlines_alone {tree : FileTree} {config : ScanConfig} {scanner : Scanner}
    (htree : tree.top.IsFormed) (hroot : tree.isDirectory config.root)
    (hscanner : Scanner.ofConfig tree config = .ok scanner) (measure : Nat → ScanMetadata)
    {file : FileOutline} (hfile : file ∈ (scanner.scan tree measure).files) :
    ∃ size, tree.size (config.root.join file.path.text) = .ok size ∧
      config.outlineFile tree (config.root.join file.path.text) =
        (if config.maxFileSize < size then
          .error (.tooLarge (config.root.join file.path.text) size)
        else .ok { file with path := config.root.join file.path.text }) ∧
      (config.maxFileSize < size → config.followLinks = false ∧ ∃ place target,
        tree.find .kept (config.root.join file.path.text) = .ok (place, .link target) ∧
          target.utf8ByteSize ≤ config.maxFileSize) := by
  obtain rfl := Scanner.config_of_ofConfig hscanner
  obtain ⟨place, entries, hfound⟩ := FileTree.isDirectory_iff.mp hroot
  obtain ⟨leaf, hleaf, hsource, houtline⟩ := Scanner.exists_leaf_of_mem_files hfile
  obtain ⟨⟨_, _, hsmall⟩, _⟩ := Scanner.source?_leaf_eq_some_iff.mp hsource
  rcases Walk.isLeaf_of_mem_visits htree hfound hleaf with hstart | hbelow
  · -- The root is a directory, of which there is no outline.
    have hnone : scanner.outline? tree leaf.path = none := hstart ▸ Scanner.outline?_root hfound
    simp [hnone] at houtline
  · obtain ⟨text, hread, rfl⟩ := Scanner.outline?_eq_some_iff.mp houtline
    have hjoin : scanner.config.root.join (scanner.config.outlineText tree text
        (leaf.path.relativeTo scanner.config.root) leaf.path).path.text = leaf.path :=
      hbelow.getsTo.join_relativeTo (FileTree.text_ne_empty_of_find hfound)
    obtain ⟨size, hsize, houtlined⟩ := scanner.config.outlineFile_of_readText hread
      (leaf.path.relativeTo scanner.config.root)
    rw [hjoin]
    refine ⟨size, hsize, houtlined, ?_⟩
    intro hlarge
    rcases hbelow.size_eq (FileTree.short_of_readText hread) with hsame | hlink
    · -- What the walk has measured is what is read, and that is within the limit.
      have heq : size = leaf.size := Except.ok.inj (hsize.symm.trans hsame)
      omega
    · obtain ⟨hfollows, link, target, hkept, hlength⟩ := hlink
      exact ⟨hfollows, link, target, hkept, hlength ▸ hsmall⟩

/-! ## A link to a file of 23 bytes -/

def linkedText : String := "~ start\nNathan: Hello.\n"

/-- A tree with a file that is reached by a link. -/
def linkedTree : FileTree :=
  ⟨[("big.txt", .file linkedText.toUTF8), ("a.dialogue", .link "big.txt")], []⟩

/-- The standard configuration up to its size limit. -/
def limitedConfig (limit : Nat) : ScanConfig :=
  { ScanConfig.standard ⟨"."⟩ 1 with maxFileSize := limit }

/-- What a scan says of the link. -/
def linkedFile : FileOutline where
  path := ⟨"a.dialogue"⟩
  absolutePath := ⟨"/big.txt"⟩
  totalLines := 3
  entries := [⟨"start", "Dialogue block", .namespaced, 0, 0, 2, 0⟩]

theorem isFormed_linkedTree : linkedTree.top.IsFormed := by decide

theorem sources_linked : ∀ limit ∈ [16, 23],
    (Scanner.ofConfig linkedTree (limitedConfig limit)).toOption.map (fun scanner =>
      (scanner.sources linkedTree).filterMap (scanner.outline? linkedTree)) =
        some [linkedFile] := by
  decide +kernel

/-- Whether the limit is below the size of the file or not, the link is listed. -/
theorem exists_scanner_lists_linked {limit : Nat} (hlimit : limit ∈ [16, 23]) :
    ∃ scanner, Scanner.ofConfig linkedTree (limitedConfig limit) = .ok scanner ∧
      ∀ measure, linkedFile ∈ (scanner.scan linkedTree measure).files := by
  obtain ⟨scanner, hscanner, hlisted⟩ :=
    Scanner.exists_of_map_toOption (sources_linked limit hlimit)
  refine ⟨scanner, hscanner, ?_⟩
  intro measure
  rw [Scanner.scan, Scanner.files, List.mem_mergeSort, hlisted]
  exact List.mem_singleton_self linkedFile

theorem linked_file_outlines_alone :
    linkedTree.top.IsFormed ∧ linkedTree.isDirectory (limitedConfig 23).root ∧
      (∃ scanner, Scanner.ofConfig linkedTree (limitedConfig 23) = .ok scanner ∧
        ∀ measure, linkedFile ∈ (scanner.scan linkedTree measure).files) ∧
      (limitedConfig 23).outlineFile linkedTree
          ((limitedConfig 23).root.join linkedFile.path.text) =
        .ok { linkedFile with path := ⟨"./a.dialogue"⟩ } := by
  have hlimit : 23 ∈ [16, 23] := by decide
  obtain ⟨scanner, hscanner, hlisted⟩ := exists_scanner_lists_linked hlimit
  have hroot : linkedTree.isDirectory (limitedConfig 23).root := by decide +kernel
  refine ⟨isFormed_linkedTree, hroot, ⟨scanner, hscanner, hlisted⟩, ?_⟩
  obtain ⟨size, hsize, houtline, _⟩ := scanned_file_outlines_alone isFormed_linkedTree hroot
    hscanner (.measured 0 · "") (hlisted _)
  have hactual : linkedTree.size ((limitedConfig 23).root.join linkedFile.path.text) = .ok 23 := by
    rfl
  cases hsize.symm.trans hactual
  exact houtline

/-- A scan lists the link, whose own size is within the limit, but what it has read is larger. -/
theorem scanned_link_too_large_alone :
    linkedTree.top.IsFormed ∧ linkedTree.isDirectory (limitedConfig 16).root ∧
      (∃ scanner, Scanner.ofConfig linkedTree (limitedConfig 16) = .ok scanner ∧
        ∀ measure, linkedFile ∈ (scanner.scan linkedTree measure).files) ∧
      (limitedConfig 16).outlineFile linkedTree
          ((limitedConfig 16).root.join linkedFile.path.text) =
        .error (.tooLarge ⟨"./a.dialogue"⟩ 23) := by
  have hlimit : 16 ∈ [16, 23] := by decide
  refine ⟨isFormed_linkedTree, by decide +kernel, exists_scanner_lists_linked hlimit, ?_⟩
  rfl

end DialogueIndex
