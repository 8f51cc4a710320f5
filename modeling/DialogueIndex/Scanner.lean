import DialogueIndex.FileTree.Walk
import DialogueIndex.Ignore.Filter
import DialogueIndex.SourceFile

/-! # Scans of projects

A scan outlines all dialogue files below the root of a configuration that its filter lets through
and that are not too large. Files that cannot be read are passed over. The outlines are listed in
the order of their paths.
-/

namespace DialogueIndex

/-- A configuration together with its filter. -/
structure Scanner where
  config : ScanConfig
  filter : IgnoreFilter

namespace Scanner

/-- The scanner for a configuration. It reads the ignore files. -/
def ofConfig (tree : FileTree) (config : ScanConfig) : Except ScanError Scanner :=
  match IgnoreFilter.ofConfig tree config with
  | .ok filter => .ok ⟨config, filter⟩
  | .error error => .error (.config error)

def walk (scanner : Scanner) (tree : FileTree) : Walk where
  tree := tree
  followsLinks := scanner.config.followLinks
  enters := fun p => !scanner.filter.ignores p true

def visits (scanner : Scanner) (tree : FileTree) : List Visit :=
  (scanner.walk tree).visits scanner.config.root

/-- Whether a path is that of a dialogue file that is not left out. -/
def wants (scanner : Scanner) (p : Path) : Bool :=
  scanner.config.isDialogueFile p && !scanner.filter.ignores p false

/-- Whether a leaf is small enough to be read. -/
def allows (scanner : Scanner) (leaf : Leaf) : Bool := leaf.size ≤ scanner.config.maxFileSize

/-- The path of a visit that leads to a file to be read. -/
def source? (scanner : Scanner) : Visit → Option Path
  | .leaf leaf => if scanner.wants leaf.path && scanner.allows leaf then some leaf.path else none
  | .fault _ => none

def sources (scanner : Scanner) (tree : FileTree) : List Path :=
  (scanner.visits tree).filterMap scanner.source?

/-- The outline of a file, if it can be read. It is listed under its path below the root. -/
def outline? (scanner : Scanner) (tree : FileTree) (p : Path) : Option FileOutline :=
  match tree.readText p with
  | .ok text =>
    some (scanner.config.outlineText tree text (p.relativeTo scanner.config.root) p)
  | .error _ => none

/-- Whether a file is listed before another or under the same path. -/
def listedBefore (a b : FileOutline) : Bool := (a.path.compare b.path).isLE

/-- The outlines of the files of a project in order. -/
def files (scanner : Scanner) (tree : FileTree) : List FileOutline :=
  ((scanner.sources tree).filterMap (scanner.outline? tree)).mergeSort listedBefore

/-- The outline of a project. `measure` gives what was measured during a scan of that many
files. -/
def scan (scanner : Scanner) (tree : FileTree) (measure : Nat → ScanMetadata) : ProjectOutline :=
  let files := scanner.files tree
  { root := scanner.config.root, files := files, stats := .ofFiles files,
    metadata := measure files.length }

end Scanner

end DialogueIndex
