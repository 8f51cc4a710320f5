import DialogueIndex.Log.Event
import DialogueIndex.Scanner

/-! # What is reported

The events that go with the work of the library, for each piece of work by itself. They depend on
the same things as its results do.
-/

namespace DialogueIndex

def Document.scanEvent (document : Document) : LogEvent where
  level := .trace
  message := "scanned dialogue document"
  fields := [("lines", toString document.lineCount),
    ("sections", toString document.sections.length)]

def MatchKind.message : MatchKind → String
  | .exact => "exact section match"
  | .leading => "prefix section match"

def resolveEvent (target : String) (sections : List Section) : LogEvent :=
  match resolve target sections with
  | some r =>
    ⟨.debug, r.kind.message, [("target_name", quotedValue target), ("section", r.target.name)]⟩
  | none => ⟨.debug, "no section matches", [("target_name", quotedValue target)]⟩

namespace ScanConfig

def loadEvents (config : ScanConfig) (tree : FileTree) (file : Path) : List LogEvent :=
  match config.load tree file with
  | .ok _ => [⟨.debug, "loaded config file", [("path", file.text)]⟩]
  | .error _ => []

def loadOwnEvents (config : ScanConfig) (tree : FileTree) : List LogEvent :=
  if tree.isFile config.ownSettings then config.loadEvents tree config.ownSettings else []

def readEvents (config : ScanConfig) (tree : FileTree) (p : Path) : List LogEvent :=
  match config.readSource tree p with
  | .ok text => [(Document.ofText text).scanEvent]
  | .error _ => []

/-- Finding where the reference under a position of a file leads. -/
def definitionEvents (config : ScanConfig) (tree : FileTree) (p : Path) (position : Position) :
    List LogEvent :=
  config.readEvents tree p ++
    match config.readSource tree p with
    | .ok text =>
      let document := Document.ofText text
      (document.tokenAt position).toList.map fun token =>
        resolveEvent token.text document.sections
    | .error _ => []

def sectionEvents (config : ScanConfig) (tree : FileTree) (p : Path) (name : String) :
    List LogEvent :=
  config.readEvents tree p ++
    match config.readSource tree p with
    | .ok text => [resolveEvent name (DialogueIndex.scan text)]
    | .error _ => []

end ScanConfig

def IgnoreFilter.events (tree : FileTree) (config : ScanConfig) : List LogEvent :=
  (ruleFiles tree config).filterMap fun (p, file) =>
    if file.faults.isEmpty then none
    else some ⟨.warn, "skipping unreadable ignore file",
      [("path", p.text), ("error", file.message p)]⟩

namespace Scanner

def visitEvent? (scanner : Scanner) : Visit → Option LogEvent
  | .fault fault => some ⟨.warn, "skipping unreadable entry", [("error", fault.message)]⟩
  | .leaf leaf =>
    if scanner.wants leaf.path && !scanner.allows leaf then
      some ⟨.debug, "skipping large file",
        [("path", leaf.path.text), ("size", toString leaf.size)]⟩
    else none

def sourceEvent (tree : FileTree) (p : Path) : LogEvent :=
  match tree.readText p with
  | .ok text => (Document.ofText text).scanEvent
  | .error cause =>
    ⟨.warn, "skipping unreadable file", [("path", p.text), ("error", cause.message)]⟩

def events (scanner : Scanner) (tree : FileTree) : List LogEvent :=
  (scanner.visits tree).filterMap scanner.visitEvent? ++
    [⟨.debug, "found dialogue files", [("root", scanner.config.root.text),
      ("files", toString (scanner.sources tree).length)]⟩] ++
    (scanner.sources tree).map (sourceEvent tree)

end Scanner

end DialogueIndex
