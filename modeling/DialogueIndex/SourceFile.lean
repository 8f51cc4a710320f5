import DialogueIndex.Definition
import DialogueIndex.ProjectOutline
import DialogueIndex.ScanConfig

/-! # Single files

The outline of one file, and the definitions that are found in it. A file that is larger than the
configuration allows is not read.
-/

namespace DialogueIndex

/-- Why files cannot be looked at. -/
inductive ScanError where
  | unreadable (cause : FileError)
  | config (error : ConfigError)
  | tooLarge (path : Path) (size : Nat)
deriving DecidableEq, Repr

def ScanError.message : ScanError → String
  | unreadable cause => "IO error: " ++ cause.message
  | config error => "Config error: " ++ error.message
  | tooLarge path size => "File too large: " ++ path.text ++ " (" ++ toString size ++ " bytes)"

namespace ScanConfig

/-- The entries that a configuration lets through. -/
def shownEntries (config : ScanConfig) (entries : List OutlineEntry) : List OutlineEntry :=
  if config.includeUntitled then entries else entries.filter (!·.isUntitled)

/-- The outline of a text that was read at `source` and is listed under `listed`. -/
def outlineText (config : ScanConfig) (tree : FileTree) (text : String) (listed source : Path) :
    FileOutline where
  path := listed
  absolutePath := match tree.canonical source with
    | .ok p => p
    | .error _ => source
  totalLines := (Document.ofText text).lineCount
  entries := config.shownEntries (Document.ofText text).outline

/-- The text of a file that is not too large. -/
def readSource (config : ScanConfig) (tree : FileTree) (p : Path) : Except ScanError String :=
  match tree.size p with
  | .error cause => .error (.unreadable cause)
  | .ok size =>
    if config.maxFileSize < size then .error (.tooLarge p size)
    else match tree.readText p with
      | .error cause => .error (.unreadable cause)
      | .ok text => .ok text

def outlineFile (config : ScanConfig) (tree : FileTree) (p : Path) :
    Except ScanError FileOutline :=
  (config.readSource tree p).map fun text => config.outlineText tree text p p

/-- Where the reference under a position of a file leads. -/
def findDefinition (config : ScanConfig) (tree : FileTree) (p : Path) (position : Position) :
    Except ScanError (Option Definition) :=
  (config.readSource tree p).map fun text =>
    let document := Document.ofText text
    (document.referenceAt document.sections position).map fun reference =>
      reference.resolution.toDefinition p reference.token.text

/-- Where a name leads in a file. -/
def findSection (config : ScanConfig) (tree : FileTree) (p : Path) (name : String) :
    Except ScanError (Option Definition) :=
  (config.readSource tree p).map fun text =>
    (resolve name (scan text)).map fun resolution => resolution.toDefinition p name

end ScanConfig

end DialogueIndex
