import DialogueIndex.FileTree.Lookup
import DialogueIndex.Glob.Pattern
import DialogueIndex.Settings.Reader

/-! # Configuration of scans

What a scan is told: where to look, which files are dialogue files, and which of them to leave out.
A configuration is changed one setting at a time or by a settings file, which changes what it
mentions and nothing else. The root is never changed.
-/

namespace DialogueIndex

/-- What a scan is told. -/
structure ScanConfig where
  root : Path
  extensions : List String
  ignorePatterns : List String
  ignoreFile : Option Path
  threads : Nat
  /-- The size in bytes up to which files are read. -/
  maxFileSize : Nat
  followLinks : Bool
  includeHidden : Bool
  /-- Sections with the placeholder for a name are part of outlines. -/
  includeUntitled : Bool
deriving DecidableEq, Repr

/-- Why a configuration cannot be used. -/
inductive ConfigError where
  | glob (error : GlobError)
  | unreadable (cause : FileError)
  | settings
deriving DecidableEq, Repr

def ConfigError.message : ConfigError → String
  | glob error => "Invalid glob pattern: " ++ error.message
  | unreadable cause => "IO error: " ++ cause.message
  | settings => "Invalid configuration: "

/-- One step in setting up a configuration. -/
inductive ConfigChange where
  | extensions (value : List String)
  | ignorePatterns (value : List String)
  | ignoreFile (value : Path)
  | threads (value : Nat)
  | maxFileSize (value : Nat)
  | followLinks (value : Bool)
  | includeHidden (value : Bool)
  | includeUntitled (value : Bool)
  /-- Read a settings file. -/
  | load (file : Path)
  /-- Read the settings file of the root, if there is one. -/
  | loadOwn
deriving DecidableEq, Repr

namespace ScanConfig

/-- The name of the settings file of a project. -/
def settingsName : String := "mta-dialogue.toml"

/-- The configuration before anything is set. -/
def standard (root : Path) (threads : Nat) : ScanConfig where
  root := root
  extensions := ["dialogue"]
  ignorePatterns := []
  ignoreFile := none
  threads := threads
  maxFileSize := 10 * 1024 * 1024
  followLinks := false
  includeHidden := false
  includeUntitled := true

/-- The configuration with the settings laid over it. An ignore file is seen from the root. -/
def apply (config : ScanConfig) (s : Settings) : ScanConfig where
  root := config.root
  extensions := s.extensions.getD config.extensions
  ignorePatterns := s.ignore.getD config.ignorePatterns
  ignoreFile := (s.ignoreFile.map config.root.join).or config.ignoreFile
  threads := s.threads.getD config.threads
  maxFileSize := s.maxFileSize.getD config.maxFileSize
  followLinks := s.followLinks.getD config.followLinks
  includeHidden := s.includeHidden.getD config.includeHidden
  includeUntitled := s.includeUntitled.getD config.includeUntitled

/-- The configuration with the settings of a file laid over it. -/
def load (config : ScanConfig) (tree : FileTree) (file : Path) : Except ConfigError ScanConfig :=
  match tree.readText file with
  | .error cause => .error (.unreadable cause)
  | .ok text =>
    match Settings.ofText? text with
    | some settings => .ok (config.apply settings)
    | none => .error .settings

/-- The path of the settings file of the root. -/
def ownSettings (config : ScanConfig) : Path := config.root.join settingsName

/-- The configuration with the settings of the root laid over it, if there are any. -/
def loadOwn (config : ScanConfig) (tree : FileTree) : Except ConfigError ScanConfig :=
  if tree.isFile config.ownSettings then config.load tree config.ownSettings else .ok config

def change (config : ScanConfig) (tree : FileTree) : ConfigChange → Except ConfigError ScanConfig
  | .extensions value => .ok { config with extensions := value }
  | .ignorePatterns value => .ok { config with ignorePatterns := value }
  | .ignoreFile value => .ok { config with ignoreFile := some value }
  | .threads value => .ok { config with threads := value }
  | .maxFileSize value => .ok { config with maxFileSize := value }
  | .followLinks value => .ok { config with followLinks := value }
  | .includeHidden value => .ok { config with includeHidden := value }
  | .includeUntitled value => .ok { config with includeUntitled := value }
  | .load file => config.load tree file
  | .loadOwn => config.loadOwn tree

/-- Whether a file extension is the wanted one, which may be written with dots in front. The case
of ASCII letters does not count. -/
def sameExtension (wanted : String) (extension : List Char) : Bool :=
  (wanted.toList.dropWhile (· = '.')).map Char.toLower == extension.map Char.toLower

/-- Whether a path is that of a dialogue file. -/
def isDialogueFile (config : ScanConfig) (p : Path) : Bool :=
  match p.extension? with
  | some extension => config.extensions.any (sameExtension · extension)
  | none => false

end ScanConfig

end DialogueIndex
