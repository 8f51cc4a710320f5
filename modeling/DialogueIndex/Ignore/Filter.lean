import DialogueIndex.Ignore.RuleFile
import DialogueIndex.ScanConfig

/-! # Ignore filters

Which files a scan leaves out and which directories it does not enter. Hidden names are left out
unless they are asked for; then the standard patterns and those of the configuration are tried on
the path below the root, and last the rules of the ignore files.
-/

namespace DialogueIndex

/-- What a scan leaves out. -/
structure IgnoreFilter where
  root : Path
  includeHidden : Bool
  patterns : List GlobPattern
  rules : List IgnoreRule

namespace IgnoreFilter

/-- How the patterns of configurations are read. -/
def globOptions : Glob.Options := ⟨false, false⟩

/-- The directories that never hold sources: those of version control, of caches and of exports. -/
def standardTexts : List String :=
  ["**/.git/**", "**/.godot/**", "**/.import/**", "**/addons/**/tests/**", "**/build/**",
   "**/export/**", "**/target/**"]

/-- The patterns with the given texts, or the first error. -/
def patternsOf (texts : List String) : Except GlobError (List GlobPattern) :=
  texts.mapM (GlobPattern.ofText globOptions)

/-- The name of the ignore file of a directory. -/
def rulesName : String := ".gitignore"

/-- The ignore files of a configuration that are there, with what they hold. -/
def ruleFiles (tree : FileTree) (config : ScanConfig) : List (Path × RuleFile) :=
  let paths := config.root.join rulesName :: config.ignoreFile.toList
  (paths.filter tree.contains).map fun p => (p, RuleFile.read tree p)

/-- The rules of ignore files. There are none unless at least one of the files is free of faults. -/
def rulesOf (files : List (Path × RuleFile)) : List IgnoreRule :=
  if files.any (·.2.faults.isEmpty) then files.flatMap (·.2.rules) else []

def ofConfig (tree : FileTree) (config : ScanConfig) : Except ConfigError IgnoreFilter :=
  match patternsOf config.ignorePatterns, patternsOf standardTexts with
  | .ok own, .ok standard =>
    .ok ⟨config.root, config.includeHidden, standard ++ own, rulesOf (ruleFiles tree config)⟩
  | .error error, _ => .error (.glob error)
  | .ok _, .error error => .error (.glob error)

/-- Whether a path is that of a hidden file or directory. -/
def isHidden (p : Path) : Bool := p.fileName?.any (·.head? == some '.')

/-- Whether a path is left out. -/
def ignores (filter : IgnoreFilter) (p : Path) (isDirectory : Bool) : Bool :=
  let below := (p.relativeTo filter.root).text.toList
  (!filter.includeHidden && isHidden p) || filter.patterns.any (·.isMatch below) ||
    IgnoreRule.ignores filter.rules (IgnoreRule.candidate filter.root p) isDirectory

end IgnoreFilter

end DialogueIndex
