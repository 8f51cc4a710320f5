import DialogueIndex.CommandLine.Arguments
import DialogueIndex.CommandLine.Failure
import DialogueIndex.FileTree.Change
import DialogueIndex.Scanner

/-! # Runs of the program

A run makes a report, or a notice when there is nothing to report. A report goes to the standard
output or to a file; nothing else in the file tree is ever changed. The configuration of a run comes
from three layers: what is standard, one settings file, and the arguments.
-/

namespace DialogueIndex

namespace CommandLine

/-- What a run depends on besides its arguments and the file tree. -/
structure Environment where
  /-- The number of processors. -/
  processors : Nat
  /-- What is measured during a scan of that many files. -/
  scanned : Nat → ScanMetadata
  /-- What is measured while one file is outlined. -/
  outlined : ScanMetadata

/-- What a run leads to. -/
structure Outcome where
  status : Nat
  output : String
  errors : String
  tree : FileTree

/-- What a run makes. -/
inductive Product where
  | report (text : String)
  | notice (text : String)
deriving DecidableEq, Repr

/-- The directory whose settings hold for a file. -/
def settingsDirectory (p : Path) : Path :=
  match p.parent? with
  | some parent => if parent.text = "" then ⟨"."⟩ else parent
  | none => ⟨"."⟩

def programName : String := "mta-dialogue"

def usage : String :=
  "Usage: " ++ programName ++ " [OPTIONS] [PATH] [COMMAND]\n\n" ++
  "Commands:\n" ++
  "  scan [PATH]                        Outline every dialogue file under a directory\n" ++
  "  outline <PATH>                     Outline a single file\n" ++
  "  definition <PATH> -l <N> [-c <N>]  Find the section a reference points to\n" ++
  "  resolve <PATH> <NAME>              Resolve a section name within a file\n\n" ++
  "Options:\n" ++
  "  -f, --format <FORMAT>   json, yaml, ansi or summary\n" ++
  "  -o, --output <OUTPUT>   Output file\n" ++
  "      --config <CONFIG>   Settings file\n" ++
  "      --ext <EXT>         File extension, may be repeated\n" ++
  "      --ignore <PATTERN>  Ignore pattern, may be repeated\n" ++
  "      --no-untitled       Leave untitled sections out\n" ++
  "      --threads <N>       Number of threads\n" ++
  "  -v, --verbose           Report on the work\n" ++
  "  -h, --help              Print help\n" ++
  "  -V, --version           Print version\n"

/-- What comes of words that ask for no work. -/
def Stop.outcome (tree : FileTree) : Stop → Outcome
  | .version => ⟨0, programName ++ " " ++ toolVersion ++ "\n", "", tree⟩
  | .help => ⟨0, usage, "", tree⟩
  | .refused => ⟨2, "", "error: the arguments make no sense\n\n" ++ usage, tree⟩

/-- A result, or what was tried and why it failed. -/
def attempt {ε α : Type} (text : String) (causes : ε → List String) (result : Except ε α) :
    Except Failure α :=
  result.mapError fun e => ⟨text, causes e⟩

namespace Arguments

/-- The configuration with the settings file of a run laid over it: the one that is asked for, or
else that of the root if the root is a directory. -/
def withSettings (args : Arguments) (tree : FileTree) (config : ScanConfig) :
    Except Failure ScanConfig :=
  match args.config with
  | some file =>
    attempt ("Failed to load config " ++ file.text) ConfigError.causes (config.load tree file)
  | none =>
    if tree.isDirectory config.root then
      attempt ("Failed to load " ++ ScanConfig.settingsName) ConfigError.causes
        (config.loadOwn tree)
    else .ok config

/-- The configuration with the arguments laid over it. Patterns are added to those that are
there. -/
def applyTo (args : Arguments) (config : ScanConfig) : ScanConfig :=
  { config with
    extensions := if args.extensions.isEmpty then config.extensions else args.extensions
    ignorePatterns := config.ignorePatterns ++ args.ignore
    includeUntitled := config.includeUntitled && !args.noUntitled
    threads := args.threads.getD config.threads }

def scanConfig (args : Arguments) (env : Environment) (tree : FileTree) (root : Path) :
    Except Failure ScanConfig :=
  (args.withSettings tree (.standard root env.processors)).map args.applyTo

def scanProduct (args : Arguments) (env : Environment) (tree : FileTree) (p : Path) :
    Except Failure Product := do
  let config ← args.scanConfig env tree p
  let scanner ← attempt "Failed to create scanner" ScanError.causes (Scanner.ofConfig tree config)
  return .report ((scanner.scan tree env.scanned).report args.format)

/-- The report on a file. As data, a file stands for itself; otherwise it is a project. -/
def fileReport (env : Environment) (file : FileOutline) : Format → String
  | .json => file.toData.toJson
  | .yaml => file.toData.toYaml
  | .ansi => (ProjectOutline.single file env.outlined).report .ansi
  | .summary => (ProjectOutline.single file env.outlined).report .summary

def outlineProduct (args : Arguments) (env : Environment) (tree : FileTree) (p : Path) :
    Except Failure Product := do
  let config ← args.scanConfig env tree (settingsDirectory p)
  let file ← attempt ("Failed to outline " ++ p.text) ScanError.causes (config.outlineFile tree p)
  return .report (fileReport env file args.format)

/-- The report on a definition, or a notice when there is none. -/
def definitionProduct (args : Arguments) (notice : String) : Option Definition → Product
  | some definition => .report (definition.report args.format)
  | none => .notice notice

def product (args : Arguments) (env : Environment) (tree : FileTree) : Except Failure Product :=
  match args.command with
  | .scan p =>
    if tree.isDirectory p then args.scanProduct env tree p
    else if tree.isFile p then args.outlineProduct env tree p
    else .error ⟨"Path does not exist: " ++ p.text, []⟩
  | .outline p => args.outlineProduct env tree p
  | .definition p position => do
    let config ← args.scanConfig env tree (settingsDirectory p)
    let found ← attempt ("Failed to read " ++ p.text) ScanError.causes
      (config.findDefinition tree p position)
    return args.definitionProduct ("No definition at " ++ toString position.line ++ ":" ++
      toString position.character) found
  | .resolve p name => do
    let config ← args.scanConfig env tree (settingsDirectory p)
    let found ← attempt ("Failed to read " ++ p.text) ScanError.causes
      (config.findSection tree p name)
    return args.definitionProduct ("No section matches '" ++ name ++ "'") found

def failed (tree : FileTree) (failure : Failure) : Outcome := ⟨1, "", failure.report, tree⟩

def run (args : Arguments) (env : Environment) (tree : FileTree) : Outcome :=
  match args.product env tree with
  | .error failure => failed tree failure
  | .ok (.notice text) => ⟨0, "", text ++ "\n", tree⟩
  | .ok (.report text) =>
    match args.output with
    | none => ⟨0, text ++ "\n", "", tree⟩
    | some file =>
      match tree.write file text.toUTF8 with
      | .ok written => ⟨0, "", "", written⟩
      | .error cause => failed tree ⟨"Failed to write output file", [cause.message]⟩

end Arguments

end CommandLine

end DialogueIndex
