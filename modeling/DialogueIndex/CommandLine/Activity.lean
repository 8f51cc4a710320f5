import DialogueIndex.CommandLine.Run
import DialogueIndex.Log.Activity

/-! # What a run reports about its work -/

namespace DialogueIndex

namespace CommandLine

namespace Arguments

/-- The level up to which events are reported unless another one is asked for. -/
def logLevel (args : Arguments) : LogLevel := if args.verbose then .debug else .warn

def configEvents (args : Arguments) (env : Environment) (tree : FileTree) (root : Path) :
    List LogEvent :=
  let standard := ScanConfig.standard root env.processors
  let loaded := match args.config with
    | some file => standard.loadEvents tree file
    | none => if tree.isDirectory root then standard.loadOwnEvents tree else []
  let effective := match args.scanConfig env tree root with
    | .ok config =>
      [⟨.debug, "effective config", [("root", config.root.text),
        ("extensions", quotedValues config.extensions), ("threads", toString config.threads)]⟩]
    | .error _ => []
  loaded ++ effective

/-- Work that needs the configuration of a run. -/
def eventsWith (args : Arguments) (env : Environment) (tree : FileTree) (root : Path)
    (work : ScanConfig → List LogEvent) : List LogEvent :=
  args.configEvents env tree root ++
    match args.scanConfig env tree root with
    | .ok config => work config
    | .error _ => []

def scanEvents (tree : FileTree) (config : ScanConfig) : List LogEvent :=
  IgnoreFilter.events tree config ++
    match Scanner.ofConfig tree config with
    | .ok scanner => scanner.events tree
    | .error _ => []

def events (args : Arguments) (env : Environment) (tree : FileTree) : List LogEvent :=
  match args.command with
  | .scan p =>
    if tree.isDirectory p then args.eventsWith env tree p (scanEvents tree)
    else if tree.isFile p then
      args.eventsWith env tree (settingsDirectory p) fun config => config.readEvents tree p
    else []
  | .outline p =>
    args.eventsWith env tree (settingsDirectory p) fun config => config.readEvents tree p
  | .definition p position =>
    args.eventsWith env tree (settingsDirectory p) fun config =>
      config.definitionEvents tree p position
  | .resolve p name =>
    args.eventsWith env tree (settingsDirectory p) fun config => config.sectionEvents tree p name

end Arguments

end CommandLine

end DialogueIndex
