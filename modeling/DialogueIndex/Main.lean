import DialogueIndex.CommandLine.Activity
import DialogueIndex.Timestamp
import Std.Time.DateTime.Timestamp

/-! # The program

Takes a snapshot of the files that a run can look at, computes the run on it, and carries out what
it leads to.
-/

namespace DialogueIndex

/-- A file tree that grows with what is looked at on the disk. -/
structure Snapshot where
  tree : FileTree
  /-- The directories all of whose entries are in the tree. -/
  complete : List Location

namespace Snapshot

/-- The target of a link. That of a link that leads nowhere is a name that no file has. -/
def targetOf (entry : IO.FS.DirEntry) : IO String := do
  if ← entry.path.pathExists then return (← IO.FS.realPath entry.path).toString
  else
    let length := (← entry.path.symlinkMetadata).byteSize.toNat
    return String.ofList (List.replicate length '\x00')

/-- What an entry of a directory is, without the entries of a directory, and without the bytes of a
file that is not to be read. -/
def look (reads : Path → Bool) (place : Location) (name : String) : IO (Option Node) := do
  let entry : IO.FS.DirEntry := ⟨place.path.text, name⟩
  try
    match (← entry.path.symlinkMetadata).type with
    | .dir => return some (.directory [])
    | .symlink => return some (.link (← targetOf entry))
    | _ =>
      if reads ⟨name⟩ then return some (.file (← IO.FS.readBinFile entry.path))
      else return some (.file .empty)
  catch _ => return none

/-- Puts a node into the tree, unless there is one already. -/
def add (s : Snapshot) (place : Location) (node : Node) : Snapshot :=
  if (s.tree.nodeAt? place).isSome then s else { s with tree := s.tree.set place (some node) }

/-- Adds what is met on the way from a location. -/
partial def follow (s : Snapshot) (links : Nat) (place : Location) : List String → IO Snapshot
  | [] => return s
  | "" :: rest => follow s links place rest
  | "." :: rest => follow s links place rest
  | ".." :: rest => follow s links place.dropLast rest
  | name :: rest => do
    let some node ← look (fun _ => true) place name | return s
    let grown := s.add (place ++ [name]) node
    match node, links with
    | .directory _, _ => follow grown links (place ++ [name]) rest
    | .link target, links + 1 =>
      follow grown links (FileTree.startOf place target) (FileTree.stepsOf target ++ rest)
    | _, _ => return grown

def addPath (s : Snapshot) (p : Path) : IO Snapshot :=
  follow s FileTree.linkLimit (FileTree.startOf s.tree.workingDirectory p.text)
    (FileTree.stepsOf p.text)

/-- Adds everything below a directory, and, if so asked, everything behind the links in it. -/
partial def addAll (s : Snapshot) (reads : Path → Bool) (links : Bool) (place : Location) :
    IO Snapshot := do
  if place ∈ s.complete then return s
  let mut s := { s with complete := place :: s.complete }
  for entry in ← (← IO.FS.realPath place.path.text).readDir do
    if let some node ← look reads place entry.fileName then
      let child := place ++ [entry.fileName]
      s := s.add child node
      match node with
      | .directory _ => s ← addAll s reads links child
      | .link _ =>
        s ← s.addPath child.path
        if links then
          if let .ok (real, .directory _) := s.tree.find .followed child.path then
            s ← addAll s reads links real
      | .file _ => pure ()
  return s

/-- The snapshot with nothing in it but the way to the working directory. -/
def empty : IO Snapshot := do
  let here := FileTree.stepsOf (← IO.currentDir).toString
  follow ⟨⟨[], here⟩, []⟩ 0 [] here

end Snapshot

namespace CommandLine

def Command.path : Command → Path
  | .scan path => path
  | .outline path => path
  | .definition path _ => path
  | .resolve path _ => path

/-- All that a run can look at. -/
def Arguments.snapshot (args : Arguments) (env : Environment) : IO Snapshot := do
  let mut s ← (← Snapshot.empty).addPath args.command.path
  let whole := args.command matches .scan _ && s.tree.isDirectory args.command.path
  let root := if whole then args.command.path else settingsDirectory args.command.path
  s ← s.addPath root
  s ← s.addPath (root.join ScanConfig.settingsName)
  for p in args.config.toList ++ args.output.toList do s ← s.addPath p
  match args.scanConfig env s.tree root with
  | .error _ => return s
  | .ok config =>
    for p in root.join IgnoreFilter.rulesName :: config.ignoreFile.toList do s ← s.addPath p
    if whole then
      if let .ok (place, _) := s.tree.find .followed root then
        s ← s.addAll config.isDialogueFile config.followLinks place
    return s

def processorCount : IO Nat := do
  try
    let lines ← IO.FS.lines "/proc/cpuinfo"
    return max 1 (lines.toList.countP (·.startsWith "processor"))
  catch _ => return 4

def Outcome.show (outcome : Outcome) : IO UInt32 := do
  (← IO.getStdout).putStr outcome.output
  (← IO.getStderr).putStr outcome.errors
  return outcome.status.toUInt32

/-- Carries out a run. A run that prints nothing has written its report to the output file. -/
def Arguments.carryOut (args : Arguments) : IO UInt32 := do
  let started ← IO.monoNanosNow
  let moment := timestampText (← Std.Time.Timestamp.now).toNanosecondsSinceUnixEpoch.toInt.toNat
  let processors ← processorCount
  let environment (nanos : Nat) : Environment :=
    ⟨processors, fun files => .measured nanos files moment, .measured 0 1 moment⟩
  let snapshot ← args.snapshot (environment 0)
  let env := environment ((← IO.monoNanosNow) - started)
  let outcome := args.run env snapshot.tree
  for event in (args.events env snapshot.tree).filter (·.isShown args.logLevel) do
    (← IO.getStderr).putStr (event.line ++ "\n")
  match args.output with
  | some file =>
    if outcome.status = 0 ∧ outcome.errors = "" then
      if let .ok content := outcome.tree.read file then IO.FS.writeBinFile file.text content
    outcome.show
  | none => outcome.show

end CommandLine

end DialogueIndex

open DialogueIndex CommandLine in
def main (words : List String) : IO UInt32 := do
  match Arguments.ofWords words with
  | .ok args => args.carryOut
  | .error stop => (stop.outcome ⟨[], []⟩).show
