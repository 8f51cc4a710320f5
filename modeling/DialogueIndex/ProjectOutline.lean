import DialogueIndex.Outline
import DialogueIndex.Path
import DialogueIndex.Number.Binary64

/-! # Outlines of projects

The outlines of the files of a project, with counts over all of them and what was measured while
they were collected.
-/

namespace DialogueIndex

/-- The version of the tool that made an outline. -/
def toolVersion : String := "0.1.0"

/-- The outline of one file. -/
structure FileOutline where
  path : Path
  absolutePath : Path
  totalLines : Nat
  entries : List OutlineEntry
deriving DecidableEq, Repr

namespace FileOutline

def totalSections (file : FileOutline) : Nat := file.entries.length

/-- The number of sections with the placeholder for a name. -/
def untitledSections (file : FileOutline) : Nat := file.entries.countP (·.isUntitled)

end FileOutline

/-- Counts over the files of a project. -/
structure ScanStats where
  totalFiles : Nat
  totalLines : Nat
  totalSections : Nat
  untitledSections : Nat
  filesWithoutSections : Nat
deriving DecidableEq, Repr

def totalOf (counts : List Nat) : Nat := counts.foldr (· + ·) 0 % countRange

def ScanStats.ofFiles (files : List FileOutline) : ScanStats where
  totalFiles := files.length
  totalLines := totalOf (files.map (·.totalLines))
  totalSections := totalOf (files.map (·.totalSections))
  untitledSections := totalOf (files.map (·.untitledSections))
  filesWithoutSections := files.countP (·.entries.isEmpty)

/-- What was measured while an outline was collected. -/
structure ScanMetadata where
  durationMs : Nat
  filesPerSecond : Binary64
  timestamp : String
  toolVersion : String
deriving DecidableEq

namespace ScanMetadata

def nanosPerSecond : Nat := Nat.pow 10 9

def nanosPerMs : Nat := Nat.pow 10 6

/-- A duration in seconds. The whole seconds and the rest are rounded apart, then their sum. -/
def seconds (nanos : Nat) : Binary64 :=
  Binary64.addMagnitude (.ofNat (nanos / nanosPerSecond))
    (Binary64.divMagnitude (.ofNat (nanos % nanosPerSecond)) (.ofNat nanosPerSecond))

/-- Files per second, or the number of files when no time went by. -/
def rate (nanos fileCount : Nat) : Binary64 :=
  if nanos = 0 then .ofNat fileCount else Binary64.divMagnitude (.ofNat fileCount) (seconds nanos)

def measured (nanos fileCount : Nat) (timestamp : String) : ScanMetadata where
  durationMs := nanos / nanosPerMs % countRange
  filesPerSecond := rate nanos fileCount
  timestamp := timestamp
  toolVersion := DialogueIndex.toolVersion

end ScanMetadata

/-- The outlines of the files under a root. -/
structure ProjectOutline where
  root : Path
  files : List FileOutline
  stats : ScanStats
  metadata : ScanMetadata
deriving DecidableEq

/-- A file on its own as a project: the root is its directory. -/
def ProjectOutline.single (file : FileOutline) (metadata : ScanMetadata) : ProjectOutline where
  root := file.absolutePath.parent?.getD ⟨""⟩
  files := [file]
  stats := .ofFiles [file]
  metadata := metadata

end DialogueIndex
