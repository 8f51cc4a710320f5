import DialogueIndex.Definition
import DialogueIndex.Number.Decimal
import DialogueIndex.ProjectOutline

/-! # Plain summaries

A summary of a project has a block for each file, set off by an empty line. Counts of untitled
sections and of files without sections are given only when there are any.
-/

namespace DialogueIndex

namespace Summary

def entryLine (e : OutlineEntry) : String :=
  "  " ++ e.name ++ " (" ++ countText e.startLine ++ ":" ++ countText e.endLine ++ ")\n"

def fileBlock (file : FileOutline) : String :=
  "\n" ++ file.path.text ++ "\n" ++ String.join (file.entries.map entryLine)

/-- A line with a count, unless the count is zero. -/
def countLineIfAny (heading : String) (count : Nat) : String :=
  if count > 0 then heading ++ ": " ++ countText count ++ "\n" else ""

def header (p : ProjectOutline) : String :=
  "Dialogue Scan Results\n" ++ "=====================\n\n" ++
    "Root: " ++ p.root.text ++ "\n" ++
    "Total Files: " ++ countText p.stats.totalFiles ++ "\n" ++
    "Total Lines: " ++ countText p.stats.totalLines ++ "\n" ++
    "Total Sections: " ++ countText p.stats.totalSections ++ "\n" ++
    countLineIfAny "Untitled Sections" p.stats.untitledSections ++
    countLineIfAny "Files without sections" p.stats.filesWithoutSections

def footer (metadata : ScanMetadata) : String :=
  "\nScan Duration: " ++ countText metadata.durationMs ++ "ms\n" ++
    "Processing Speed: " ++ String.ofList metadata.filesPerSecond.toCents ++ " files/sec\n"

def project (p : ProjectOutline) : String :=
  header p ++ String.join (p.files.map fileBlock) ++ footer p.metadata

def definition (d : Definition) : String :=
  d.path.text ++ ":" ++ countText d.target.line ++ ":" ++ countText d.target.character ++ " " ++
    d.sectionName ++ " (" ++ d.kind.label ++ " match for '" ++ d.token ++ "')"

end Summary

end DialogueIndex
