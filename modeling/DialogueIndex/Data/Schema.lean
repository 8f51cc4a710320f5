import DialogueIndex.Data.Basic
import DialogueIndex.Definition
import DialogueIndex.ProjectOutline

/-! # The shape of reports

How outlines and definitions are laid out as data. Reading accepts what writing produces, further
fields, and lists in place of records.
-/

namespace DialogueIndex

def Position.toData (p : Position) : Data :=
  .record [("line", .nat p.line), ("character", .nat p.character)]

def Position.ofData? (data : Data) : Option Position := do
  match ← data.fieldsOf? ["line", "character"] with
  | [line, character] => return ⟨← line.asCount?, ← character.asCount?⟩
  | _ => none

def EntryKind.ofLabel? (label : String) : Option EntryKind :=
  if label = EntryKind.namespaced.label then some .namespaced else none

def MatchKind.ofLabel? (label : String) : Option MatchKind :=
  if label = MatchKind.exact.label then some .exact
  else if label = MatchKind.leading.label then some .leading
  else none

def OutlineEntry.toData (e : OutlineEntry) : Data :=
  .record [
    ("name", .text e.name),
    ("detail", .text e.detail),
    ("kind", .text e.kind.label),
    ("start_line", .nat e.startLine),
    ("start_column", .nat e.startColumn),
    ("end_line", .nat e.endLine),
    ("end_column", .nat e.endColumn)]

def OutlineEntry.ofData? (data : Data) : Option OutlineEntry := do
  let names := ["name", "detail", "kind", "start_line", "start_column", "end_line", "end_column"]
  match ← data.fieldsOf? names with
  | [name, detail, kind, startLine, startColumn, endLine, endColumn] =>
    return {
      name := ← name.asText?
      detail := ← detail.asText?
      kind := ← kind.asLabel?.bind EntryKind.ofLabel?
      startLine := ← startLine.asCount?
      startColumn := ← startColumn.asCount?
      endLine := ← endLine.asCount?
      endColumn := ← endColumn.asCount? }
  | _ => none

def FileOutline.toData (file : FileOutline) : Data :=
  .record [
    ("path", .text file.path.text),
    ("absolute_path", .text file.absolutePath.text),
    ("total_lines", .nat file.totalLines),
    ("entries", .list (file.entries.map OutlineEntry.toData))]

def FileOutline.ofData? (data : Data) : Option FileOutline := do
  match ← data.fieldsOf? ["path", "absolute_path", "total_lines", "entries"] with
  | [path, absolutePath, totalLines, entries] =>
    return {
      path := ⟨← path.asText?⟩
      absolutePath := ⟨← absolutePath.asText?⟩
      totalLines := ← totalLines.asCount?
      entries := ← (← entries.asList?).mapM OutlineEntry.ofData? }
  | _ => none

def ScanStats.toData (stats : ScanStats) : Data :=
  .record [
    ("total_files", .nat stats.totalFiles),
    ("total_lines", .nat stats.totalLines),
    ("total_sections", .nat stats.totalSections),
    ("untitled_sections", .nat stats.untitledSections),
    ("files_without_sections", .nat stats.filesWithoutSections)]

def ScanStats.ofData? (data : Data) : Option ScanStats := do
  let names :=
    ["total_files", "total_lines", "total_sections", "untitled_sections", "files_without_sections"]
  match ← data.fieldsOf? names with
  | [totalFiles, totalLines, totalSections, untitledSections, filesWithoutSections] =>
    return {
      totalFiles := ← totalFiles.asCount?
      totalLines := ← totalLines.asCount?
      totalSections := ← totalSections.asCount?
      untitledSections := ← untitledSections.asCount?
      filesWithoutSections := ← filesWithoutSections.asCount? }
  | _ => none

def ScanMetadata.toData (metadata : ScanMetadata) : Data :=
  .record [
    ("scan_duration_ms", .nat metadata.durationMs),
    ("files_per_second", .number metadata.filesPerSecond),
    ("timestamp", .text metadata.timestamp),
    ("tool_version", .text metadata.toolVersion)]

def ScanMetadata.ofData? (data : Data) : Option ScanMetadata := do
  let names := ["scan_duration_ms", "files_per_second", "timestamp", "tool_version"]
  match ← data.fieldsOf? names with
  | [durationMs, filesPerSecond, timestamp, toolVersion] =>
    return {
      durationMs := ← durationMs.asCount?
      filesPerSecond := ← filesPerSecond.asNumber?
      timestamp := ← timestamp.asText?
      toolVersion := ← toolVersion.asText? }
  | _ => none

def ProjectOutline.toData (project : ProjectOutline) : Data :=
  .record [
    ("root", .text project.root.text),
    ("files", .list (project.files.map FileOutline.toData)),
    ("stats", project.stats.toData),
    ("metadata", project.metadata.toData)]

def ProjectOutline.ofData? (data : Data) : Option ProjectOutline := do
  match ← data.fieldsOf? ["root", "files", "stats", "metadata"] with
  | [root, files, stats, metadata] =>
    return {
      root := ⟨← root.asText?⟩
      files := ← (← files.asList?).mapM FileOutline.ofData?
      stats := ← ScanStats.ofData? stats
      metadata := ← ScanMetadata.ofData? metadata }
  | _ => none

def Definition.toData (d : Definition) : Data :=
  .record [
    ("path", .text d.path.text),
    ("token", .text d.token),
    ("section", .text d.sectionName),
    ("match_kind", .text d.kind.label),
    ("target", d.target.toData)]

def Definition.ofData? (data : Data) : Option Definition := do
  match ← data.fieldsOf? ["path", "token", "section", "match_kind", "target"] with
  | [path, token, sectionName, kind, target] =>
    return {
      path := ⟨← path.asText?⟩
      token := ← token.asText?
      sectionName := ← sectionName.asText?
      kind := ← kind.asLabel?.bind MatchKind.ofLabel?
      target := ← Position.ofData? target }
  | _ => none

end DialogueIndex
