import DialogueIndex.CommandLine.Run
import DialogueIndex.Proofs.Data.JsonText
import Mathlib.Data.Set.Function

/-! # Reading back reports

A report in JSON determines what is reported: reading the text and then its shape gives back the
same outline or definition, whatever its names and paths are. Counts are those that fit into a word,
and the measured rate is taken to read back.
-/

namespace DialogueIndex

/-! ## Fields -/

namespace Data

theorem lastField?_eq_none {name : String} {fields : List (String × Data)}
    (h : name ∉ fields.map Prod.fst) : lastField? name fields = none := by
  induction fields with
  | nil => rfl
  | cons field fields ih =>
    simp only [List.map_cons, List.mem_cons, not_or] at h
    rw [lastField?, ih h.2]
    exact if_neg (Ne.symm h.1)

theorem lastField?_of_nodup {fields : List (String × Data)} (h : (fields.map Prod.fst).Nodup)
    {field : String × Data} (hfield : field ∈ fields) :
    lastField? field.1 fields = some field.2 := by
  induction fields with
  | nil => exact absurd hfield List.not_mem_nil
  | cons head fields ih =>
    obtain ⟨hhead, hfields⟩ := List.nodup_cons.mp h
    rcases List.mem_cons.mp hfield with rfl | hmem
    · rw [lastField?, lastField?_eq_none hhead]
      exact if_pos rfl
    · rw [lastField?, ih hfields hmem]

/-- A record under distinct names is taken apart into its values, in the order of its names. -/
theorem fieldsOf?_record {fields : List (String × Data)} {names : List String}
    (hnames : fields.map Prod.fst = names) (h : names.Nodup) :
    (record fields).fieldsOf? names = some (fields.map Prod.snd) := by
  subst hnames
  have hmap : ∀ part ⊆ fields, (part.map Prod.fst).mapM (lastField? · fields) =
      some (part.map Prod.snd) := by
    intro part hpart
    induction part with
    | nil => rfl
    | cons field part ih =>
      have hfield := lastField?_of_nodup h (hpart List.mem_cons_self)
      simp [hfield, ih fun f hf => hpart (.tail _ hf)]
  exact hmap fields (List.Subset.refl fields)

theorem asCount?_nat {n : Nat} (hn : n < countRange) : (nat n).asCount? = some n := if_pos hn

theorem mapM_map_of_forall {α : Type} {write : α → Data} {read : Data → Option α} {values : List α}
    (h : ∀ value ∈ values, read (write value) = some value) :
    (values.map write).mapM read = some values := by
  induction values with
  | nil => rfl
  | cons value values ih =>
    have hvalue := h value List.mem_cons_self
    have hvalues := ih fun v hv => h v (.tail _ hv)
    simp [hvalue, hvalues]

end Data

/-! ## Entries and files -/

/-- Whether the counts of an entry fit into a word. -/
structure OutlineEntry.InRange (e : OutlineEntry) : Prop where
  startLine : e.startLine < countRange
  startColumn : e.startColumn < countRange
  endLine : e.endLine < countRange
  endColumn : e.endColumn < countRange

/-- Whether the counts of a file outline fit into a word. -/
structure FileOutline.InRange (file : FileOutline) : Prop where
  totalLines : file.totalLines < countRange
  entries : ∀ e ∈ file.entries, e.InRange

theorem EntryKind.ofLabel?_label (kind : EntryKind) :
    EntryKind.ofLabel? kind.label = some kind := by
  cases kind
  rfl

@[simp] theorem OutlineEntry.isReadable_toData (e : OutlineEntry) : e.toData.IsReadable := by
  simp [OutlineEntry.toData]

theorem OutlineEntry.ofData?_toData {e : OutlineEntry} (h : e.InRange) :
    OutlineEntry.ofData? e.toData = some e := by
  have hfields : e.toData.fieldsOf? ["name", "detail", "kind", "start_line", "start_column",
      "end_line", "end_column"] = some [.text e.name, .text e.detail, .text e.kind.label,
        .nat e.startLine, .nat e.startColumn, .nat e.endLine, .nat e.endColumn] :=
    Data.fieldsOf?_record rfl (by decide)
  simp [OutlineEntry.ofData?, hfields, Data.asText?, Data.asLabel?, EntryKind.ofLabel?_label,
    Data.asCount?_nat h.startLine, Data.asCount?_nat h.startColumn, Data.asCount?_nat h.endLine,
    Data.asCount?_nat h.endColumn]

@[simp] theorem FileOutline.isReadable_toData (file : FileOutline) : file.toData.IsReadable := by
  simp [FileOutline.toData]

theorem FileOutline.ofData?_toData {file : FileOutline} (h : file.InRange) :
    FileOutline.ofData? file.toData = some file := by
  have hfields : file.toData.fieldsOf? ["path", "absolute_path", "total_lines", "entries"] =
      some [.text file.path.text, .text file.absolutePath.text, .nat file.totalLines,
        .list (file.entries.map OutlineEntry.toData)] :=
    Data.fieldsOf?_record rfl (by decide)
  have hentries := Data.mapM_map_of_forall fun e he => OutlineEntry.ofData?_toData (h.entries e he)
  simp [FileOutline.ofData?, hfields, Data.asText?, Data.asList?, Data.asCount?_nat h.totalLines,
    hentries]

/-! ## Projects -/

/-- Whether the counts over the files of a project fit into a word. -/
structure ScanStats.InRange (stats : ScanStats) : Prop where
  totalFiles : stats.totalFiles < countRange
  totalLines : stats.totalLines < countRange
  totalSections : stats.totalSections < countRange
  untitledSections : stats.untitledSections < countRange
  filesWithoutSections : stats.filesWithoutSections < countRange

/-- Whether the counts of a project outline fit into a word. -/
structure ProjectOutline.InRange (project : ProjectOutline) : Prop where
  files : ∀ file ∈ project.files, file.InRange
  stats : project.stats.InRange
  durationMs : project.metadata.durationMs < countRange

@[simp] theorem ScanStats.isReadable_toData (stats : ScanStats) : stats.toData.IsReadable := by
  simp [ScanStats.toData]

theorem ScanStats.ofData?_toData {stats : ScanStats} (h : stats.InRange) :
    ScanStats.ofData? stats.toData = some stats := by
  have hfields : stats.toData.fieldsOf? ["total_files", "total_lines", "total_sections",
      "untitled_sections", "files_without_sections"] = some [.nat stats.totalFiles,
        .nat stats.totalLines, .nat stats.totalSections, .nat stats.untitledSections,
        .nat stats.filesWithoutSections] :=
    Data.fieldsOf?_record rfl (by decide)
  simp [ScanStats.ofData?, hfields, Data.asCount?_nat h.totalFiles, Data.asCount?_nat h.totalLines,
    Data.asCount?_nat h.totalSections, Data.asCount?_nat h.untitledSections,
    Data.asCount?_nat h.filesWithoutSections]

@[simp] theorem ScanMetadata.isReadable_toData_iff {metadata : ScanMetadata} :
    metadata.toData.IsReadable ↔ metadata.filesPerSecond.ReadsBack := by
  simp [ScanMetadata.toData]

theorem ScanMetadata.ofData?_toData {metadata : ScanMetadata}
    (h : metadata.durationMs < countRange) :
    ScanMetadata.ofData? metadata.toData = some metadata := by
  have hfields : metadata.toData.fieldsOf? ["scan_duration_ms", "files_per_second", "timestamp",
      "tool_version"] = some [.nat metadata.durationMs, .number metadata.filesPerSecond,
        .text metadata.timestamp, .text metadata.toolVersion] :=
    Data.fieldsOf?_record rfl (by decide)
  simp [ScanMetadata.ofData?, hfields, Data.asText?, Data.asNumber?, Data.asCount?_nat h]

theorem ProjectOutline.isReadable_toData_iff {project : ProjectOutline} :
    project.toData.IsReadable ↔ project.metadata.filesPerSecond.ReadsBack := by
  simp [ProjectOutline.toData]

theorem ProjectOutline.ofData?_toData {project : ProjectOutline} (h : project.InRange) :
    ProjectOutline.ofData? project.toData = some project := by
  have hfields : project.toData.fieldsOf? ["root", "files", "stats", "metadata"] =
      some [.text project.root.text, .list (project.files.map FileOutline.toData),
        project.stats.toData, project.metadata.toData] :=
    Data.fieldsOf?_record rfl (by decide)
  have hfiles := Data.mapM_map_of_forall fun file hf => FileOutline.ofData?_toData (h.files file hf)
  simp [ProjectOutline.ofData?, hfields, Data.asText?, Data.asList?, hfiles,
    ScanStats.ofData?_toData h.stats, ScanMetadata.ofData?_toData h.durationMs]

/-! ## Definitions -/

/-- Whether the line and the character fit into a word. -/
structure Position.InRange (p : Position) : Prop where
  line : p.line < countRange
  character : p.character < countRange

@[simp] theorem Position.isReadable_toData (p : Position) : p.toData.IsReadable := by
  simp [Position.toData]

theorem Position.ofData?_toData {p : Position} (h : p.InRange) :
    Position.ofData? p.toData = some p := by
  have hfields : p.toData.fieldsOf? ["line", "character"] =
      some [.nat p.line, .nat p.character] := Data.fieldsOf?_record rfl (by decide)
  simp [Position.ofData?, hfields, Data.asCount?_nat h.line, Data.asCount?_nat h.character]

theorem MatchKind.ofLabel?_label (kind : MatchKind) :
    MatchKind.ofLabel? kind.label = some kind := by
  cases kind <;> decide

theorem Definition.isReadable_toData (d : Definition) : d.toData.IsReadable := by
  simp [Definition.toData]

theorem Definition.ofData?_toData {d : Definition} (h : d.target.InRange) :
    Definition.ofData? d.toData = some d := by
  have hfields : d.toData.fieldsOf? ["path", "token", "section", "match_kind", "target"] =
      some [.text d.path.text, .text d.token, .text d.sectionName, .text d.kind.label,
        d.target.toData] :=
    Data.fieldsOf?_record rfl (by decide)
  simp [Definition.ofData?, hfields, Data.asText?, Data.asLabel?, MatchKind.ofLabel?_label,
    Position.ofData?_toData h]

/-! ## Reports -/

/-- What can be read back has been written for one value only. -/
theorem injOn_of_read {α : Type} {values : Set α} {write : α → String}
    (ofData? : Data → Option α)
    (h : ∀ a ∈ values, (Data.ofJson? (write a)).bind ofData? = some a) : values.InjOn write := by
  intro a ha b hb heq
  have hread := h a ha
  rw [heq, h b hb] at hread
  exact (Option.some.inj hread).symm

theorem ProjectOutline.read_report {project : ProjectOutline} (h : project.InRange)
    (hrate : project.metadata.filesPerSecond.ReadsBack) :
    (Data.ofJson? (project.report .json)).bind ProjectOutline.ofData? = some project := by
  rw [ProjectOutline.report, Data.ofJson?_toJson (ProjectOutline.isReadable_toData_iff.mpr hrate)]
  exact ProjectOutline.ofData?_toData h

theorem FileOutline.read_report (env : CommandLine.Environment) {file : FileOutline}
    (h : file.InRange) :
    (Data.ofJson? (CommandLine.Arguments.fileReport env file .json)).bind FileOutline.ofData? =
      some file := by
  rw [CommandLine.Arguments.fileReport, Data.ofJson?_toJson file.isReadable_toData]
  exact FileOutline.ofData?_toData h

theorem Definition.read_report {d : Definition} (h : d.target.InRange) :
    (Data.ofJson? (d.report .json)).bind Definition.ofData? = some d := by
  rw [Definition.report, Data.ofJson?_toJson d.isReadable_toData]
  exact Definition.ofData?_toData h

/-- The JSON report on a project, on a file or on a definition is read as what it was made for, and
so no two of a kind share a report. -/
theorem json_report_reads_back :
    (∀ project : ProjectOutline, project.InRange → project.metadata.filesPerSecond.ReadsBack →
      (Data.ofJson? (project.report .json)).bind ProjectOutline.ofData? = some project) ∧
    (∀ (env : CommandLine.Environment) (file : FileOutline), file.InRange →
      (Data.ofJson? (CommandLine.Arguments.fileReport env file .json)).bind FileOutline.ofData? =
        some file) ∧
    (∀ d : Definition, d.target.InRange →
      (Data.ofJson? (d.report .json)).bind Definition.ofData? = some d) ∧
    Set.InjOn (fun project : ProjectOutline => project.report .json)
      {project | project.InRange ∧ project.metadata.filesPerSecond.ReadsBack} ∧
    (∀ env : CommandLine.Environment,
      Set.InjOn (fun file => CommandLine.Arguments.fileReport env file .json)
        {file | file.InRange}) ∧
    Set.InjOn (fun d : Definition => d.report .json) {d | d.target.InRange} := by
  refine ⟨fun _ => ProjectOutline.read_report, fun env _ => FileOutline.read_report env,
    fun _ => Definition.read_report, ?_, fun env => ?_, ?_⟩
  · exact injOn_of_read ProjectOutline.ofData? fun _ h => ProjectOutline.read_report h.1 h.2
  · exact injOn_of_read FileOutline.ofData? fun _ => FileOutline.read_report env
  · exact injOn_of_read Definition.ofData? fun _ => Definition.read_report

/-- A text with a quote, a backslash, controls and a character beyond the basic plane. -/
def awkwardText : String := "a\"b\\c\n\x01\x7f\x7b😀"

def awkwardFile : FileOutline where
  path := ⟨awkwardText⟩
  absolutePath := ⟨"/" ++ awkwardText⟩
  totalLines := countRange - 1
  entries := [⟨awkwardText, sectionDetail, .namespaced, 0, 2, countRange - 2, 0⟩]

def awkwardProject : ProjectOutline where
  root := ⟨"/"⟩
  files := [awkwardFile]
  stats := .ofFiles [awkwardFile]
  metadata := .measured 123456789 1 "2024-01-01"

def awkwardDefinition : Definition where
  path := ⟨awkwardText⟩
  token := awkwardText
  sectionName := awkwardText
  kind := .leading
  target := ⟨countRange - 1, 0⟩

theorem awkwardFile_inRange : awkwardFile.InRange where
  totalLines := by decide
  entries := by
    intro e he
    obtain rfl := List.mem_singleton.mp he
    exact ⟨by decide, by decide, by decide, by decide⟩

theorem json_report_reads_back_awkward :
    ((awkwardProject.InRange ∧ awkwardProject.metadata.filesPerSecond.ReadsBack) ∧
      (Data.ofJson? (awkwardProject.report .json)).bind ProjectOutline.ofData? =
        some awkwardProject) ∧
    (awkwardFile.InRange ∧
      (Data.ofJson? (CommandLine.Arguments.fileReport ⟨1, fun _ => awkwardProject.metadata,
        awkwardProject.metadata⟩ awkwardFile .json)).bind FileOutline.ofData? =
        some awkwardFile) ∧
    (awkwardDefinition.target.InRange ∧
      (Data.ofJson? (awkwardDefinition.report .json)).bind Definition.ofData? =
        some awkwardDefinition) := by
  have hproject : awkwardProject.InRange := by
    refine ⟨?_, ⟨by decide, by decide, by decide, by decide, by decide⟩, by decide⟩
    intro file hfile
    obtain rfl := List.mem_singleton.mp hfile
    exact awkwardFile_inRange
  have hrate : awkwardProject.metadata.filesPerSecond.ReadsBack := by decide +kernel
  have htarget : awkwardDefinition.target.InRange := ⟨by decide, by decide⟩
  obtain ⟨hreport, hfile, hdefinition, -⟩ := json_report_reads_back
  exact ⟨⟨⟨hproject, hrate⟩, hreport _ hproject hrate⟩,
    ⟨awkwardFile_inRange, hfile _ _ awkwardFile_inRange⟩, htarget, hdefinition _ htarget⟩

end DialogueIndex
