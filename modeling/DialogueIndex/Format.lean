import DialogueIndex.Data.Json
import DialogueIndex.Data.Schema
import DialogueIndex.Data.Yaml
import DialogueIndex.Format.Ansi
import DialogueIndex.Format.Summary

/-! # Report formats

An outline or a definition is reported as data in JSON or YAML, in colour for a terminal, or as a
plain summary.
-/

namespace DialogueIndex

/-- The formats of reports. -/
inductive Format where
  | json
  | yaml
  | ansi
  | summary
deriving DecidableEq, Repr

namespace Format

def ofName? (name : String) : Option Format :=
  match name with
  | "json" => some .json
  | "yaml" => some .yaml
  | "ansi" => some .ansi
  | "summary" => some .summary
  | _ => none

/-- The format that is used when none is asked for. -/
def standard : Format := .json

end Format

def ProjectOutline.report (project : ProjectOutline) : Format → String
  | .json => project.toData.toJson
  | .yaml => project.toData.toYaml
  | .ansi => Ansi.project project
  | .summary => Summary.project project

def Definition.report (definition : Definition) : Format → String
  | .json => definition.toData.toJson
  | .yaml => definition.toData.toYaml
  | .ansi => Ansi.definition definition
  | .summary => Summary.definition definition

end DialogueIndex
