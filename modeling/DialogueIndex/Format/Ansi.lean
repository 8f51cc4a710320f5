import DialogueIndex.Definition
import DialogueIndex.Number.Decimal
import DialogueIndex.ProjectOutline

/-! # Reports in colour

Reports for a terminal. Every shade that is turned on for a text is turned off behind it.
-/

namespace DialogueIndex

/-- Ways to show text on a terminal. -/
inductive Shade where
  | bold
  | dim
  | brightCyan
  | brightYellow
  | brightGreen
  | brightWhite
  | yellow
  | onBlue
deriving DecidableEq, Repr

/-- The parameter of the control sequence for a shade. -/
def Shade.parameter : Shade → String
  | bold => "1"
  | dim => "2"
  | brightCyan => "96"
  | brightYellow => "93"
  | brightGreen => "92"
  | brightWhite => "97"
  | yellow => "33"
  | onBlue => "44"

/-- The control sequence that turns a shade on. -/
def Shade.sequence (shade : Shade) : String := "\x1b[" ++ shade.parameter ++ "m"

def allShadesOff : String := "\x1b[0m"

def shaded (shades : List Shade) (text : String) : String :=
  String.join (shades.map Shade.sequence) ++ text ++ allShadesOff

namespace Ansi

def entryLine (e : OutlineEntry) : String :=
  "   " ++ shaded [.yellow] "~" ++ " " ++
    shaded [.bold, if e.isUntitled then .dim else .brightCyan] e.name ++ " " ++
    shaded [.dim] (":" ++ countText e.startLine ++ "-" ++ countText e.endLine) ++ "\n"

def fileBlock (file : FileOutline) : String :=
  shaded [.bold, .brightWhite] file.path.text ++ " " ++
    shaded [.dim] ("(" ++ countText file.totalLines ++ " lines)") ++ "\n" ++
    (if file.entries.isEmpty then "   " ++ shaded [.dim] "no sections" ++ "\n" else "") ++
    String.join (file.entries.map entryLine) ++ "\n"

def headed (heading : String) (count : Nat) : String :=
  shaded [.bold] heading ++ " " ++ countText count

def project (p : ProjectOutline) : String :=
  "\n" ++ shaded [.bold, .onBlue] "  Dialogue Scan Results  " ++ allShadesOff ++ "\n\n" ++
    shaded [.bold] "Root:" ++ " " ++ p.root.text ++ "\n\n" ++
    headed "Files:" p.stats.totalFiles ++ "  " ++ headed "Lines:" p.stats.totalLines ++ "  " ++
    headed "Sections:" p.stats.totalSections ++ "\n\n" ++
    String.join (p.files.map fileBlock) ++ "\n" ++
    shaded [.dim] ("Scan completed in " ++ countText p.metadata.durationMs ++ "ms (" ++
      String.ofList p.metadata.filesPerSecond.toCents ++ " files/sec)") ++ "\n"

def kindShade : MatchKind → Shade
  | .exact => .brightGreen
  | .leading => .brightYellow

def definition (d : Definition) : String :=
  shaded [.bold] d.token ++ " " ++ shaded [.dim] "=>" ++ " " ++
    shaded [.bold, .brightCyan] d.sectionName ++ " " ++
    shaded [.dim] (d.path.text ++ ":" ++ countText d.target.line ++ ":" ++
      countText d.target.character) ++ " " ++
    shaded [kindShade d.kind] ("[" ++ d.kind.label ++ "]")

end Ansi

end DialogueIndex
