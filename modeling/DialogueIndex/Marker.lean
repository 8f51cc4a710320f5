import DialogueIndex.Section
import DialogueIndex.Text.Line
import DialogueIndex.Text.Offset

/-! # Section markers

A line opens a section when a tilde is its first character that is not blank and something follows
the tilde. The name is what follows, without the blanks in front; if there are only blanks, the
last of them stands for the name. A name does not reach over a line feed.
-/

namespace DialogueIndex

/-- The character that opens a section. -/
def markerChar : Char := '~'

/-- The written name behind a marker, if the text carries one. -/
def markerName? (text : List Char) : Option (List Char) :=
  match text.dropWhile isBlank with
  | [] => none
  | c :: tail =>
    let body := tail.dropWhile isBlank
    let name := if body.isEmpty then tail.getLast?.toList else body
    if c = markerChar ∧ name ≠ [] ∧ '\n' ∉ name then some name else none

/-- The byte offset of the first tilde of a text, or the end of the text. -/
def firstMarker (text : List Char) : Nat := byteLength (text.takeWhile (· ≠ markerChar))

def sectionOnLine? (text : List Char) (line : Nat) : Option Section :=
  (markerName? text).map fun name =>
    Section.named (String.ofList name) line (charOffset text (firstMarker text))

/-- The sections of a document in line order. -/
def Document.sections (document : Document) : List Section :=
  document.lines.zipIdx.filterMap fun (text, line) => sectionOnLine? text line

def scan (text : String) : List Section := (Document.ofText text).sections

end DialogueIndex
