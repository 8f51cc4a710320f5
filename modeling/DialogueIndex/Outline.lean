import DialogueIndex.Marker

/-! # Outlines

Sections do not nest. Each runs from its marker to the line before the next one, and the last runs
to the end of the document.
-/

namespace DialogueIndex

/-- Counts are kept in words of 64 bits: what does not fit is lost. -/
def countRange : Nat := Nat.pow 2 64

/-- What an outline shows beside each entry. -/
def sectionDetail : String := "Dialogue block"

/-- The category under which an entry is listed. -/
inductive EntryKind where
  | namespaced
deriving DecidableEq, Repr

def EntryKind.label : EntryKind → String
  | .namespaced => "namespace"

/-- A section together with the lines that belong to it. `endColumn` is the length of the last of
these lines. -/
structure OutlineEntry where
  name : String
  detail : String
  kind : EntryKind
  startLine : Nat
  startColumn : Nat
  endLine : Nat
  endColumn : Nat
deriving DecidableEq, Repr

namespace OutlineEntry

/-- From the marker to the end of the last line. -/
def span (e : OutlineEntry) : Span := ⟨⟨e.startLine, e.startColumn⟩, ⟨e.endLine, e.endColumn⟩⟩

/-- What is selected when the entry is chosen: the marker's position. -/
def selection (e : OutlineEntry) : Span := .point e.span.start

/-- The number of lines of the entry, at least one however the lines are given. -/
def lineCount (e : OutlineEntry) : Nat := (e.endLine - e.startLine + 1) % countRange

/-- Whether the entry has the placeholder for a name. -/
def isUntitled (e : OutlineEntry) : Bool := e.name == untitledName

end OutlineEntry

namespace Document

/-- The last line of a section, given the section that follows. -/
def endLine (document : Document) (s : Section) : Option Section → Nat
  | some following => max s.line (following.line - 1)
  | none => max s.line document.lastLine

/-- The entry of a section, given the section that follows. -/
def entry (document : Document) (s : Section) (following : Option Section) : OutlineEntry where
  name := s.name
  detail := sectionDetail
  kind := .namespaced
  startLine := s.line
  startColumn := s.column
  endLine := document.endLine s following
  endColumn := document.lineLength (document.endLine s following)

/-- The entries of sections in the given order. -/
def entries (document : Document) : List Section → List OutlineEntry
  | [] => []
  | s :: rest => document.entry s rest.head? :: document.entries rest

def outline (document : Document) : List OutlineEntry := document.entries document.sections

end Document

def outline (text : String) : List OutlineEntry := (Document.ofText text).outline

end DialogueIndex
