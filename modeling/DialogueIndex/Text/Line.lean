/-! # Lines

A line feed, a carriage return, or the two together in that order of typing (`\r\n`) end a line.
No other character does. A text that ends in a terminator has one more, empty line after it, so
every text has at least one line.
-/

namespace DialogueIndex

/-- A text split from some place on: the line that starts there, the lines after it, and whether
the place is just before a line feed. -/
structure LineSplit where
  beforeFeed : Bool
  line : List Char
  rest : List (List Char)

namespace LineSplit

def empty : LineSplit := ⟨false, [], []⟩

/-- Puts a character in front of a split text. A carriage return in front of a line feed belongs to
the terminator that is there already. -/
def push (c : Char) (s : LineSplit) : LineSplit :=
  if c = '\n' then ⟨true, [], s.line :: s.rest⟩
  else if c = '\r' then
    if s.beforeFeed then ⟨false, s.line, s.rest⟩ else ⟨false, [], s.line :: s.rest⟩
  else ⟨false, c :: s.line, s.rest⟩

def lines (s : LineSplit) : List (List Char) := s.line :: s.rest

end LineSplit

/-- The lines of a text without their terminators. -/
def splitLines (cs : List Char) : List (List Char) :=
  (cs.foldr LineSplit.push LineSplit.empty).lines

/-- The lines of one dialogue text. -/
structure Document where
  lines : List (List Char)
  lines_ne_nil : lines ≠ []

namespace Document

def ofText (text : String) : Document where
  lines := splitLines text.toList
  lines_ne_nil := List.cons_ne_nil _ _

/-- The number of lines, at least one. -/
def lineCount (document : Document) : Nat := document.lines.length

def lastLine (document : Document) : Nat := document.lineCount - 1

def line? (document : Document) (index : Nat) : Option (List Char) := document.lines[index]?

/-- The number of characters of a line, zero when there is no such line. -/
def lineLength (document : Document) (index : Nat) : Nat :=
  ((document.line? index).map List.length).getD 0

end Document

end DialogueIndex
