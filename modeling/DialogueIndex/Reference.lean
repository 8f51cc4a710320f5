import DialogueIndex.Marker
import DialogueIndex.Resolution
import DialogueIndex.Text.WordChar

/-! # References

A line with an arrow refers to sections. The token under a cursor is the run of word characters,
dots and hyphens that the cursor touches; a cursor just behind a token touches it. A cursor beyond
the end of the line stands at the end.
-/

namespace DialogueIndex

/-- The characters that make a line a reference line. -/
def arrow : List Char := ['=', '>']

/-- Whether a character can be part of a token. -/
def isTokenChar (c : Char) : Bool := isWordChar c || c == '.' || c == '-'

/-- A token of a line, with the characters between which it stands. -/
structure Token where
  text : String
  start : Nat
  stop : Nat
deriving DecidableEq, Repr

/-- A maximal run of token characters, with the bytes between which it stands. -/
structure Run where
  chars : List Char
  start : Nat
  stop : Nat
deriving DecidableEq, Repr

/-- Puts a run in front of runs, unless it is empty. -/
def Run.consNonempty (chars : List Char) (start : Nat) (runs : List Run) : List Run :=
  if chars.isEmpty then runs else ⟨chars, start, start + byteLength chars⟩ :: runs

/-- The runs of the rest of a line. `current` holds the characters of the run that is being read,
latest first, which starts at byte `start`. -/
def runsFrom (current : List Char) (start : Nat) : List Char → List Run
  | [] => Run.consNonempty current.reverse start []
  | c :: rest =>
    if isTokenChar c then runsFrom (c :: current) start rest
    else
      Run.consNonempty current.reverse start
        (runsFrom [] (start + byteLength current + c.utf8Size) rest)

/-- The runs of a line from left to right. -/
def tokenRuns (line : List Char) : List Run := runsFrom [] 0 line

/-- The token of a line that a cursor touches. -/
def tokenAt (line : List Char) (character : Nat) : Option Token :=
  let cursor := byteOffset line character
  let started := (tokenRuns line).takeWhile (·.start ≤ cursor)
  (started.find? (cursor ≤ ·.stop)).map fun run =>
    ⟨String.ofList run.chars, charOffset line run.start, charOffset line run.stop⟩

def hasArrow : List Char → Bool
  | [] => false
  | c :: rest => arrow.isPrefixOf (c :: rest) || hasArrow rest

/-- The token under a position, if its line is a reference line. -/
def Document.tokenAt (document : Document) (p : Position) : Option Token := do
  let line ← document.line? p.line
  if hasArrow line then DialogueIndex.tokenAt line p.character else none

/-- A token and the section it refers to. -/
structure Reference where
  token : Token
  resolution : Resolution
deriving DecidableEq, Repr

/-- The reference under a position, resolved among the given sections. -/
def Document.referenceAt (document : Document) (sections : List Section) (p : Position) :
    Option Reference := do
  let token ← document.tokenAt p
  let resolution ← resolve token.text sections
  return ⟨token, resolution⟩

/-- The position to which the reference under a position jumps. -/
def locate (text : String) (p : Position) : Option Position := do
  let document := Document.ofText text
  let token ← document.tokenAt p
  let resolution ← resolve token.text document.sections
  return resolution.target.position

end DialogueIndex
