import DialogueIndex.Position
import DialogueIndex.Text.Blank
import DialogueIndex.Text.Lowercase

/-! # Sections

A section is a named place in a dialogue document. Names are looked up by their key, in which
letter case and the amount and kind of white space do not count.
-/

namespace DialogueIndex

/-- The name of a section whose marker has only blanks after it. -/
def untitledName : String := "(untitled section)"

/-- Replaces every run of white space by one underscore. `inRun` says that the run before the text
has been replaced already. -/
def collapseFrom (inRun : Bool) : List Char → List Char
  | [] => []
  | c :: rest =>
    if isSpace c then
      if inRun then collapseFrom true rest else '_' :: collapseFrom true rest
    else c :: collapseFrom false rest

/-- A text with every run of white space replaced by one underscore. -/
def collapseSpaces (cs : List Char) : List Char := collapseFrom false cs

/-- The key under which a name is looked up. -/
def nameKey (name : String) : String :=
  String.ofList (lowercase (trim (collapseSpaces name.toList)))

/-- A marker in a document, with the name it gives to the lines from there on. -/
structure Section where
  name : String
  line : Nat
  column : Nat
deriving DecidableEq, Repr

namespace Section

/-- The section with a written name: white space around the name does not count, and a blank name
is replaced by the placeholder. -/
def named (written : String) (line column : Nat) : Section :=
  let name := trim written.toList
  ⟨if name.isEmpty then untitledName else String.ofList name, line, column⟩

/-- The key under which the section is looked up. -/
def key (s : Section) : String := nameKey s.name

def position (s : Section) : Position := ⟨s.line, s.column⟩

/-- Whether the section has the placeholder for a name. -/
def isUntitled (s : Section) : Bool := s.name == untitledName

end Section

end DialogueIndex
