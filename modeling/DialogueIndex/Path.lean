/-! # Paths

A path is the text by which a file is named. Between slashes stand the pieces of a path; empty
pieces and pieces of one dot count for nothing, except that a dot at the very start is kept.
Comparison and the operations on whole components go by what counts; the text that is kept is the
text that was written.
-/

namespace DialogueIndex

/-- The name of a file or directory, as it is written. -/
structure Path where
  text : String
deriving DecidableEq, Repr, Inhabited

namespace Path

/-- What a path consists of. -/
inductive Component where
  | root
  | here
  | up
  | name (text : List Char)
deriving DecidableEq, Repr

/-- The pieces of a text between slashes. A text has one more piece than it has slashes. -/
def splitSlashes : List Char → List (List Char)
  | [] => [[]]
  | c :: rest =>
    if c = '/' then [] :: splitSlashes rest
    else match splitSlashes rest with
      | piece :: pieces => (c :: piece) :: pieces
      | [] => [[c]]

/-- The text with the given pieces between slashes. -/
def joinSlashes : List (List Char) → List Char
  | [] => []
  | [piece] => piece
  | piece :: pieces => piece ++ '/' :: joinSlashes pieces

/-- Whether a piece counts for nothing. -/
def isIdle (piece : List Char) : Bool := piece == [] || piece == ['.']

def componentOf (piece : List Char) : Component :=
  if piece = ['.', '.'] then .up else .name piece

/-- The special start of a path: a slash, or a dot that is a whole piece. -/
def start? (cs : List Char) : Option Component :=
  match cs with
  | '/' :: _ => some .root
  | ['.'] => some .here
  | '.' :: '/' :: _ => some .here
  | _ => none

/-- The pieces of a path behind its special start. -/
def pieces (cs : List Char) : List (List Char) :=
  if (start? cs).isSome then splitSlashes (cs.drop 1) else splitSlashes cs

def componentsOf (cs : List Char) : List Component :=
  (start? cs).toList ++ ((pieces cs).filter (!isIdle ·)).map componentOf

def components (p : Path) : List Component := componentsOf p.text.toList

/-- The pieces without the idle ones at the end. -/
def dropIdleEnd (ps : List (List Char)) : List (List Char) :=
  (ps.reverse.dropWhile isIdle).reverse

/-- The pieces behind the first `count` that are not idle. -/
def dropPieces : Nat → List (List Char) → List (List Char)
  | 0, ps => ps.dropWhile isIdle
  | count + 1, ps => dropPieces count ((ps.dropWhile isIdle).drop 1)

/-- A special start as text. -/
def startText : Option Component → List Char
  | some .root => ['/']
  | some .here => ['.']
  | _ => []

/-- The text of the components behind the first `count`. -/
def textAfter (count : Nat) (cs : List Char) : List Char :=
  match start? cs, count with
  | some start, 0 => startText (some start) ++ joinSlashes (dropIdleEnd (pieces cs))
  | some _, n + 1 => joinSlashes (dropIdleEnd (dropPieces n (pieces cs)))
  | none, n => joinSlashes (dropIdleEnd (dropPieces n (pieces cs)))

/-- The path below a base, if the base's components start the path's. -/
def below? (base p : Path) : Option Path :=
  let own := p.components
  let above := base.components
  if above.isPrefixOf own then
    some ⟨String.ofList (textAfter above.length p.text.toList)⟩
  else none

/-- The path below a base, or the path itself when it is not below. -/
def relativeTo (p base : Path) : Path := (below? base p).getD p

def fileName? (p : Path) : Option (List Char) :=
  match p.components.getLast? with
  | some (.name text) => some text
  | _ => none

/-- What follows the last dot of a file name. A dot at its start does not begin an extension. -/
def extensionOf (name : List Char) : Option (List Char) :=
  let after := (name.reverse.takeWhile (· ≠ '.')).reverse
  let before := name.take (name.length - after.length - 1)
  if '.' ∈ name ∧ before ≠ [] then some after else none

def extension? (p : Path) : Option (List Char) := p.fileName?.bind extensionOf

/-- The path without its last component. There is none for the root and for the empty path. -/
def parent? (p : Path) : Option Path :=
  let cs := p.text.toList
  match (dropIdleEnd (pieces cs)).reverse with
  | _ :: rest =>
    let kept := joinSlashes (dropIdleEnd rest.reverse)
    let start := startText (start? cs)
    some ⟨String.ofList (start ++ kept)⟩
  | [] => if start? cs = some .here then some ⟨""⟩ else none

def isAbsolute (p : Path) : Bool := p.text.toList.head? == some '/'

def join (base : Path) (text : String) : Path :=
  if text.toList.head? = some '/' then ⟨text⟩
  else if base.text = "" ∨ base.text.toList.getLast? = some '/' then ⟨base.text ++ text⟩
  else ⟨base.text ++ "/" ++ text⟩

def Same (p q : Path) : Prop := p.components = q.components

instance (p q : Path) : Decidable (Same p q) :=
  inferInstanceAs (Decidable (p.components = q.components))

def Component.rank : Component → Nat
  | .root => 0
  | .here => 1
  | .up => 2
  | .name _ => 3

/-- The order of texts by code point. -/
def compareChars : List Char → List Char → Ordering
  | [], [] => .eq
  | [], _ :: _ => .lt
  | _ :: _, [] => .gt
  | a :: as, b :: bs => (compare a.toNat b.toNat).then (compareChars as bs)

/-- The order of components: by kind, then by name. -/
def Component.compare : Component → Component → Ordering
  | .name a, .name b => compareChars a b
  | a, b => Ord.compare a.rank b.rank

/-- The order of component lists: by the first difference; a path comes before those below it. -/
def compareComponents : List Component → List Component → Ordering
  | [], [] => .eq
  | [], _ :: _ => .lt
  | _ :: _, [] => .gt
  | a :: as, b :: bs => (a.compare b).then (compareComponents as bs)

def compare (p q : Path) : Ordering := compareComponents p.components q.components

end Path

end DialogueIndex
