import DialogueIndex.FileTree.Basic

/-! # Looking up paths

A path is followed piece by piece from the top of the tree or from the working directory. A link is
replaced by its target, except, if so asked, at the end of the path. A slash at the end of a path
asks for a directory.
-/

namespace DialogueIndex

namespace FileTree

/-- How many links may be followed on the way. -/
def linkLimit : Nat := 40

/-- The longest name of a directory entry, in bytes. -/
def nameLimit : Nat := 255

/-- The length from which on a path is refused, in bytes. -/
def pathLimit : Nat := 4096

/-- The pieces by which a path is followed. A slash at the end leaves an empty one. -/
def stepsOf (text : String) : List String :=
  let pieces := (Path.splitSlashes text.toList).map String.ofList
  let named := pieces.filter (· ≠ "")
  if pieces.getLast? = some "" ∧ named ≠ [] then named ++ [""] else named

/-- Where a path starts that is met at a location. -/
def startOf (place : Location) (text : String) : Location :=
  if (⟨text⟩ : Path).isAbsolute then [] else place

/-- What becomes of the last piece of a path. -/
inductive Ending where
  /-- A link is followed. -/
  | followed
  /-- A link is what is asked for. -/
  | kept
  /-- A link is followed, and the piece may be missing. It is not taken for a directory. -/
  | created
deriving DecidableEq, Repr

/-- Follows steps from a location. `onLink` goes on behind a link, whose directory, target and
remaining steps it is given. -/
def followWith (tree : FileTree) (ending : Ending)
    (onLink : Location → String → List String → Except FileError Location) :
    Location → List String → Except FileError Location
  | place, [] => .ok place
  | place, step :: rest =>
    match tree.nodeAt? place with
    | some (.directory entries) =>
      if step = "" ∨ step = "." then followWith tree ending onLink place rest
      else if step = ".." then followWith tree ending onLink place.dropLast rest
      else if rest = [""] ∧ ending = .created then .error .isDirectory
      else if nameLimit < step.utf8ByteSize then .error .nameTooLong
      else match entries.lookup step with
        | none => if rest = [] ∧ ending = .created then .ok (place ++ [step]) else .error .notFound
        | some (.link target) =>
          if rest = [] ∧ ending = .kept then .ok (place ++ [step]) else onLink place target rest
        | some _ => followWith tree ending onLink (place ++ [step]) rest
    | some _ => .error .notADirectory
    | none => .error .notFound

/-- Follows steps from a location by way of at most the given number of links. -/
def follow (tree : FileTree) (ending : Ending) :
    Nat → Location → List String → Except FileError Location
  | 0 => followWith tree ending fun _ _ _ => .error .tooManyLinks
  | links + 1 => followWith tree ending fun place target rest =>
      follow tree ending links (startOf place target) (stepsOf target ++ rest)

/-- The location to which a path leads. -/
def locate (tree : FileTree) (ending : Ending) (p : Path) : Except FileError Location :=
  if '\x00' ∈ p.text.toList then .error .zeroInName
  else if p.text = "" then .error .notFound
  else if pathLimit ≤ p.text.utf8ByteSize then .error .nameTooLong
  else follow tree ending linkLimit (startOf tree.workingDirectory p.text) (stepsOf p.text)

/-- The node to which a path leads, and where it is. -/
def find (tree : FileTree) (ending : Ending) (p : Path) : Except FileError (Location × Node) :=
  match tree.locate ending p with
  | .error e => .error e
  | .ok place =>
    match tree.nodeAt? place with
    | some node => .ok (place, node)
    | none => .error .notFound

def contains (tree : FileTree) (p : Path) : Bool :=
  match tree.find .followed p with
  | .ok _ => true
  | .error _ => false

def isDirectory (tree : FileTree) (p : Path) : Bool :=
  match tree.find .followed p with
  | .ok (_, .directory _) => true
  | _ => false

def isFile (tree : FileTree) (p : Path) : Bool :=
  match tree.find .followed p with
  | .ok (_, .file _) => true
  | _ => false

def size (tree : FileTree) (p : Path) : Except FileError Nat :=
  match tree.find .followed p with
  | .ok (_, node) => .ok node.size
  | .error e => .error e

/-- The bytes of the file to which a path leads. -/
def read (tree : FileTree) (p : Path) : Except FileError ByteArray :=
  match tree.find .followed p with
  | .ok (_, .file content) => .ok content
  | .ok (_, _) => .error .isDirectory
  | .error e => .error e

/-- The text of the file to which a path leads. -/
def readText (tree : FileTree) (p : Path) : Except FileError String :=
  match tree.read p with
  | .ok content =>
    match String.fromUTF8? content with
    | some text => .ok text
    | none => .error .notUtf8
  | .error e => .error e

/-- The one absolute path of what a path leads to, free of links. -/
def canonical (tree : FileTree) (p : Path) : Except FileError Path :=
  match tree.find .followed p with
  | .ok (place, _) => .ok place.path
  | .error e => .error e

end FileTree

end DialogueIndex
