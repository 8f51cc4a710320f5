import DialogueIndex.FileTree.Lookup

/-! # Walking through directories

A walk comes upon everything below a path that is not a directory. It enters the directories that
it is told to enter, and always the one it starts from. A link is nothing but a link unless the
walk follows links; then it is what it leads to, and a link to a directory in which it stands is a
loop. A link from which the walk starts is always followed.
-/

namespace DialogueIndex

/-- Something that is not a directory, or a link that is not followed. -/
structure Leaf where
  path : Path
  size : Nat
deriving DecidableEq, Repr

/-- What a walk cannot go by. -/
inductive WalkFault where
  | unreadable (path : Path) (cause : FileError)
  | loop (path ancestor : Path)
deriving DecidableEq, Repr

def WalkFault.message : WalkFault → String
  | unreadable path cause =>
    "IO error for operation on " ++ path.text ++ ": " ++ cause.message
  | loop path ancestor =>
    "File system loop found: " ++ path.text ++ " points to an ancestor " ++ ancestor.text

/-- What a walk comes upon. -/
inductive Visit where
  | leaf (leaf : Leaf)
  | fault (fault : WalkFault)
deriving DecidableEq, Repr

/-- How to walk through a tree. -/
structure Walk where
  tree : FileTree
  followsLinks : Bool
  /-- Which directories are entered. -/
  enters : Path → Bool

/-- The directories around a place, innermost first, with the paths by which they were entered. -/
abbrev Trail := List (Location × Path)

namespace Walk

/-- What is done about a link: where it stands, the path by which it was reached, and its target. -/
abbrev OnLink := Trail → Path → String → List Visit

mutual

/-- What a walk comes upon at a node. -/
def node (walk : Walk) (onLink : OnLink) (trail : Trail) (place : Location) (p : Path) :
    Node → List Visit
  | .file content => [.leaf ⟨p, content.size⟩]
  | .link target => onLink trail p target
  | .directory entries =>
    if walk.enters p then walk.entries onLink ((place, p) :: trail) place p entries else []

/-- What a walk comes upon in the entries of a directory. -/
def entries (walk : Walk) (onLink : OnLink) (trail : Trail) (place : Location) (p : Path) :
    List (String × Node) → List Visit
  | [] => []
  | (name, child) :: rest =>
    walk.node onLink trail (place ++ [name]) (p.join name) child ++
      walk.entries onLink trail place p rest

end

/-- What a walk comes upon at a link, when at most the given number of links to directories are
followed within each other. -/
def link (walk : Walk) : Nat → OnLink
  | 0, _, _, _ => []
  | depth + 1, trail, p, target =>
    if walk.followsLinks then
      match walk.tree.find .followed p with
      | .error e => [.fault (.unreadable p e)]
      | .ok (place, .directory entries) =>
        match trail.lookup place with
        | some ancestor => [.fault (.loop p ancestor)]
        | none =>
          if walk.enters p then
            walk.entries (walk.link depth) ((place, p) :: trail) place p entries
          else []
      | .ok (_, found) => [.leaf ⟨p, found.size⟩]
    else [.leaf ⟨p, target.utf8ByteSize⟩]

/-- How many links to directories can be followed within each other without a loop. -/
def depthLimit (walk : Walk) : Nat := walk.tree.top.directoryCount

/-- What a walk comes upon in the directory it starts from. -/
def inside (walk : Walk) (place : Location) (p : Path) (entries : List (String × Node)) :
    List Visit :=
  walk.entries (walk.link (walk.depthLimit + 1)) [(place, p)] place p entries

/-- All that a walk comes upon. -/
def visits (walk : Walk) (start : Path) : List Visit :=
  match walk.tree.find .kept start with
  | .error e => [.fault (.unreadable start e)]
  | .ok (_, .file content) => [.leaf ⟨start, content.size⟩]
  | .ok (place, .directory entries) => walk.inside place start entries
  | .ok (_, .link target) =>
    match walk.tree.find .followed start with
    | .error e => [.fault (.unreadable start e)]
    | .ok (place, .directory entries) =>
      (if walk.followsLinks then [] else [.leaf ⟨start, target.utf8ByteSize⟩]) ++
        walk.inside place start entries
    | .ok (_, found) =>
      [.leaf ⟨start, if walk.followsLinks then found.size else target.utf8ByteSize⟩]

end Walk

end DialogueIndex
