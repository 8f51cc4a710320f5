import DialogueIndex.FileTree.Lookup

/-! # Changing file trees -/

namespace DialogueIndex

/-- Entries in which a name stands for a node, or for nothing. -/
def setEntry (name : String) (node? : Option Node) :
    List (String × Node) → List (String × Node)
  | [] => (node?.map fun node => (name, node)).toList
  | (key, node) :: rest =>
    if key = name then (node?.map fun node => (name, node)).toList ++ rest
    else (key, node) :: setEntry name node? rest

/-- A node with another node, or nothing, at a location below it. Directories on the way are
made if need be. -/
def Node.set (node? : Option Node) : Node → Location → Node
  | node, [] => node?.getD node
  | node, name :: rest =>
    let entries := match node with
      | .directory entries => entries
      | _ => []
    let child := (entries.lookup name).getD (.directory [])
    .directory (setEntry name (if rest = [] then node? else some (child.set node? rest)) entries)

namespace FileTree

/-- The tree with another node, or nothing, at a location. -/
def set (tree : FileTree) (place : Location) (node? : Option Node) : FileTree :=
  match tree.top.set node? place with
  | .directory entries => { tree with entries := entries }
  | _ => tree

/-- The tree in which the file to which a path leads has the given bytes. The file is made if it is
missing, but not the directory for it. -/
def write (tree : FileTree) (p : Path) (content : ByteArray) : Except FileError FileTree :=
  match tree.locate .created p with
  | .error e => .error e
  | .ok place =>
    match tree.nodeAt? place with
    | some (.directory _) => .error .isDirectory
    | _ => .ok (tree.set place (some (.file content)))

/-- Follows steps from a location and makes the directories that are missing. -/
def makeSteps (tree : FileTree) (p : Path) : List String → FileTree
  | [] => tree
  | step :: rest =>
    let next := p.join step
    let grown := match tree.locate .created next with
      | .ok place =>
        if (tree.nodeAt? place).isSome then tree else tree.set place (some (.directory []))
      | .error _ => tree
    makeSteps grown next rest

/-- The tree with a directory at a path and all directories on the way. -/
def makeDirectory (tree : FileTree) (p : Path) : FileTree :=
  makeSteps tree ⟨if p.isAbsolute then "/" else "."⟩ (stepsOf p.text)

/-- The tree with a node at a path instead of what is there. -/
def replace (tree : FileTree) (p : Path) (node? : Option Node) : FileTree :=
  match tree.locate .kept p, p.parent?, p.fileName? with
  | .ok place, _, _ => tree.set place node?
  | .error _, some parent, some name =>
    match tree.locate .followed ⟨if parent.text = "" then "." else parent.text⟩ with
    | .ok place => tree.set (place ++ [String.ofList name]) node?
    | .error _ => tree
  | _, _, _ => tree

end FileTree

end DialogueIndex
