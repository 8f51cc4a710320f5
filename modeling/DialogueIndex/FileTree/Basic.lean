import DialogueIndex.Path

/-! # File trees

A file tree is all that programs can see of a file system: files with their bytes, directories with
their entries, and links to other paths. A location is where something really is in the tree, as
opposed to the many paths by which it can be named.
-/

namespace DialogueIndex

/-- Why a path does not lead to what was asked for. -/
inductive FileError where
  | notFound
  | isDirectory
  | notADirectory
  | tooManyLinks
  | nameTooLong
  | zeroInName
  | notUtf8
deriving DecidableEq, Repr

def FileError.message : FileError → String
  | notFound => "No such file or directory (os error 2)"
  | isDirectory => "Is a directory (os error 21)"
  | notADirectory => "Not a directory (os error 20)"
  | tooManyLinks => "Too many levels of symbolic links (os error 40)"
  | nameTooLong => "File name too long (os error 36)"
  | zeroInName => "file name contained an unexpected NUL byte"
  | notUtf8 => "stream did not contain valid UTF-8"

/-- What a name in a directory stands for. -/
inductive Node where
  | file (content : ByteArray)
  | directory (entries : List (String × Node))
  | link (target : String)
deriving Inhabited

/-- The names on the way from the top of a tree to a place in it. -/
abbrev Location := List String

namespace Node

/-- The size of a directory, whatever is in it. -/
def directorySize : Nat := 4096

/-- The size of a node on its own. That of a link is the length of its target. -/
def size : Node → Nat
  | file content => content.size
  | directory _ => directorySize
  | link target => target.utf8ByteSize

def at? : Node → Location → Option Node
  | node, [] => some node
  | directory entries, name :: rest => (entries.lookup name).bind (at? · rest)
  | _, _ :: _ => none

mutual

def directoryCount : Node → Nat
  | directory entries => entriesDirectoryCount entries + 1
  | _ => 0

/-- The number of directories in the entries of a directory. -/
def entriesDirectoryCount : List (String × Node) → Nat
  | [] => 0
  | (_, node) :: rest => directoryCount node + entriesDirectoryCount rest

end

end Node

/-- A file system, and the directory in which relative paths start. -/
structure FileTree where
  entries : List (String × Node)
  workingDirectory : Location

namespace FileTree

/-- The directory that holds everything. -/
def top (tree : FileTree) : Node := .directory tree.entries

def nodeAt? (tree : FileTree) (place : Location) : Option Node := tree.top.at? place

end FileTree

/-- The absolute path of a location. -/
def Location.path (place : Location) : Path := ⟨"/" ++ String.intercalate "/" place⟩

end DialogueIndex
