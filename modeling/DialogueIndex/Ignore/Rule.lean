import DialogueIndex.Glob.Match
import DialogueIndex.Path
import DialogueIndex.Text.Blank

/-! # Ignore rules

A rule is a line of an ignore file. An exclamation mark in front turns the rule around: what it
matches is not ignored. A slash at the end restricts it to directories. A rule with a slash
elsewhere is about paths from the root on; any other is about names, wherever they are. Of all rules
that match a path, the last one counts.
-/

namespace DialogueIndex

/-- A rule about which paths are ignored. -/
structure IgnoreRule where
  pattern : GlobPattern
  /-- What the rule matches is not ignored. -/
  negated : Bool
  directoriesOnly : Bool

namespace IgnoreRule

/-- How the patterns of rules are read. -/
def globOptions : Glob.Options := ⟨true, true⟩

/-- What is left of a text behind its first character, if that is the given one. -/
def behindChar? (c : Char) : List Char → Option (List Char)
  | d :: rest => if d = c then some rest else none
  | [] => none

def endsWith (ending text : List Char) : Bool := ending.isSuffixOf text

/-- A line without white space at the end, unless a backslash keeps a space there. -/
def trimLine (line : List Char) : List Char :=
  if endsWith ['\\', ' '] line then line else dropRightWhile isSpace line

/-- A text without the slash at its end, and without a backslash in front of that slash. -/
def dropSlash (text : List Char) : List Char :=
  let inner := text.dropLast
  if endsWith ['\\'] inner then inner.dropLast else inner

/-- The text of the pattern for what a rule says of a path. -/
def patternText (rooted : Bool) (body : List Char) : List Char :=
  let anywhere := ['*', '*', '/']
  let whole :=
    if rooted || body.contains '/' || anywhere.isPrefixOf body || body = ['*', '*'] then body
    else anywhere ++ body
  if endsWith ['/', '*', '*'] whole then whole ++ ['/', '*'] else whole

/-- The parts of a line: whether it is negated, whether it starts at the root, and the rest. -/
def splitLine (line : List Char) : Bool × Bool × List Char :=
  match line with
  | '\\' :: '!' :: rest => (false, false, '!' :: rest)
  | '\\' :: '#' :: rest => (false, false, '#' :: rest)
  | _ =>
    let (negated, rest) := match behindChar? '!' line with
      | some rest => (true, rest)
      | none => (false, line)
    match behindChar? '/' rest with
    | some rest => (negated, true, rest)
    | none => (negated, false, rest)

/-- The rule on a line. There is none on a comment and on an empty line. -/
def ofLine? (line : List Char) : Except GlobError (Option IgnoreRule) :=
  let text := trimLine line
  if line.head? = some '#' ∨ text = [] then .ok none
  else
    let (negated, rooted, rest) := splitLine text
    let directoriesOnly := endsWith ['/'] rest
    let body := if directoriesOnly then dropSlash rest else rest
    match Glob.tokens globOptions (patternText rooted body) with
    | .ok tokens => .ok (some ⟨⟨globOptions, tokens⟩, negated, directoriesOnly⟩)
    | .error fault => .error ⟨String.ofList text, fault⟩

/-- Whether a rule is about a path. -/
def isAbout (rule : IgnoreRule) (path : List Char) (isDirectory : Bool) : Bool :=
  (!rule.directoriesOnly || isDirectory) && rule.pattern.isMatch path

/-- Whether rules ignore a path: the last rule that is about it is not negated. -/
def ignores (rules : List IgnoreRule) (path : List Char) (isDirectory : Bool) : Bool :=
  match rules.reverse.find? (·.isAbout path isDirectory) with
  | some rule => !rule.negated
  | none => false

/-- A text without a leading dot and slash. -/
def dropHere (text : List Char) : List Char :=
  match text with
  | '.' :: '/' :: rest => rest
  | _ => text

/-- What rules are told of a path: what is behind the root, if its text starts with that of the
root. A path without slashes and all paths under the root `.` are told whole. -/
def candidate (root p : Path) : List Char :=
  let path := dropHere p.text.toList
  let above : Path := ⟨String.ofList (dropHere root.text.toList)⟩
  if above.Same ⟨"."⟩ ∨ ¬ path.contains '/' then path
  else if above.text.toList.isPrefixOf path then
    let rest := path.drop above.text.toList.length
    (behindChar? '/' rest).getD rest
  else path

end IgnoreRule

end DialogueIndex
