import DialogueIndex.Glob.Pattern
import DialogueIndex.Text.Utf8

/-! # Matching globs

Patterns are matched against the bytes of a path as a whole. A token takes what is left of the path
to what is left behind it, in every possible way. A pattern that goes by the name of a file does
not match a path whose last component is two dots, which is no name.
-/

namespace DialogueIndex

namespace Glob

def slash : UInt8 := 0x2F

/-- What is left of some bytes behind the given ones. -/
def behind? : List UInt8 → List UInt8 → Option (List UInt8)
  | [], left => some left
  | _ :: _, [] => none
  | b :: bytes, c :: left => if b = c then behind? bytes left else none

/-- What is left behind each slash. -/
def behindSlashes : List UInt8 → List (List UInt8)
  | [] => []
  | b :: left => if b = slash then left :: behindSlashes left else behindSlashes left

/-- What is left behind any number of bytes that satisfy `p`. -/
def tailsWhile (p : UInt8 → Bool) : List UInt8 → List (List UInt8)
  | [] => [[]]
  | b :: left => (b :: left) :: if p b then tailsWhile p left else []

/-- Whether a wildcard stands for a byte. -/
def Options.wild (options : Options) (b : UInt8) : Bool := !options.slashesApart || b != slash

/-- The ranges of bytes of a range of characters. All bytes but the last of the low end and the
first of the high end stand for themselves. -/
def byteRanges (range : Char × Char) : List (UInt8 × UInt8) :=
  let low := String.utf8EncodeChar range.1
  let high := String.utf8EncodeChar range.2
  if range.1 = range.2 then low.map fun b => (b, b)
  else
    low.dropLast.map (fun b => (b, b)) ++ [(low.getLastD 0, high.headD 0)] ++
      (high.drop 1).map fun b => (b, b)

def inClass (negated : Bool) (ranges : List (Char × Char)) (b : UInt8) : Bool :=
  let found := (ranges.flatMap byteRanges).any fun (low, high) => low ≤ b && b ≤ high
  found != negated

mutual

/-- Whether a token takes no part in a match: a group whose alternatives are all empty. -/
def isVacuous : GlobToken → Bool
  | .alternatives branches => allVacuous branches
  | _ => false

/-- Whether all tokens of a branch take no part in a match. -/
def branchVacuous : List GlobToken → Bool
  | [] => true
  | t :: ts => isVacuous t && branchVacuous ts

/-- Whether all branches are empty. -/
def allVacuous : List (List GlobToken) → Bool
  | [] => true
  | b :: bs => branchVacuous b && allVacuous bs

end

mutual

/-- All that may be left behind a token, given all that may be left in front of it. -/
def step (options : Options) : GlobToken → List (List UInt8) → List (List UInt8)
  | .literal c, lefts => lefts.filterMap (behind? (String.utf8EncodeChar c))
  | .any, lefts =>
    lefts.filterMap fun
      | [] => none
      | b :: left => if options.wild b then some left else none
  | .star, lefts => (lefts.flatMap (tailsWhile options.wild)).eraseDups
  | .leadingDirs, lefts => (lefts.flatMap fun left => left :: behindSlashes left).eraseDups
  | .trailingDirs, lefts =>
    (lefts.flatMap fun
      | [] => []
      | b :: left => if b = slash then tailsWhile (fun _ => true) left else []).eraseDups
  | .innerDirs, lefts =>
    (lefts.flatMap fun
      | [] => []
      | b :: left => if b = slash then left :: behindSlashes left else []).eraseDups
  | .charClass negated ranges, lefts =>
    lefts.filterMap fun
      | [] => none
      | b :: left => if inClass negated ranges b then some left else none
  | .alternatives branches, lefts =>
    if allVacuous branches then lefts else (stepBranches options branches lefts).eraseDups

/-- All that may be left behind the tokens of a branch. -/
def stepTokens (options : Options) : List GlobToken → List (List UInt8) → List (List UInt8)
  | [], lefts => lefts
  | t :: ts, lefts => stepTokens options ts (step options t lefts)

/-- All that may be left behind one of several branches, the empty ones apart. -/
def stepBranches (options : Options) :
    List (List GlobToken) → List (List UInt8) → List (List UInt8)
  | [], _ => []
  | b :: bs, lefts =>
    (if branchVacuous b then [] else stepTokens options b lefts) ++ stepBranches options bs lefts

end

/-- Whether a token is a literal with a character that satisfies `p`. -/
def isLiteral (p : Char → Bool) : GlobToken → Bool
  | .literal c => p c
  | _ => false

def isStar : GlobToken → Bool
  | .star => true
  | _ => false

def isLeadingDirs : GlobToken → Bool
  | .leadingDirs => true
  | _ => false

/-- Whether a pattern asks for one name in any directory. -/
def asksForName (tokens : List GlobToken) : Bool :=
  match tokens with
  | .leadingDirs :: name => !name.isEmpty && name.all (isLiteral (· != '/'))
  | _ => false

/-- Whether a pattern asks for one extension. -/
def asksForExtension (options : Options) (tokens : List GlobToken) : Bool :=
  let name := if tokens.head?.any isLeadingDirs then tokens.drop 1 else tokens
  match name with
  | .star :: .literal dot :: ext =>
    dot == '.' && (tokens.head?.any isLeadingDirs || !options.slashesApart) &&
      ext.all (isLiteral fun c => c != '.' && c != '/')
  | _ => false

/-- Whether a pattern asks for the end of a path and nothing else. -/
def asksForEnd (options : Options) (tokens : List GlobToken) : Bool :=
  let led := tokens.head?.any isLeadingDirs
  let inner := if led then tokens.drop 1 else tokens
  let starred := inner.head?.any isStar
  let ending := if starred then inner.drop 1 else inner
  let component := led && inner.head?.any (isLiteral fun _ => true)
  !inner.isEmpty && !(starred && options.slashesApart) && ending.all (isLiteral fun _ => true) &&
    (component || !ending.isEmpty && !(ending.length == 1 && ending.all (isLiteral (· == '/'))))

/-- Whether a pattern ends with a dot and literal characters that are no slashes. -/
def endsWithExtension (tokens : List GlobToken) : Bool :=
  let ext := tokens.reverse.takeWhile (isLiteral fun c => c != '.' && c != '/')
  (tokens.reverse.drop ext.length).head?.any (isLiteral (· == '.'))

/-- Whether a pattern is matched by way of the name of the file. -/
def goesByName (options : Options) (tokens : List GlobToken) : Bool :=
  asksForName tokens || asksForExtension options tokens ||
    (endsWithExtension tokens && !tokens.all (isLiteral fun _ => true) &&
      !asksForEnd options tokens)

/-- Whether the last component of a path is two dots. -/
def endsInParent (path : List UInt8) : Bool :=
  let last := (path.reverse.takeWhile (· ≠ slash)).reverse
  last == [0x2E, 0x2E]

/-- Whether a pattern is the one that matches everything. -/
def isEverything (tokens : List GlobToken) : Bool :=
  match tokens with
  | [.leadingDirs] => true
  | _ => false

/-- Whether the tokens of a pattern match the bytes of a path. -/
def matchesBytes (options : Options) (tokens : List GlobToken) (path : List UInt8) : Bool :=
  isEverything tokens ||
    ((stepTokens options tokens [path]).any List.isEmpty &&
      !(goesByName options tokens && endsInParent path))

end Glob

/-- A glob pattern with the options under which it was read. -/
structure GlobPattern where
  options : Glob.Options
  tokens : List GlobToken

namespace GlobPattern

def ofText (options : Glob.Options) (text : String) : Except GlobError GlobPattern :=
  match Glob.tokens options text.toList with
  | .ok tokens => .ok ⟨options, tokens⟩
  | .error fault => .error ⟨text, fault⟩

def isMatch (pattern : GlobPattern) (path : List Char) : Bool :=
  Glob.matchesBytes pattern.options pattern.tokens (utf8 path)

end GlobPattern

end DialogueIndex
