/-! # Glob patterns

A pattern is a list of tokens. In the text of a pattern `?` stands for any byte, `*` for any bytes,
brackets enclose a class, braces enclose alternatives between commas, and a backslash takes away
the meaning of the character behind it. Two stars that make up a whole component stand for any
directories; elsewhere they are two stars.
-/

namespace DialogueIndex

/-- What a glob pattern consists of. -/
inductive GlobToken where
  /-- The character itself. -/
  | literal (c : Char)
  /-- Any byte. -/
  | any
  /-- Any bytes. -/
  | star
  /-- Two stars at the start: nothing, or any directories with the slash behind them. -/
  | leadingDirs
  /-- Two stars at the end: a slash and anything behind it. -/
  | trailingDirs
  /-- Two stars inside: a slash, or any directories between slashes. -/
  | innerDirs
  /-- A byte inside the ranges, or outside of them when negated. -/
  | charClass (negated : Bool) (ranges : List (Char × Char))
  /-- One of several patterns. -/
  | alternatives (branches : List (List GlobToken))
deriving Inhabited

/-- Why a text is no pattern. -/
inductive GlobFault where
  | unclosedClass
  | invertedRange (low high : Char)
  | unopenedGroup
  | unclosedGroup
  | danglingEscape
deriving DecidableEq, Repr

namespace GlobFault

def message : GlobFault → String
  | unclosedClass => "unclosed character class; missing ']'"
  | invertedRange low high =>
    "invalid range; '" ++ low.toString ++ "' > '" ++ high.toString ++ "'"
  | unopenedGroup =>
    "unopened alternate group; missing '\x7b' (maybe escape '\x7d' with '[\x7d]'?)"
  | unclosedGroup =>
    "unclosed alternate group; missing '\x7d' (maybe escape '\x7b' with '[\x7b]'?)"
  | danglingEscape => "dangling '\\'"

end GlobFault

/-- A text that is no pattern. -/
structure GlobError where
  glob : String
  fault : GlobFault
deriving DecidableEq, Repr

/-- The message for a text that is no pattern. -/
def GlobError.message (e : GlobError) : String :=
  "error parsing glob '" ++ e.glob ++ "': " ++ e.fault.message

namespace Glob

/-- A group of alternatives that is being read. -/
structure Group where
  /-- The tokens in front of the group, last first. -/
  before : List GlobToken
  /-- The alternatives that are complete, last first. -/
  branches : List (List GlobToken)

/-- How far a pattern has been read. -/
structure Progress where
  /-- The tokens of the innermost alternative, last first. -/
  tokens : List GlobToken
  /-- The groups around it, innermost first. -/
  groups : List Group

namespace Progress

def start : Progress := ⟨[], []⟩

def push (p : Progress) (t : GlobToken) : Progress := { p with tokens := t :: p.tokens }

def openGroup (p : Progress) : Progress := ⟨[], ⟨p.tokens, []⟩ :: p.groups⟩

/-- Ends an alternative, or reads a comma outside all groups. -/
def comma (p : Progress) : Progress :=
  match p.groups with
  | [] => p.push (.literal ',')
  | g :: outer => ⟨[], ⟨g.before, p.tokens.reverse :: g.branches⟩ :: outer⟩

def closeGroup? (p : Progress) : Option Progress :=
  match p.groups with
  | [] => none
  | g :: outer =>
    some ⟨.alternatives (p.tokens.reverse :: g.branches).reverse :: g.before, outer⟩

/-- Two stars that are no component. -/
def pushStars (p : Progress) : Progress := (p.push .star).push .star

/-- Two stars that are a whole component behind a slash, which becomes part of them. Several such
components in a row are one. -/
def pushDirs (p : Progress) (atEnd : Bool) : Progress :=
  match p.tokens with
  | .leadingDirs :: _ => p
  | .trailingDirs :: _ => p
  | _ :: rest => { p with tokens := (if atEnd then .trailingDirs else .innerDirs) :: rest }
  | [] => p

/-- Whether two stars behind `previous` can be a whole component. -/
def atComponent (p : Progress) (previous : Option Char) : Bool :=
  previous == some '/' ||
    (!p.groups.isEmpty && (previous == some ',' || previous == some '\x7b'))

end Progress

/-- A class that is being read: its ranges, last first. -/
structure OpenClass where
  /-- How far the pattern had been read in front of the class. -/
  before : Progress
  /-- The text behind the opening bracket. -/
  rest : List Char
  negated : Bool
  ranges : List (Char × Char)
  /-- No character of the class has been read. -/
  fresh : Bool
  /-- A hyphen behind a character has been read. -/
  hyphen : Bool

namespace OpenClass

/-- Adds a character as a range of its own. -/
def single (k : OpenClass) (c : Char) : OpenClass :=
  { k with ranges := (c, c) :: k.ranges, fresh := false, hyphen := false }

/-- Makes a character the end of the last range. -/
def extend (k : OpenClass) (c : Char) : Except GlobFault OpenClass :=
  match k.ranges with
  | (low, _) :: rest =>
    if c < low then .error (.invertedRange low c)
    else .ok { k with ranges := (low, c) :: rest, fresh := false, hyphen := false }
  | [] => .ok (k.single c)

/-- Adds a character that does not end the class. -/
def add (k : OpenClass) (c : Char) : Except GlobFault OpenClass :=
  if c = '-' ∧ ¬ k.fresh ∧ ¬ k.hyphen then .ok { k with hyphen := true }
  else if k.hyphen then k.extend c
  else .ok (k.single c)

/-- The token of a class that is complete. A hyphen at its end stands for itself. -/
def token (k : OpenClass) : GlobToken :=
  .charClass k.negated (if k.hyphen then ('-', '-') :: k.ranges else k.ranges).reverse

end OpenClass

/-- How reading a pattern ends. -/
inductive Outcome where
  | done (p : Progress)
  | fault (f : GlobFault)
  /-- The text ended inside a class. -/
  | inClass (k : OpenClass)

/-- Reads a pattern from some place on. `inside` is the class around the place, and `previous` the
character in front of it. Unless `classes`, a bracket stands for itself. -/
def readFrom (classes : Bool) (inside : Option OpenClass) (previous : Option Char) (p : Progress) :
    List Char → Outcome
  | [] =>
    match inside with
    | some k => .inClass k
    | none => .done p
  | c :: rest =>
    match inside with
    | some k =>
      if c = ']' ∧ ¬ k.fresh then readFrom classes none (some c) (p.push k.token) rest
      else if (c = '!' ∨ c = '^') ∧ k.fresh ∧ ¬ k.negated then
        readFrom classes (some { k with negated := true }) (some c) p rest
      else match k.add c with
        | .ok k => readFrom classes (some k) (some c) p rest
        | .error f => .fault f
    | none =>
      match c with
      | '?' => readFrom classes none (some c) (p.push .any) rest
      | '*' =>
        match rest with
        | '*' :: behind =>
          match behind with
          | '/' :: last =>
            if p.tokens.isEmpty then readFrom classes none (some '/') (p.push .leadingDirs) last
            else if p.atComponent previous then
              readFrom classes none (some '/') (p.pushDirs false) last
            else readFrom classes none (some '*') p.pushStars ('/' :: last)
          | [] =>
            if p.tokens.isEmpty then .done (p.push .leadingDirs)
            else if p.atComponent previous then .done (p.pushDirs true)
            else .done p.pushStars
          | next :: last =>
            if ¬ p.tokens.isEmpty ∧ p.atComponent previous ∧ ¬ p.groups.isEmpty ∧
                (next = ',' ∨ next = '\x7d') then
              readFrom classes none (some '*') (p.pushDirs true) (next :: last)
            else readFrom classes none (some '*') p.pushStars (next :: last)
        | behind => readFrom classes none (some c) (p.push .star) behind
      | '[' =>
        if classes then
          readFrom classes (some ⟨p, rest, false, [], true, false⟩) (some c) p rest
        else readFrom classes none (some c) (p.push (.literal c)) rest
      | '\x7b' => readFrom classes none (some c) p.openGroup rest
      | '\x7d' =>
        match p.closeGroup? with
        | some q => readFrom classes none (some c) q rest
        | none => .fault .unopenedGroup
      | ',' => readFrom classes none (some c) p.comma rest
      | '\\' =>
        match rest with
        | escaped :: behind =>
          readFrom classes none (some escaped) (p.push (.literal escaped)) behind
        | [] => .fault .danglingEscape
      | c => readFrom classes none (some c) (p.push (.literal c)) rest

/-- How strictly patterns are read and how they match. -/
structure Options where
  /-- Wildcards do not match a slash. -/
  slashesApart : Bool
  /-- A bracket that is never closed stands for itself, and so do all brackets behind it. -/
  openBrackets : Bool
deriving DecidableEq, Repr

/-- The tokens of a pattern that has been read to its end. -/
def Outcome.tokens : Outcome → Except GlobFault (List GlobToken)
  | .done p => if p.groups.isEmpty then .ok p.tokens.reverse else .error .unclosedGroup
  | .fault f => .error f
  | .inClass _ => .error .unclosedClass

/-- The tokens of a pattern. -/
def tokens (options : Options) (text : List Char) : Except GlobFault (List GlobToken) :=
  match readFrom true none none .start text with
  | .inClass k =>
    if options.openBrackets then
      (readFrom false none (some '[') (k.before.push (.literal '[')) k.rest).tokens
    else .error .unclosedClass
  | outcome => outcome.tokens

end Glob

end DialogueIndex
