import DialogueIndex.Format
import DialogueIndex.Path

/-! # Command line arguments

The first word that names a command ends the arguments of the program itself and begins those of the
command. Most options may stand on either side; what stands behind the command goes before what
stands in front of it. Two hyphens make all words behind them plain.
-/

namespace DialogueIndex

namespace CommandLine

/-- What the program is asked to do. -/
inductive Command where
  /-- Outline a directory, or a file. -/
  | scan (path : Path)
  | outline (path : Path)
  | definition (path : Path) (position : Position)
  | resolve (path : Path) (name : String)
deriving DecidableEq, Repr

/-- Arguments that make sense. -/
structure Arguments where
  command : Command
  format : Format
  output : Option Path
  config : Option Path
  extensions : List String
  ignore : List String
  noUntitled : Bool
  threads : Option Nat
  verbose : Bool
deriving DecidableEq, Repr

/-- Where the arguments are read: those of the program itself, those of a command, or the names of
commands behind the word that asks for help. -/
inductive Level where
  | program
  | scan
  | outline
  | definition
  | resolve
  | help
deriving DecidableEq, Repr

def Level.ofWord? (word : String) : Option Level :=
  match word with
  | "scan" => some .scan
  | "outline" => some .outline
  | "definition" => some .definition
  | "resolve" => some .resolve
  | "help" => some .help
  | _ => none

/-- The number of plain words that a level takes. -/
def Level.capacity : Level → Nat
  | .resolve => 2
  | _ => 1

/-- The options. -/
inductive Switch where
  | format
  | output
  | config
  | ext
  | ignore
  | noUntitled
  | threads
  | verbose
  | line
  | character
  | help
  | version
deriving DecidableEq, Repr

namespace Switch

def ofName? (name : String) : Option Switch :=
  match name with
  | "format" => some .format
  | "output" => some .output
  | "config" => some .config
  | "ext" => some .ext
  | "ignore" => some .ignore
  | "no-untitled" => some .noUntitled
  | "threads" => some .threads
  | "verbose" => some .verbose
  | "line" => some .line
  | "character" => some .character
  | "help" => some .help
  | "version" => some .version
  | _ => none

def ofLetter? (letter : Char) : Option Switch :=
  match letter with
  | 'f' => some .format
  | 'o' => some .output
  | 'v' => some .verbose
  | 'l' => some .line
  | 'c' => some .character
  | 'h' => some .help
  | 'V' => some .version
  | _ => none

def isKnown (level : Level) : Switch → Bool
  | .line => level = .definition
  | .character => level = .definition
  | .version => level = .program
  | _ => true

def takesValue : Switch → Bool
  | .noUntitled => false
  | .verbose => false
  | .help => false
  | .version => false
  | _ => true

end Switch

/-- The options that are given on one level. -/
structure Given where
  format : Option Format := none
  output : Option Path := none
  config : Option Path := none
  extensions : List String := []
  ignore : List String := []
  noUntitled : Bool := false
  threads : Option Nat := none
  verbose : Bool := false
  line : Option Nat := none
  character : Option Nat := none
deriving DecidableEq, Repr

/-- Why no work is to be done. -/
inductive Stop where
  | refused
  | help
  | version
deriving DecidableEq, Repr

/-- The count that a word stands for: decimal digits, in front of which a plus may stand. -/
def count? (word : String) : Option Nat :=
  let digits := match word.toList with
    | '+' :: rest => rest
    | rest => rest
  if digits ≠ [] ∧ digits.all Char.isDigit then
    some (digits.foldl (fun n d => 10 * n + (d.toNat - '0'.toNat)) 0) |>.filter (· < countRange)
  else none

def path? (word : String) : Option Path := if word = "" then none else some ⟨word⟩

/-- The value for an option that has none yet. -/
def once {α : Type} (place : Option α) (value : Option α) : Except Stop (Option α) :=
  match place, value with
  | none, some v => .ok (some v)
  | _, _ => .error .refused

/-- Sets a switch that is not set yet. -/
def turnOn (place : Bool) : Except Stop Bool := if place then .error .refused else .ok true

namespace Given

/-- The options with one more that takes a value. -/
def set (g : Given) (switch : Switch) (value : String) : Except Stop Given :=
  match switch with
  | .format => do return { g with format := ← once g.format (Format.ofName? value) }
  | .output => do return { g with output := ← once g.output (path? value) }
  | .config => do return { g with config := ← once g.config (path? value) }
  | .ext => .ok { g with extensions := g.extensions ++ [value] }
  | .ignore => .ok { g with ignore := g.ignore ++ [value] }
  | .threads => do return { g with threads := ← once g.threads (count? value) }
  | .line => do return { g with line := ← once g.line (count? value) }
  | .character => do return { g with character := ← once g.character (count? value) }
  | _ => .error .refused

/-- The options with one more that takes no value. -/
def raise (g : Given) (switch : Switch) : Except Stop Given :=
  match switch with
  | .noUntitled => do return { g with noUntitled := ← turnOn g.noUntitled }
  | .verbose => do return { g with verbose := ← turnOn g.verbose }
  | .help => .error .help
  | .version => .error .version
  | _ => .error .refused

/-- The options of a command, with those in front of it where the command has none. -/
def above (inner outer : Given) : Given where
  format := inner.format.or outer.format
  output := inner.output.or outer.output
  config := inner.config.or outer.config
  extensions := if inner.extensions.isEmpty then outer.extensions else inner.extensions
  ignore := if inner.ignore.isEmpty then outer.ignore else inner.ignore
  noUntitled := inner.noUntitled || outer.noUntitled
  threads := inner.threads.or outer.threads
  verbose := inner.verbose || outer.verbose
  line := inner.line
  character := inner.character

end Given

/-- How far arguments have been read. -/
structure Reading where
  level : Level := .program
  /-- The options in front of the command. -/
  outer : Given := {}
  given : Given := {}
  /-- The plain words of the level in order. -/
  words : List String := []
  /-- An option whose value comes next. -/
  pending : Option Switch := none
  /-- All further words are plain. -/
  plain : Bool := false

namespace Reading

/-- The option that a level knows. -/
def known (r : Reading) (switch? : Option Switch) : Except Stop Switch :=
  match switch? with
  | some switch => if switch.isKnown r.level then .ok switch else .error .refused
  | none => .error .refused

/-- Reads an option with a value. -/
def value (r : Reading) (switch : Switch) (value : String) : Except Stop Reading := do
  return { r with given := ← r.given.set switch value, pending := none }

/-- Reads a word behind two hyphens. -/
def long (r : Reading) (word : List Char) : Except Stop Reading := do
  let name := word.takeWhile (· ≠ '=')
  let switch ← r.known (Switch.ofName? (String.ofList name))
  match switch.takesValue, word.drop name.length with
  | true, [] => return { r with pending := some switch }
  | true, _ :: text => r.value switch (String.ofList text)
  | false, [] => return { r with given := ← r.given.raise switch }
  | false, _ :: _ => .error .refused

/-- Reads letters behind one hyphen. The value of an option may follow its letter at once or behind
an equals sign. -/
def letters (r : Reading) : List Char → Except Stop Reading
  | [] => .ok r
  | letter :: rest => do
    let switch ← r.known (Switch.ofLetter? letter)
    if switch.takesValue then
      match rest with
      | [] => return { r with pending := some switch }
      | '=' :: text => r.value switch (String.ofList text)
      | text => r.value switch (String.ofList text)
    else letters { r with given := ← r.given.raise switch } rest

def word (r : Reading) (word : String) : Except Stop Reading :=
  let isName := r.level = .resolve ∧ r.words.length = 1
  if r.words.length < r.level.capacity ∧ (word ≠ "" ∨ isName) then
    .ok { r with words := r.words ++ [word] }
  else .error .refused

/-- Reads a word that may begin a command. -/
def commandOrWord (r : Reading) (text : String) : Except Stop Reading :=
  match r.level, Level.ofWord? text with
  | .program, some level => .ok { level := level, outer := r.given }
  | _, _ => r.word text

def next (r : Reading) (argument : String) : Except Stop Reading :=
  if r.level = .help then
    if (Level.ofWord? argument).isSome then r.word argument else .error .refused
  else if r.plain then r.word argument
  else match r.pending, argument.toList with
    | some _, '-' :: _ :: _ => .error .refused
    | some switch, _ => r.value switch argument
    | none, ['-', '-'] => .ok { r with plain := true }
    | none, '-' :: '-' :: rest => r.long rest
    | none, '-' :: c :: rest => r.letters (c :: rest)
    | none, _ => r.commandOrWord argument

/-- What is asked for, once all arguments are read. -/
def command? (r : Reading) : Except Stop Command :=
  match r.level, r.words with
  | .program, words => .ok (.scan ⟨words.headD "."⟩)
  | .scan, words => .ok (.scan ⟨words.headD "."⟩)
  | .outline, [path] => .ok (.outline ⟨path⟩)
  | .definition, [path] =>
    match r.given.line with
    | some line => .ok (.definition ⟨path⟩ ⟨line, r.given.character.getD 0⟩)
    | none => .error .refused
  | .resolve, [path, name] => .ok (.resolve ⟨path⟩ name)
  | .help, _ => .error .help
  | _, _ => .error .refused

def arguments (r : Reading) : Except Stop Arguments := do
  if r.pending.isSome then throw .refused
  let command ← r.command?
  let given := r.given.above r.outer
  return {
    command := command
    format := given.format.getD .standard
    output := given.output
    config := given.config
    extensions := given.extensions
    ignore := given.ignore
    noUntitled := given.noUntitled
    threads := given.threads
    verbose := given.verbose }

end Reading

def Arguments.ofWords (words : List String) : Except Stop Arguments := do
  (← words.foldlM Reading.next {}).arguments

end CommandLine

end DialogueIndex
