import DialogueIndex.Settings.Token

/-! # Settings

A settings text has at most one value for each of some keys, one to a line, in the TOML format. What
that format has besides, such as tables, fractions and dates, is no value of any key, so a text with
it is refused as one with an unknown key is.
-/

namespace DialogueIndex

/-- What a settings text says. What it does not say is left as it is. -/
structure Settings where
  extensions : Option (List String) := none
  ignore : Option (List String) := none
  ignoreFile : Option String := none
  threads : Option Nat := none
  maxFileSize : Option Nat := none
  followLinks : Option Bool := none
  includeHidden : Option Bool := none
  includeUntitled : Option Bool := none
deriving DecidableEq, Repr

namespace Settings

/-- The value of a key. -/
inductive Value where
  | text (value : String)
  | texts (values : List String)
  | count (value : Nat)
  | flag (value : Bool)
deriving DecidableEq, Repr

def digit? (base : Nat) (c : Char) : Option Nat := (hexDigit? c).filter (· < base)

/-- The number written in digits. An underscore may stand between two digits. -/
def digits? (base value : Nat) (behindDigit : Bool) : List Char → Option Nat
  | [] => if behindDigit then some value else none
  | '_' :: rest => if behindDigit then digits? base value false rest else none
  | c :: rest =>
    match digit? base c with
    | some d => digits? base (base * value + d) true rest
    | none => none

/-- The number written in decimal digits. It does not start with a zero unless it is zero. -/
def decimal? : List Char → Option Nat
  | '0' :: _ :: _ => none
  | text => digits? 10 0 false text

/-- The end of the range of counts. -/
def countLimit : Nat := Nat.pow 2 63

/-- The count that a word stands for. Nothing but zero can be negated. -/
def count? (word : List Char) : Option Nat :=
  let value? := match word with
    | '0' :: 'x' :: rest => digits? 16 0 false rest
    | '0' :: 'o' :: rest => digits? 8 0 false rest
    | '0' :: 'b' :: rest => digits? 2 0 false rest
    | '+' :: rest => decimal? rest
    | '-' :: rest => (decimal? rest).filter (· = 0)
    | rest => decimal? rest
  value?.filter (· < countLimit)

def wordValue? (word : List Char) : Option Value :=
  if word = "true".toList then some (.flag true)
  else if word = "false".toList then some (.flag false)
  else (count? word).map .count

def key? : Token → Option String
  | .word text => some (String.ofList text)
  | .quoted text => some (String.ofList text)
  | _ => none

mutual

/-- The values of keys from the start of a line on. -/
def entries? : List Token → Option (List (String × Value))
  | [] => some []
  | .newline :: rest => entries? rest
  | key :: .equals :: .openList :: rest => do
    let key ← key? key
    items? key [] false rest
  | key :: .equals :: .word text :: rest => do
    let entry := (← key? key, ← wordValue? text)
    return entry :: (← lineEnd? rest)
  | key :: .equals :: .quoted text :: rest => do
    let entry := (← key? key, .text (String.ofList text))
    return entry :: (← lineEnd? rest)
  | key :: .equals :: .block text :: rest => do
    let entry := (← key? key, .text (String.ofList text))
    return entry :: (← lineEnd? rest)
  | _ :: _ => none
termination_by structural tokens => tokens

/-- The values of keys from the end of a line on. -/
def lineEnd? : List Token → Option (List (String × Value))
  | [] => some []
  | .newline :: rest => entries? rest
  | _ :: _ => none
termination_by structural tokens => tokens

/-- The values of keys from inside a list on. `items` holds the items of the list so far, last
first, and `closed` says that a comma must stand before the next. -/
def items? (key : String) (items : List String) (closed : Bool) :
    List Token → Option (List (String × Value))
  | .newline :: rest => items? key items closed rest
  | .closeList :: rest => (lineEnd? rest).map ((key, .texts items.reverse) :: ·)
  | .comma :: rest => if closed then items? key items false rest else none
  | .quoted text :: rest =>
    if closed then none else items? key (String.ofList text :: items) true rest
  | .block text :: rest =>
    if closed then none else items? key (String.ofList text :: items) true rest
  | _ => none
termination_by structural tokens => tokens

end

/-- Puts a value in the place of a key, which is empty so far. -/
def setOnce {α : Type} (place : Option α) (value : α) : Option (Option α) :=
  match place with
  | none => some (some value)
  | some _ => none

def add? (s : Settings) : String × Value → Option Settings
  | ("extensions", .texts v) => do return { s with extensions := ← setOnce s.extensions v }
  | ("ignore", .texts v) => do return { s with ignore := ← setOnce s.ignore v }
  | ("ignore_file", .text v) => do return { s with ignoreFile := ← setOnce s.ignoreFile v }
  | ("threads", .count v) => do return { s with threads := ← setOnce s.threads v }
  | ("max_file_size", .count v) => do return { s with maxFileSize := ← setOnce s.maxFileSize v }
  | ("follow_symlinks", .flag v) => do return { s with followLinks := ← setOnce s.followLinks v }
  | ("include_hidden", .flag v) => do return { s with includeHidden := ← setOnce s.includeHidden v }
  | ("include_untitled", .flag v) => do
    return { s with includeUntitled := ← setOnce s.includeUntitled v }
  | _ => none

/-- The settings that a text holds. A byte-order mark may stand in front of it. -/
def ofText? (text : String) : Option Settings := do
  let chars := match text.toList with
    | c :: rest => if c = byteOrderMark then rest else c :: rest
    | [] => []
  (← entries? (← tokens chars)).foldlM add? {}

end Settings

end DialogueIndex
