import DialogueIndex.Data.Basic
import DialogueIndex.Number.Decimal

/-! # JSON text

Writing is on one line or spread over lines with two spaces for each level. In strings the quote,
the backslash and the controls below U+0020 are escaped, and nothing else.
-/

namespace DialogueIndex

/-- How JSON writes numbers. -/
def jsonNumbers : NumberLayout := ⟨-5, 15, true⟩

namespace Json

/-- The characters that stand for one character inside a string. -/
def escapeChar (c : Char) : List Char :=
  if c = '\"' then ['\\', '\"']
  else if c = '\\' then ['\\', '\\']
  else if c = '\n' then ['\\', 'n']
  else if c = '\r' then ['\\', 'r']
  else if c = '\t' then ['\\', 't']
  else if c = '\x08' then ['\\', 'b']
  else if c = '\x0c' then ['\\', 'f']
  else if c.toNat < 0x20 then
    ['\\', 'u', '0', '0', Nat.digitChar (c.toNat / 16), Nat.digitChar (c.toNat % 16)]
  else [c]

def quote (text : String) : List Char := '\"' :: text.toList.flatMap escapeChar ++ ['\"']

/-- The text of a value that has no parts. -/
def scalar : Data → List Char
  | .null => ['n', 'u', 'l', 'l']
  | .bool true => ['t', 'r', 'u', 'e']
  | .bool false => ['f', 'a', 'l', 's', 'e']
  | .nat n => Nat.toDigits 10 n
  | .number x => x.toText jsonNumbers
  | .text s => quote s
  | .list _ => ['[', ']']
  | .record _ => ['\x7b', '\x7d']

/-- The start of a line at a level of nesting. -/
def newline (level : Nat) : List Char := '\n' :: List.replicate (2 * level) ' '

mutual

/-- A value spread over lines, at a level of nesting. -/
def spread (level : Nat) : Data → List Char
  | .list (item :: items) =>
    '[' :: newline (level + 1) ++ spread (level + 1) item ++ spreadItems (level + 1) items ++
      newline level ++ [']']
  | .record ((name, value) :: fields) =>
    '\x7b' :: newline (level + 1) ++ quote name ++ [':', ' '] ++ spread (level + 1) value ++
      spreadFields (level + 1) fields ++ newline level ++ ['\x7d']
  | value => scalar value

/-- The further items of a list. -/
def spreadItems (level : Nat) : List Data → List Char
  | [] => []
  | item :: items => ',' :: newline level ++ spread level item ++ spreadItems level items

/-- The further fields of a record. -/
def spreadFields (level : Nat) : List (String × Data) → List Char
  | [] => []
  | (name, value) :: fields =>
    ',' :: newline level ++ quote name ++ [':', ' '] ++ spread level value ++
      spreadFields level fields

end

mutual

/-- A value on one line. -/
def compact : Data → List Char
  | .list (item :: items) => '[' :: compact item ++ compactItems items ++ [']']
  | .record ((name, value) :: fields) =>
    '\x7b' :: quote name ++ [':'] ++ compact value ++ compactFields fields ++ ['\x7d']
  | value => scalar value

def compactItems : List Data → List Char
  | [] => []
  | item :: items => ',' :: compact item ++ compactItems items

def compactFields : List (String × Data) → List Char
  | [] => []
  | (name, value) :: fields =>
    ',' :: quote name ++ [':'] ++ compact value ++ compactFields fields

end

end Json

def Data.toJson (value : Data) : String := String.ofList (Json.spread 0 value)

def Data.toCompactJson (value : Data) : String := String.ofList (Json.compact value)

end DialogueIndex
