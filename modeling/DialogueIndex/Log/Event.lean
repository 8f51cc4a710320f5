import DialogueIndex.Text.Printable

/-! # Log events

What a program reports about its work while it runs: a message with named values.
-/

namespace DialogueIndex

/-- How much an event matters. -/
inductive LogLevel where
  | error
  | warn
  | info
  | debug
  | trace
deriving DecidableEq, Repr

namespace LogLevel

def label : LogLevel → String
  | error => "ERROR"
  | warn => "WARN"
  | info => "INFO"
  | debug => "DEBUG"
  | trace => "TRACE"

/-- The rank of a level, higher the less it matters. -/
def rank : LogLevel → Nat
  | error => 0
  | warn => 1
  | info => 2
  | debug => 3
  | trace => 4

end LogLevel

/-- Something that is reported. The values of its fields are in their written form. -/
structure LogEvent where
  level : LogLevel
  message : String
  fields : List (String × String)
deriving DecidableEq, Repr

namespace LogEvent

def line (event : LogEvent) : String :=
  event.level.label ++ " " ++ event.message ++
    String.join (event.fields.map fun (name, value) => " " ++ name ++ "=" ++ value)

/-- Whether an event is reported at a level. -/
def isShown (level : LogLevel) (event : LogEvent) : Bool := event.level.rank ≤ level.rank

end LogEvent

/-- The escaped form of a character in a quoted value. -/
def quotedChar (c : Char) : List Char :=
  match c with
  | '\x00' => ['\\', '0']
  | '\t' => ['\\', 't']
  | '\r' => ['\\', 'r']
  | '\n' => ['\\', 'n']
  | '\\' => ['\\', '\\']
  | '"' => ['\\', '"']
  | c =>
    if isPrintable c then [c]
    else ['\\', 'u', '\x7b'] ++ Nat.toDigits 16 c.toNat ++ ['\x7d']

/-- A text in quotation marks, with what cannot be shown escaped. -/
def quotedValue (text : String) : String :=
  String.ofList ('"' :: text.toList.flatMap quotedChar ++ ['"'])

/-- Texts in quotation marks, as a list. -/
def quotedValues (texts : List String) : String :=
  "[" ++ String.intercalate ", " (texts.map quotedValue) ++ "]"

end DialogueIndex
