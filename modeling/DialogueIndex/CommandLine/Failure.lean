import DialogueIndex.SourceFile

/-! # Failures

What is told of work that cannot be done: what was tried, and from the outside to the inside why it
did not succeed.
-/

namespace DialogueIndex

/-- What the reader of settings texts says of all faults. -/
def settingsFault : String := "TOML parse error"

/-- Why a configuration cannot be used, from the outside to the inside. -/
def ConfigError.causes : ConfigError → List String
  | glob error => [ConfigError.message (.glob error)]
  | unreadable cause => [ConfigError.message (.unreadable cause), cause.message]
  | settings => [ConfigError.message .settings ++ settingsFault, settingsFault]

/-- Why files cannot be looked at, from the outside to the inside. -/
def ScanError.causes : ScanError → List String
  | unreadable cause => [ScanError.message (.unreadable cause), cause.message]
  | config error => ScanError.message (.config error) :: error.causes
  | tooLarge path size => [ScanError.message (.tooLarge path size)]

namespace CommandLine

/-- Work that cannot be done. -/
structure Failure where
  attempt : String
  causes : List String
deriving DecidableEq, Repr

namespace Failure

/-- A text with spaces in front of all its lines but the first. -/
def indentRest (width : Nat) (text : String) : String :=
  String.ofList <| text.toList.flatMap fun c =>
    if c = '\n' then '\n' :: List.replicate width ' ' else [c]

def numberedCause (cause : String) (number : Nat) : String :=
  let digits := toString number
  "\n" ++ String.ofList (List.replicate (5 - digits.length) ' ') ++ digits ++ ": " ++
    indentRest 7 cause

/-- The causes below each other. One alone has no number. -/
def causesText : List String → String
  | [] => ""
  | [cause] => "\n\nCaused by:\n    " ++ indentRest 4 cause
  | causes => "\n\nCaused by:" ++
    String.join (causes.zipIdx.map fun (cause, number) => numberedCause cause number)

/-- What is told of a failure. -/
def report (failure : Failure) : String :=
  "Error: " ++ failure.attempt ++ causesText failure.causes ++ "\n"

end Failure

end CommandLine

end DialogueIndex
