import DialogueIndex.FileTree.Lookup
import DialogueIndex.Ignore.Rule

/-! # Ignore files

The lines of an ignore file end with a line feed, in front of which a carriage return may stand.
A line that holds no rule is a fault of the file, but the rules on the other lines are still read. A
line that is not UTF-8 ends the reading.
-/

namespace DialogueIndex

/-- What is wrong with a line of an ignore file. -/
inductive RuleFault where
  | glob (error : GlobError)
  | unreadable (cause : FileError)
deriving DecidableEq, Repr

def RuleFault.message : RuleFault → String
  | glob error => error.message
  | unreadable cause => cause.message

/-- What an ignore file holds: its rules in order, and the faults with the numbers of their lines,
which count from one. -/
structure RuleFile where
  rules : List IgnoreRule
  faults : List (Nat × RuleFault)

namespace RuleFile

def feed : UInt8 := 0x0A

def carriageReturn : UInt8 := 0x0D

/-- The lines of some bytes without what ends them. -/
def byteLines : List UInt8 → List (List UInt8)
  | [] => []
  | b :: rest =>
    if b = feed then [] :: byteLines rest
    else if b = carriageReturn ∧ rest.head? = some feed then byteLines rest
    else match byteLines rest with
      | line :: lines => (b :: line) :: lines
      | [] => [[b]]

/-- What the lines hold that start at the given number. -/
def ofLines (number : Nat) : List (List UInt8) → RuleFile
  | [] => ⟨[], []⟩
  | line :: rest =>
    match ofUtf8? line with
    | none => ⟨[], [(number, .unreadable .notUtf8)]⟩
    | some text =>
      let chars := if number = 1 then text.toList.dropWhile (· = byteOrderMark) else text.toList
      let later := ofLines (number + 1) rest
      match IgnoreRule.ofLine? chars with
      | .ok rule => ⟨rule.toList ++ later.rules, later.faults⟩
      | .error error => ⟨later.rules, (number, .glob error) :: later.faults⟩

def read (tree : FileTree) (p : Path) : RuleFile :=
  match tree.read p with
  | .ok content => ofLines 1 (byteLines content.data.toList)
  | .error cause => ⟨[], [(1, .unreadable cause)]⟩

/-- The message for the faults of the file at a path. -/
def message (file : RuleFile) (p : Path) : String :=
  String.intercalate "\n" <| file.faults.map fun (number, fault) =>
    p.text ++ ": line " ++ toString number ++ ": " ++ fault.message

end RuleFile

end DialogueIndex
