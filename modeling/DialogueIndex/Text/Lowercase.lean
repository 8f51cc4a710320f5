import DialogueIndex.Text.CaseTables

/-! # Lower case

The full lower-case mapping of Unicode. Two things set it apart from a map over characters: `İ`
becomes two characters, and a capital sigma becomes `ς` at the end of a word and `σ` elsewhere.
-/

namespace DialogueIndex

def isCased (c : Char) : Bool := casedRanges.contains c.toNat

/-- Whether a character is passed over when looking for the neighbours of a sigma. -/
def isCaseIgnorable (c : Char) : Bool := caseIgnorableRanges.contains c.toNat

/-- The first run that reaches up to a code point, if it covers the point. -/
def lowerRun? (n : Nat) : Option CaseRun :=
  (lowerRuns.find? fun run => n ≤ run.last).filter (·.covers n)

/-- The lower-case form of one character out of context. -/
def lowerChar (c : Char) : List Char :=
  if c = 'İ' then ['i', '\u0307']
  else match lowerRun? c.toNat with
    | some run => [Char.ofNat (c.toNat + run.offset).toNat]
    | none => [c]

/-- Whether the first character that is not case-ignorable has case. -/
def startsCased (cs : List Char) : Bool :=
  match cs.dropWhile isCaseIgnorable with
  | c :: _ => isCased c
  | [] => false

/-- Lower-cases a text. `afterCased` says whether the last character before it that is not
case-ignorable has case. -/
def lowerFrom (afterCased : Bool) : List Char → List Char
  | [] => []
  | c :: rest =>
    let lower :=
      if c = 'Σ' then [if afterCased && !startsCased rest then 'ς' else 'σ'] else lowerChar c
    lower ++ lowerFrom (if isCaseIgnorable c then afterCased else isCased c) rest

def lowercase (cs : List Char) : List Char := lowerFrom false cs

end DialogueIndex
