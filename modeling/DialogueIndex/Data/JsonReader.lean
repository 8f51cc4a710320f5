import DialogueIndex.Data.Basic

/-! # Reading JSON

The whole JSON grammar. A number without a sign, a fraction and an exponent is a count; every other
number is rounded to the nearest binary number, and refused when it is out of range.
-/

namespace DialogueIndex

namespace Json

/-- Whether a character may stand between tokens. -/
def isBetween (c : Char) : Bool := c == ' ' || c == '\n' || c == '\t' || c == '\r'

/-- The text from the next token on. -/
def skip (cs : List Char) : List Char := cs.dropWhile isBetween

def hexDigit? (c : Char) : Option Nat :=
  if '0' ≤ c ∧ c ≤ '9' then some (c.toNat - '0'.toNat)
  else if 'a' ≤ c ∧ c ≤ 'f' then some (c.toNat - 'a'.toNat + 10)
  else if 'A' ≤ c ∧ c ≤ 'F' then some (c.toNat - 'A'.toNat + 10)
  else none

def hexValue? (digits : List Char) : Option Nat :=
  digits.foldlM (fun value c => (hexDigit? c).map (value * 16 + ·)) 0

/-- A part of a string literal: a character as it is, or a unit of 16 bits by its number. -/
inductive StringPart where
  | char (c : Char)
  | unit (number : Nat)

/-- The character that a one-letter escape stands for. -/
def unescape? : Char → Option Char
  | '\"' => some '\"'
  | '\\' => some '\\'
  | '/' => some '/'
  | 'b' => some '\x08'
  | 'f' => some '\x0c'
  | 'n' => some '\n'
  | 'r' => some '\r'
  | 't' => some '\t'
  | _ => none

/-- The parts of a string literal behind its opening quote, and the text behind the closing one. -/
def readParts : List Char → Option (List StringPart × List Char)
  | '\"' :: rest => some ([], rest)
  | '\\' :: 'u' :: a :: b :: c :: d :: rest => do
    let number ← hexValue? [a, b, c, d]
    let (parts, after) ← readParts rest
    return (.unit number :: parts, after)
  | '\\' :: e :: rest => do
    let c ← unescape? e
    let (parts, after) ← readParts rest
    return (.char c :: parts, after)
  | c :: rest =>
    if c.toNat < 0x20 then none
    else do
      let (parts, after) ← readParts rest
      return (.char c :: parts, after)
  | [] => none

/-- The characters of a string literal. A high surrogate must stand before a low one and the two
make one character; no surrogate stands alone. -/
def joinParts : List StringPart → Option (List Char)
  | [] => some []
  | .char c :: rest => (joinParts rest).map (c :: ·)
  | .unit high :: .unit low :: rest =>
    if 0xD800 ≤ high ∧ high < 0xDC00 then
      if 0xDC00 ≤ low ∧ low < 0xE000 then
        (joinParts rest).map
          (Char.ofNat (0x10000 + (high - 0xD800) * 0x400 + (low - 0xDC00)) :: ·)
      else none
    else if 0xDC00 ≤ high ∧ high < 0xE000 then none
    else (joinParts (.unit low :: rest)).map (Char.ofNat high :: ·)
  | .unit number :: rest =>
    if 0xD800 ≤ number ∧ number < 0xE000 then none
    else (joinParts rest).map (Char.ofNat number :: ·)

/-- A string behind its opening quote. -/
def readString (cs : List Char) : Option (String × List Char) := do
  let (parts, after) ← readParts cs
  let chars ← joinParts parts
  return (String.ofList chars, after)

def digitsValue (digits : List Char) : Nat :=
  digits.foldl (fun value c => value * 10 + (c.toNat - '0'.toNat)) 0

/-- The decimals behind a point, if there is one. -/
def readFraction : List Char → Option (List Char × List Char)
  | '.' :: rest =>
    let digits := rest.takeWhile Char.isDigit
    if digits.isEmpty then none else some (digits, rest.dropWhile Char.isDigit)
  | cs => some ([], cs)

def readExponentDigits (negative : Bool) (cs : List Char) : Option (Option Int × List Char) :=
  let digits := cs.takeWhile Char.isDigit
  let value : Int := digitsValue digits
  if digits.isEmpty then none
  else some (some (if negative then -value else value), cs.dropWhile Char.isDigit)

def readExponent : List Char → Option (Option Int × List Char)
  | e :: rest =>
    if e = 'e' ∨ e = 'E' then
      match rest with
      | '+' :: digits => readExponentDigits false digits
      | '-' :: digits => readExponentDigits true digits
      | digits => readExponentDigits false digits
    else some (none, e :: rest)
  | [] => some (none, [])

def readUnsigned (negative : Bool) (cs : List Char) : Option (Data × List Char) := do
  let whole := cs.takeWhile Char.isDigit
  if whole.isEmpty ∨ whole.length > 1 ∧ whole.head? = some '0' then failure
  let (fraction, afterFraction) ← readFraction (cs.dropWhile Char.isDigit)
  let (exponent, after) ← readExponent afterFraction
  if ¬ negative ∧ fraction.isEmpty ∧ exponent.isNone then
    return (.nat (digitsValue whole), after)
  let value ← Binary64.ofDecimal? negative (digitsValue (whole ++ fraction))
    (exponent.getD 0 - fraction.length)
  return (.number value, after)

def readNumber : List Char → Option (Data × List Char)
  | '-' :: rest => readUnsigned true rest
  | cs => readUnsigned false cs

def readWord (word cs : List Char) : Option (List Char) :=
  if word.isPrefixOf cs then some (cs.drop word.length) else none

mutual

/-- A value at the start of a text, nested no deeper than `fuel` allows. -/
def readValue : Nat → List Char → Option (Data × List Char)
  | 0, _ => none
  | fuel + 1, cs =>
    match cs with
    | '\"' :: rest => (readString rest).map fun (s, after) => (.text s, after)
    | '[' :: rest =>
      match skip rest with
      | ']' :: after => some (.list [], after)
      | items => (readItems fuel items).map fun (found, after) => (.list found, after)
    | '\x7b' :: rest =>
      match skip rest with
      | '\x7d' :: after => some (.record [], after)
      | fields => (readFields fuel fields).map fun (found, after) => (.record found, after)
    | 't' :: _ => (readWord "true".toList cs).map (Data.bool true, ·)
    | 'f' :: _ => (readWord "false".toList cs).map (Data.bool false, ·)
    | 'n' :: _ => (readWord "null".toList cs).map (Data.null, ·)
    | _ => readNumber cs

/-- The items of a list up to its closing bracket, at least one. -/
def readItems : Nat → List Char → Option (List Data × List Char)
  | 0, _ => none
  | fuel + 1, cs => do
    let (item, after) ← readValue fuel cs
    match skip after with
    | ']' :: rest => return ([item], rest)
    | ',' :: rest =>
      let (items, last) ← readItems fuel (skip rest)
      return (item :: items, last)
    | _ => none

/-- The fields of a record up to its closing brace, at least one. -/
def readFields : Nat → List Char → Option (List (String × Data) × List Char)
  | 0, _ => none
  | fuel + 1, cs =>
    match cs with
    | '\"' :: rest => do
      let (name, afterName) ← readString rest
      match skip afterName with
      | ':' :: beforeValue =>
        let (value, after) ← readValue fuel (skip beforeValue)
        match skip after with
        | '\x7d' :: last => return ([(name, value)], last)
        | ',' :: more =>
          let (fields, last) ← readFields fuel (skip more)
          return ((name, value) :: fields, last)
        | _ => none
      | _ => none
    | _ => none

end

end Json

def Data.ofJson? (text : String) : Option Data := do
  let cs := text.toList
  let (value, after) ← Json.readValue (cs.length + 1) (Json.skip cs)
  if (Json.skip after).isEmpty then return value else failure

end DialogueIndex
