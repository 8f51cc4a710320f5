import DialogueIndex.Number.Decimal
import DialogueIndex.Data.JsonReader

/-! # YAML scalars

How a text is written as a YAML scalar. A text with a line feed is a literal block. A text that
would be read as something else than a text stands in single quotes. Any other text is plain if the
grammar allows it. Where a style is not allowed the next stronger one is taken; double quotes can
hold every text.
-/

namespace DialogueIndex

namespace Yaml

def isBreak (c : Char) : Bool :=
  c == '\n' || c == '\r' || c == '\u0085' || c == '\u2028' || c == '\u2029'

/-- Whether a character is a space, a tab, a line end or the null character. -/
def isGap (c : Char) : Bool := c == ' ' || c == '\t' || c == '\x00' || isBreak c

/-- Whether a character may stand in a scalar without an escape. -/
def isPlainChar (c : Char) : Bool :=
  c == '\n' || (' ' ≤ c && c ≤ '~') || ('\u00A0' ≤ c && c ≤ '\uD7FF') ||
    ('\uE000' ≤ c && c ≤ '\uFFFD' && c != '\uFEFF') || 0x10000 ≤ c.toNat

/-- Whether two characters stand side by side with the properties `p` and `q`. -/
def adjacent (p q : Char → Bool) : List Char → Bool
  | a :: b :: rest => p a && q b || adjacent p q (b :: rest)
  | _ => false

/-- Whether the text is empty or begins with a gap. -/
def gapAhead : List Char → Bool
  | [] => true
  | c :: _ => isGap c

/-- The characters that begin something else than a plain scalar. -/
def leadingIndicators : List Char :=
  ['#', ',', '[', ']', '\x7b', '\x7d', '&', '*', '!', '|', '>', '\'', '\"', '%', '@', '\x60']

def startsWithIndicator : List Char → Bool
  | [] => false
  | c :: rest =>
    leadingIndicators.contains c || ((c == '?' || c == ':' || c == '-') && gapAhead rest)

/-- Whether a text has a colon before a gap or a number sign behind one. -/
def hasInnerIndicator : List Char → Bool
  | a :: b :: rest =>
    (b == ':' && gapAhead rest) || (b == '#' && isGap a) || hasInnerIndicator (b :: rest)
  | _ => false

/-- Whether a text begins like a document marker. -/
def startsLikeMarker (cs : List Char) : Bool :=
  ['-', '-', '-'].isPrefixOf cs || ['.', '.', '.'].isPrefixOf cs

/-- Whether some end of a text is a space or a line end. -/
def hasLooseEnd (cs : List Char) : Bool :=
  (cs.head?.toList ++ cs.getLast?.toList).any fun c => c == ' ' || isBreak c

/-- Whether quotes without escapes can hold a text. -/
def singleAllowed (cs : List Char) : Bool :=
  cs.all isPlainChar && !adjacent isBreak (· == ' ') cs && !adjacent (· == ' ') isBreak cs

def plainAllowed (cs : List Char) : Bool :=
  singleAllowed cs && !cs.any isBreak && !hasLooseEnd cs && !startsLikeMarker cs &&
    !startsWithIndicator cs && !hasInnerIndicator cs

def blockAllowed (cs : List Char) : Bool :=
  cs.all isPlainChar && !adjacent (· == ' ') isBreak cs && cs.getLast? != some ' '

/-- A text without one leading plus sign, unless another sign follows. -/
def dropPlus? : List Char → Option (List Char)
  | '+' :: '+' :: _ => none
  | '+' :: '-' :: _ => none
  | '+' :: rest => some rest
  | cs => some cs

/-- The value of a digit below `radix`. -/
def digitBelow? (radix : Nat) (c : Char) : Option Nat :=
  (Json.hexDigit? c).filter (· < radix)

/-- The number that digits of a radix stand for, at least one. -/
def radixValue? (radix : Nat) (digits : List Char) : Option Nat :=
  if digits.isEmpty then none
  else digits.foldlM (fun value c => (digitBelow? radix c).map (value * radix + ·)) 0

/-- The number behind a mark for the radix. -/
def markedValue? : List Char → Option Nat
  | '0' :: 'x' :: digits => radixValue? 16 digits
  | '0' :: 'o' :: digits => radixValue? 8 digits
  | '0' :: 'b' :: digits => radixValue? 2 digits
  | _ => none

/-- Whether a text is an integer with a radix mark, of at most 128 bits. -/
def isMarkedInteger : List Char → Bool
  | '-' :: rest => (markedValue? rest).any (· ≤ Nat.pow 2 127)
  | '+' :: rest => (markedValue? rest).any (· < Nat.pow 2 128)
  | cs => (markedValue? cs).any (· < Nat.pow 2 128)

def dropSign : List Char → List Char
  | '-' :: rest => rest
  | '+' :: rest => rest
  | cs => cs

/-- Whether a text is a zero followed by at least one digit and nothing else, signed or not. -/
def isPaddedInteger (cs : List Char) : Bool :=
  match dropSign cs with
  | '0' :: rest => !rest.isEmpty && rest.all Char.isDigit
  | _ => false

/-- The exponent of a number, zero when there is none. -/
def exponentOf? : List Char → Option Int
  | [] => some 0
  | e :: rest =>
    let digits := dropSign rest
    if (e = 'e' ∨ e = 'E') ∧ ¬ digits.isEmpty ∧ digits.all Char.isDigit then
      let value : Int := Json.digitsValue digits
      some (if rest.head? = some '-' then -value else value)
    else none

/-- Whether a text without a sign is a decimal number in range. -/
def isUnsignedDecimal (cs : List Char) : Bool :=
  let whole := cs.takeWhile Char.isDigit
  let behind := cs.dropWhile Char.isDigit
  let fraction := if behind.head? = some '.' then (behind.drop 1).takeWhile Char.isDigit else []
  let tail :=
    if behind.head? = some '.' then (behind.drop 1).dropWhile Char.isDigit else behind
  let digits := whole ++ fraction
  match exponentOf? tail with
  | some exponent =>
    !digits.isEmpty &&
      (Binary64.ofDecimal? false (Json.digitsValue digits) (exponent - fraction.length)).isSome
  | none => false

/-- Whether a text is a number with or without decimals, infinite, or not a number. -/
def isReal (cs : List Char) : Bool :=
  let text := String.ofList cs
  match dropPlus? cs with
  | none => false
  | some rest =>
    [".inf", ".Inf", ".INF"].contains (String.ofList rest) ||
      ["-.inf", "-.Inf", "-.INF", ".nan", ".NaN", ".NAN"].contains text ||
      (!isPaddedInteger cs && isUnsignedDecimal (dropSign cs))

/-- The texts that stand for nothing or for a truth value. -/
def words : List String :=
  ["", "null", "Null", "NULL", "~", "true", "True", "TRUE", "false", "False", "FALSE"]

/-- Whether a plain scalar with a text would not be read as that text. -/
def isAmbiguous (cs : List Char) : Bool :=
  words.contains (String.ofList cs) || isMarkedInteger cs || isPaddedInteger cs || isReal cs

/-- The styles of scalars. -/
inductive Style where
  | plain
  | single
  | double
  | literal
deriving DecidableEq, Repr

def styleOf (cs : List Char) : Style :=
  if '\n' ∈ cs then if blockAllowed cs then .literal else .double
  else if plainAllowed cs && !isAmbiguous cs then .plain
  else if singleAllowed cs then .single
  else .double

/-- Upper-case hexadecimal digits of a number, `width` of them. -/
def hexDigits : Nat → Nat → List Char
  | 0, _ => []
  | width + 1, n => hexDigits width (n / 16) ++ [(Nat.digitChar (n % 16)).toUpper]

/-- The letter of a short escape. -/
def escapeLetter? (c : Char) : Option Char :=
  match c.toNat with
  | 0x00 => some '0'
  | 0x07 => some 'a'
  | 0x08 => some 'b'
  | 0x09 => some 't'
  | 0x0A => some 'n'
  | 0x0B => some 'v'
  | 0x0C => some 'f'
  | 0x0D => some 'r'
  | 0x1B => some 'e'
  | 0x22 => some '\"'
  | 0x5C => some '\\'
  | 0x85 => some 'N'
  | 0x2028 => some 'L'
  | 0x2029 => some 'P'
  | _ => none

def escapeChar (c : Char) : List Char :=
  if isPlainChar c && !isBreak c && c != '\"' && c != '\\' then [c]
  else match escapeLetter? c with
    | some letter => ['\\', letter]
    | none =>
      if c.toNat ≤ 0xFF then '\\' :: 'x' :: hexDigits 2 c.toNat
      else if c.toNat ≤ 0xFFFF then '\\' :: 'u' :: hexDigits 4 c.toNat
      else '\\' :: 'U' :: hexDigits 8 c.toNat

/-- A text with `margin` in front of each line but the first, and of the first if `fresh`. A line
without characters gets no margin. -/
def withMargin (margin : List Char) (fresh : Bool) : List Char → List Char
  | [] => []
  | c :: rest =>
    if isBreak c then c :: withMargin margin true rest
    else if fresh then margin ++ c :: withMargin margin false rest
    else c :: withMargin margin false rest

def endsWithBreak (cs : List Char) : Bool := cs.getLast?.any isBreak

/-- The marks behind the bar of a literal block: the indentation if the text begins with a space or
a line end, and what becomes of the line ends at its end. -/
def blockMarks (cs : List Char) : List Char :=
  let indentation := if cs.head?.any (fun c => c == ' ' || isBreak c) then ['2'] else []
  let chomping :=
    if !endsWithBreak cs then ['-']
    else if cs.length = 1 ∨ endsWithBreak cs.dropLast then ['+']
    else []
  indentation ++ chomping

/-- A text between single quotes, before the closing one. -/
def singleBody (margin cs : List Char) : List Char :=
  let doubled := cs.flatMap fun c => if c = '\'' then ['\'', '\''] else [c]
  withMargin margin false doubled ++ if endsWithBreak cs then margin else []

/-- A text as a scalar whose further lines begin at column `indent`, up to the start of the next
line. -/
def scalar (indent : Nat) (text : String) : List Char :=
  let cs := text.toList
  let margin := List.replicate indent ' '
  match styleOf cs with
  | .plain => cs ++ ['\n']
  | .single => '\'' :: singleBody margin cs ++ ['\'', '\n']
  | .double => '\"' :: cs.flatMap escapeChar ++ ['\"', '\n']
  | .literal =>
    '|' :: blockMarks cs ++ '\n' :: withMargin margin true cs ++
      if endsWithBreak cs then [] else ['\n']

end Yaml

end DialogueIndex
