import DialogueIndex.Number.Binary64

/-! # Decimal text of binary numbers

A number is written with the fewest digits that read back as the same number; among those the
digits nearest to it. Where the digits are equally near, the even ones are taken. For people a
number is written with a fixed count of decimals instead.
-/

namespace DialogueIndex

def countText (n : Nat) : String := String.ofList (Nat.toDigits 10 n)

/-- The number `coefficient * 10 ^ exponent`. -/
structure Decimal where
  coefficient : Nat
  exponent : Int
deriving DecidableEq, Repr

namespace Binary64

/-- The power of ten by which decimal candidates are scaled to whole numbers. -/
def decimalScale : Nat := 400

/-- Twice a magnitude in units, scaled by the common power of ten. -/
def scaledTwice (code : Nat) : Nat := 2 * units code * Nat.pow 10 decimalScale

/-- Whether a scaled decimal lies where it rounds to the magnitude: between the midpoints to the
neighbours, which belong to the interval when the mantissa is even. -/
def roundsTo (code candidate : Nat) : Bool :=
  let low := (units (code - 1) + units code) * Nat.pow 10 decimalScale
  let high := (units code + units (code + 1)) * Nat.pow 10 decimalScale
  let value := candidate * (2 * one)
  if code % 2 = 0 then low ≤ value && value ≤ high else low < value && value < high

/-- The candidate among the two multiples of `step` around the magnitude: one that rounds to it,
the nearer one of two. -/
def onGrid? (code step : Nat) : Option Nat :=
  let value := scaledTwice code
  let unit := step * (2 * one)
  let below := value / unit
  let rest := value % unit
  let lowFits := roundsTo code (below * step)
  let highFits := roundsTo code ((below + 1) * step)
  let preferLow := 2 * rest < unit || (2 * rest == unit && below % 2 == 0)
  if lowFits && (preferLow || !highFits) then some below
  else if highFits then some (below + 1)
  else none

/-- The decimal exponent of the leading digit of a magnitude. -/
def leadingExponent (code : Nat) : Int :=
  (Nat.toDigits 10 (scaledTwice code / (2 * one))).length - 1 - decimalScale

/-- The shortest decimal for a magnitude with at least `digits` digits, looking at no more than
`fuel` counts of digits. -/
def shortestFrom (code : Nat) : Nat → Nat → Decimal
  | 0, _ => ⟨0, 0⟩
  | fuel + 1, digits =>
    let exponent := leadingExponent code + 1 - digits
    match onGrid? code (Nat.pow 10 (exponent + decimalScale).toNat) with
    | some coefficient => ⟨coefficient, exponent⟩
    | none => shortestFrom code fuel (digits + 1)

/-- The shortest decimal that rounds to a magnitude. Seventeen digits are always enough. -/
def shortest (code : Nat) : Decimal := shortestFrom code 17 1

end Binary64

/-- A decimal without trailing zeros in its coefficient, looking at no more than `fuel` of them. -/
def Decimal.strip : Nat → Decimal → Decimal
  | 0, d => d
  | fuel + 1, d =>
    if d.coefficient ≠ 0 ∧ d.coefficient % 10 = 0 then
      Decimal.strip fuel ⟨d.coefficient / 10, d.exponent + 1⟩
    else d

/-- How a format writes numbers: which exponents of the leading digit are written out in places,
and whether a positive exponent has a sign. -/
structure NumberLayout where
  leastPlain : Int
  greatestPlain : Int
  signPositive : Bool

/-- Writes a decimal. A number in places has at least one decimal. -/
def NumberLayout.write (layout : NumberLayout) (d : Decimal) : List Char :=
  let digits := Nat.toDigits 10 d.coefficient
  let lead := d.exponent + digits.length - 1
  if layout.leastPlain ≤ lead ∧ lead ≤ layout.greatestPlain then
    if 0 ≤ d.exponent then digits ++ List.replicate d.exponent.toNat '0' ++ ['.', '0']
    else if 0 ≤ lead then
      let whole := (lead + 1).toNat
      digits.take whole ++ '.' :: digits.drop whole
    else ['0', '.'] ++ List.replicate (-lead - 1).toNat '0' ++ digits
  else
    let fraction := if digits.length ≤ 1 then [] else '.' :: digits.drop 1
    let sign := if lead < 0 then ['-'] else if layout.signPositive then ['+'] else []
    digits.take 1 ++ fraction ++ 'e' :: sign ++ Nat.toDigits 10 lead.natAbs

namespace Binary64

/-- The shortest text of a number. -/
def toText (layout : NumberLayout) (x : Binary64) : List Char :=
  let sign := if x.negative then ['-'] else []
  if x.code = 0 then sign ++ ['0', '.', '0']
  else sign ++ layout.write ((shortest x.code).strip 17)

/-- The text of a number with two decimals, the exact value rounded half to even. -/
def toCents (x : Binary64) : List Char :=
  let cents := roundHalfEven (units x.code * 100) one
  let sign := if x.negative then ['-'] else []
  sign ++ Nat.toDigits 10 (cents / 100) ++
    ['.', Nat.digitChar (cents % 100 / 10), Nat.digitChar (cents % 10)]

end Binary64

end DialogueIndex
