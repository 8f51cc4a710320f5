/-! # Finite binary floating-point numbers

The finite numbers of the 64-bit binary format, with arithmetic that rounds the exact result to the
nearest number and a tie to the even one. The magnitudes are numbered in ascending order: magnitude
`code` is `mantissa code * 2 ^ scale code` units, and a unit is `2 ^ (-1074)`.
-/

namespace DialogueIndex

/-- Rounds a quotient to the nearest natural number, a tie to the even one. -/
def roundHalfEven (num den : Nat) : Nat :=
  let below := num / den
  let twice := 2 * (num % den)
  if twice < den ∨ twice = den ∧ below % 2 = 0 then below else below + 1

/-- The number of magnitudes with the same scale. -/
def binadeSize : Nat := Nat.pow 2 52

def magnitudeCount : Nat := 2047 * binadeSize

/-- A finite number of the 64-bit binary format. -/
structure Binary64 where
  negative : Bool
  code : Nat
  code_lt : code < magnitudeCount
deriving DecidableEq

namespace Binary64

/-- The significant bits of a magnitude. -/
def mantissa (code : Nat) : Nat :=
  if code < binadeSize then code else code % binadeSize + binadeSize

/-- The power of two that scales the significant bits. -/
def scale (code : Nat) : Nat := code / binadeSize - 1

/-- A magnitude in units. -/
def units (code : Nat) : Nat := mantissa code * Nat.pow 2 (scale code)

/-- How many units make one. -/
def one : Nat := Nat.pow 2 1074

/-- The magnitude nearest to a quotient. It may be beyond the finite ones. -/
def codeOfRatio (num den : Nat) : Nat :=
  let shift := Nat.log2 (num * one / den) - 52
  shift * binadeSize + roundHalfEven (num * one) (den * Nat.pow 2 shift)

/-- The number nearest to a quotient, unless it is out of range. -/
def ofRatio? (negative : Bool) (num den : Nat) : Option Binary64 :=
  let code := codeOfRatio num den
  if h : code < magnitudeCount then some ⟨negative, code, h⟩ else none

def zero (negative : Bool) : Binary64 := ⟨negative, 0, by decide⟩

def greatest : Binary64 := ⟨false, magnitudeCount - 1, by decide⟩

/-- The number nearest to a natural number below `2 ^ 64`; greater ones saturate. -/
def ofNat (n : Nat) : Binary64 := (ofRatio? false n 1).getD greatest

/-- The number nearest to `coefficient * 10 ^ exponent`, unless it is out of range. Exponents far
outside the range are answered without computing the power. -/
def ofDecimal? (negative : Bool) (coefficient : Nat) (exponent : Int) : Option Binary64 :=
  let size := (Nat.toDigits 10 coefficient).length + exponent
  if coefficient = 0 ∨ size < -330 then some (zero negative)
  else if size > 310 then none
  else if exponent < 0 then ofRatio? negative coefficient (Nat.pow 10 exponent.natAbs)
  else ofRatio? negative (coefficient * Nat.pow 10 exponent.natAbs) 1

/-- The sum of two magnitudes, rounded. -/
def addMagnitude (x y : Binary64) : Binary64 :=
  (ofRatio? false (units x.code + units y.code) one).getD greatest

/-- The quotient of two magnitudes, rounded. -/
def divMagnitude (x y : Binary64) : Binary64 :=
  (ofRatio? false (units x.code) (units y.code)).getD greatest

end Binary64

end DialogueIndex
