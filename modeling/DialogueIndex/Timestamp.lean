/-! # Timestamps

A moment is a number of nanoseconds since the start of the year 1970, and is written as a date and a
time of day in UTC.
-/

namespace DialogueIndex

/-- A day of the calendar. -/
structure Day where
  year : Nat
  month : Nat
  day : Nat
deriving DecidableEq, Repr

/-- The day that comes the given number of days after the first day of 1970. Years are counted from
the first of March, so that the day of a leap year is the last of them. -/
def Day.ofNumber (number : Nat) : Day :=
  let shifted := number + 719468
  let century := shifted / 146097
  let inCentury := shifted % 146097
  let year := (inCentury - inCentury / 1460 + inCentury / 36524 - inCentury / 146096) / 365
  let inYear := inCentury - (365 * year + year / 4 - year / 100)
  let month := (5 * inYear + 2) / 153
  let day := inYear - (153 * month + 2) / 5 + 1
  let late := 10 ≤ month
  ⟨year + 400 * century + (if late then 1 else 0), if late then month - 9 else month + 3, day⟩

/-- A number with zeros in front. -/
def paddedText (width number : Nat) : String :=
  let digits := toString number
  String.ofList (List.replicate (width - digits.length) '0') ++ digits

def timestampText (nanos : Nat) : String :=
  let seconds := nanos / Nat.pow 10 9
  let day := Day.ofNumber (seconds / 86400)
  let clock := seconds % 86400
  paddedText 4 day.year ++ "-" ++ paddedText 2 day.month ++ "-" ++ paddedText 2 day.day ++ "T" ++
    paddedText 2 (clock / 3600) ++ ":" ++ paddedText 2 (clock / 60 % 60) ++ ":" ++
    paddedText 2 (clock % 60) ++ "." ++ paddedText 9 (nanos % Nat.pow 10 9) ++ "+00:00"

end DialogueIndex
