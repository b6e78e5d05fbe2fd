import Outline.Text.Digits

namespace Outline.Clock

def padded (width n : Nat) : String :=
  let digits := Text.natText n
  String.ofList (List.replicate (width - digits.length) '0' ++ digits)

/-- Year, month and day of the day with a number counted from the first of January 1970. Years are
counted from March, so that the day of a leap year comes last. -/
def civilDate (day : Nat) : Nat × Nat × Nat :=
  let shifted := day + 719468
  let era := shifted / 146097
  let dayOfEra := shifted % 146097
  let yearOfEra :=
    (dayOfEra - dayOfEra / 1460 + dayOfEra / 36524 - dayOfEra / 146096) / 365
  let dayOfYear := dayOfEra - (365 * yearOfEra + yearOfEra / 4 - yearOfEra / 100)
  let marchMonth := (5 * dayOfYear + 2) / 153
  let month := if marchMonth < 10 then marchMonth + 3 else marchMonth - 9
  let year := yearOfEra + 400 * era + (if month ≤ 2 then 1 else 0)
  (year, month, dayOfYear - (153 * marchMonth + 2) / 5 + 1)

def fractionText (nanoseconds : Nat) : String :=
  if nanoseconds = 0 then ""
  else if nanoseconds % 1000000 = 0 then "." ++ padded 3 (nanoseconds / 1000000)
  else if nanoseconds % 1000 = 0 then "." ++ padded 6 (nanoseconds / 1000)
  else "." ++ padded 9 nanoseconds

def utcText (seconds nanoseconds : Nat) : String :=
  let (year, month, day) := civilDate (seconds / 86400)
  let time := seconds % 86400
  padded 4 year ++ "-" ++ padded 2 month ++ "-" ++ padded 2 day ++ "T" ++
    padded 2 (time / 3600) ++ ":" ++ padded 2 (time / 60 % 60) ++ ":" ++ padded 2 (time % 60) ++
    fractionText nanoseconds ++ "+00:00"

end Outline.Clock
