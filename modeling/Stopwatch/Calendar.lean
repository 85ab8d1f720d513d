import Stopwatch.Span

/-!
# Dates and times

A `Moment` is a point in time in the Gregorian calendar, in universal time and to the nanosecond.
`ofNanoseconds` finds the moment of a number of nanoseconds since the start of 1970. The `stamp` of a
moment names its second, the `timestamp` all of it.
-/

namespace Stopwatch

structure Moment where
  year : Int
  month : Nat
  day : Nat
  hour : Nat
  minute : Nat
  second : Nat
  nanosecond : Nat
deriving DecidableEq, Repr, Inhabited

namespace Moment

/-- A number with at least so many digits. -/
def padded (width n : Nat) : String :=
  let ds := Nat.toDigits 10 n
  String.ofList (List.replicate (width - ds.length) '0' ++ ds)

/-- A year with at least four digits, and a sign if it is not a year from 0 to 9999. -/
def yearText (year : Int) : String :=
  if year < 0 then "-" ++ padded 4 year.natAbs
  else if year ≤ 9999 then padded 4 year.toNat
  else "+" ++ toString year.toNat

/-- The stamp in the names of artifacts, as in `2026-10-19_14-03-07`. -/
def stamp (m : Moment) : String :=
  yearText m.year ++ "-" ++ padded 2 m.month ++ "-" ++ padded 2 m.day ++ "_" ++ padded 2 m.hour ++
    "-" ++ padded 2 m.minute ++ "-" ++ padded 2 m.second

/-- The fraction of a second in as many groups of three digits as it needs. -/
def fractionText (nanosecond : Nat) : String :=
  if nanosecond = 0 then ""
  else if nanosecond % Span.millisecond = 0 then "." ++ padded 3 (nanosecond / Span.millisecond)
  else if nanosecond % Span.microsecond = 0 then "." ++ padded 6 (nanosecond / Span.microsecond)
  else "." ++ padded 9 nanosecond

/-- The moment as a timestamp, as in `2026-10-19T14:03:07+00:00`. -/
def timestamp (m : Moment) : String :=
  yearText m.year ++ "-" ++ padded 2 m.month ++ "-" ++ padded 2 m.day ++ "T" ++ padded 2 m.hour ++
    ":" ++ padded 2 m.minute ++ ":" ++ padded 2 m.second ++ fractionText m.nanosecond ++ "+00:00"

/-- The names of the months. -/
def monthNames : List String :=
  ["January", "February", "March", "April", "May", "June", "July", "August", "September", "October", "November",
    "December"]

def monthName (m : Moment) : String := monthNames.getD (m.month - 1) ""

/-- The date of a number of days since the start of 1970, counted in years that begin in March so that a
leap day comes last. -/
def dateOf (days : Int) : Int × Nat × Nat :=
  let shifted := days + 719468
  let era := shifted / 146097
  let dayOfEra := (shifted % 146097).toNat
  let yearOfEra := (dayOfEra - dayOfEra / 1460 + dayOfEra / 36524 - dayOfEra / 146096) / 365
  let dayOfYear := dayOfEra - (365 * yearOfEra + yearOfEra / 4 - yearOfEra / 100)
  let shiftedMonth := (5 * dayOfYear + 2) / 153
  let day := dayOfYear - (153 * shiftedMonth + 2) / 5 + 1
  let month := if shiftedMonth < 10 then shiftedMonth + 3 else shiftedMonth - 9
  let year := (yearOfEra : Int) + era * 400
  (if month ≤ 2 then year + 1 else year, month, day)

/-- The moment of a number of nanoseconds since the start of 1970. -/
def ofNanoseconds (nanoseconds : Nat) : Moment :=
  let seconds := nanoseconds / Span.second
  let (year, month, day) := dateOf (seconds / 86400 : Nat)
  let rest := seconds % 86400
  ⟨year, month, day, rest / 3600, rest / 60 % 60, rest % 60, nanoseconds % Span.second⟩

end Moment

end Stopwatch
