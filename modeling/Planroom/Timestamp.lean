import Planroom.Text.Decimal

/-!
# Points in time

A point in time is a number of nanoseconds since the beginning of 1970. Its text is the date and time
of day in UTC with as many groups of three fractional digits as it needs.
-/

namespace Planroom

/-- **A point in time**, in nanoseconds since the beginning of 1970. There is none before: the clock
of the program is later than that. -/
structure Timestamp where
  nanoseconds : Nat
  deriving DecidableEq, Repr, Inhabited

namespace Timestamp

/-- A day of the proleptic Gregorian calendar. -/
structure Date where
  year : Nat
  month : Nat
  day : Nat
  deriving DecidableEq, Repr

/-- The date of a day counted from the first of January 1970. Years are taken to begin in March, so
that a leap day is the last day of its year; `era` counts spans of 400 such years. -/
def dateOfDay (days : Nat) : Date :=
  let shifted := days + 719468
  let era := shifted / 146097
  let dayOfEra := shifted % 146097
  let yearOfEra :=
    (dayOfEra - dayOfEra / 1460 + dayOfEra / 36524 - dayOfEra / 146096) / 365
  let dayOfYear := dayOfEra - (365 * yearOfEra + yearOfEra / 4 - yearOfEra / 100)
  let shiftedMonth := (5 * dayOfYear + 2) / 153
  let month := if shiftedMonth < 10 then shiftedMonth + 3 else shiftedMonth - 9
  { year := yearOfEra + era * 400 + (if month ≤ 2 then 1 else 0)
    month := month
    day := dayOfYear - (153 * shiftedMonth + 2) / 5 + 1 }

/-- The fraction of a second: none, milliseconds, microseconds or nanoseconds, whichever is the
first to tell it exactly. -/
def fraction (nanoseconds : Nat) : String :=
  if nanoseconds = 0 then ""
  else if nanoseconds % 1000000 = 0 then "." ++ Text.padded 3 (nanoseconds / 1000000)
  else if nanoseconds % 1000 = 0 then "." ++ Text.padded 6 (nanoseconds / 1000)
  else "." ++ Text.padded 9 nanoseconds

/-- **The text of a point in time**, in UTC, with no more groups of digits in its fraction than are
needed to tell it exactly. -/
def text (t : Timestamp) : String :=
  let seconds := t.nanoseconds / 1000000000
  let date := dateOfDay (seconds / 86400)
  let time := seconds % 86400
  Text.padded 4 date.year ++ "-" ++ Text.padded 2 date.month ++ "-" ++ Text.padded 2 date.day ++
    "T" ++ Text.padded 2 (time / 3600) ++ ":" ++ Text.padded 2 (time / 60 % 60) ++ ":" ++
    Text.padded 2 (time % 60) ++ fraction (t.nanoseconds % 1000000000) ++ "Z"

end Timestamp

end Planroom
