namespace AnchorPatch.Log

/-- A time in microseconds since the beginning of 1970. -/
abbrev Moment := Nat

namespace Moment

/-- A day of the Gregorian calendar. -/
structure Day where
  year : Nat
  month : Nat
  day : Nat
deriving Repr, DecidableEq

/-- The number of days in four hundred years, after which the calendar repeats itself. -/
def cycleDays : Nat := 146097

/-- The number of days from the first of March of the year zero to the beginning of the year 1970.
-/
def epochDays : Nat := 719468

/-- The day that lies a number of days after the first of March of a year divisible by 400. A year
is taken to begin with March, so that a leap day is its last one. -/
def dayInCycle (cycle n : Nat) : Day :=
  let year := (n - n / 1460 + n / 36524 - n / 146096) / 365
  let dayOfYear := n - (365 * year + year / 4 - year / 100)
  let month := (5 * dayOfYear + 2) / 153
  { year := 400 * cycle + year + (if month < 10 then 0 else 1)
    month := if month < 10 then month + 3 else month - 9
    day := dayOfYear - (153 * month + 2) / 5 + 1 }

/-- The day that lies a number of days after the beginning of the year 1970. -/
def dayOf (n : Nat) : Day :=
  let n := n + epochDays
  dayInCycle (n / cycleDays) (n % cycleDays)

example : dayOf 0 = ⟨1970, 1, 1⟩ := by decide
example : dayOf 11016 = ⟨2000, 2, 29⟩ := by decide
example : dayOf 11017 = ⟨2000, 3, 1⟩ := by decide
example : dayOf 20088 = ⟨2024, 12, 31⟩ := by decide

/-- A number with at least `width` digits. -/
def padded (width n : Nat) : String :=
  let digits := toString n
  "".pushn '0' (width - digits.length) ++ digits

/-- A time written out, in the zone of Greenwich. -/
def text (m : Moment) : String :=
  let seconds := m / 1000000
  let day := dayOf (seconds / 86400)
  let date := padded 4 day.year ++ "-" ++ padded 2 day.month ++ "-" ++ padded 2 day.day
  let time :=
    padded 2 (seconds / 3600 % 24) ++ ":" ++ padded 2 (seconds / 60 % 60) ++ ":" ++ padded 2 (seconds % 60)
  date ++ "T" ++ time ++ "." ++ padded 6 (m % 1000000) ++ "Z"

end Moment

end AnchorPatch.Log
