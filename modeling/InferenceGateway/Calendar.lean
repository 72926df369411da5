/-!
# Dates

A count of seconds since 1970 as a date and a time of day in the proleptic Gregorian calendar.
-/

namespace InferenceGateway.Calendar

/-- A day of the calendar. -/
structure Date where
  year : Int
  month : Nat
  day : Nat
  deriving DecidableEq, Repr

/--
The date of a day, counted from 1970-01-01. Years are taken to start in March, so that the leap
day is the last of its year, and 400 years have 146097 days.
-/
def dateOfDay (day : Int) : Date :=
  let shifted := day + 719468
  let era := Int.fdiv shifted 146097
  let dayOfEra := (Int.fmod shifted 146097).toNat
  let yearOfEra := (dayOfEra - dayOfEra / 1460 + dayOfEra / 36524 - dayOfEra / 146096) / 365
  let dayOfYear := dayOfEra - (365 * yearOfEra + yearOfEra / 4 - yearOfEra / 100)
  let shiftedMonth := (5 * dayOfYear + 2) / 153
  let day := dayOfYear - (153 * shiftedMonth + 2) / 5 + 1
  let month := if shiftedMonth < 10 then shiftedMonth + 3 else shiftedMonth - 9
  { year := era * 400 + yearOfEra + (if month ≤ 2 then 1 else 0), month, day }

/-- A number with at least `width` digits. -/
def padded (width n : Nat) : String :=
  let digits := Nat.toDigits 10 n
  String.ofList (List.replicate (width - digits.length) '0' ++ digits)

/-- A year with at least four digits, and with its sign if it has more or lies before year 0. -/
def yearText (year : Int) : String :=
  if 0 ≤ year ∧ year ≤ 9999 then padded 4 year.toNat
  else (if year < 0 then "-" else "+") ++ padded 4 year.natAbs

/-- A time as a date and a time of day, in UTC. -/
def text (seconds : Int) : String :=
  let date := dateOfDay (Int.fdiv seconds 86400)
  let second := (Int.fmod seconds 86400).toNat
  yearText date.year ++ "-" ++ padded 2 date.month ++ "-" ++ padded 2 date.day ++ "T"
    ++ padded 2 (second / 3600) ++ ":" ++ padded 2 (second / 60 % 60) ++ ":"
    ++ padded 2 (second % 60) ++ "Z"

example : text 0 = "1970-01-01T00:00:00Z" := by decide +kernel

example : text 951827696 = "2000-02-29T12:34:56Z" := by decide +kernel

end InferenceGateway.Calendar
