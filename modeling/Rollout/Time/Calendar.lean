import Rollout.Time.Timestamp

/-!
# Calendar dates

Timestamps written as dates and times of day in UTC, `2100-01-01T00:00:00Z`. A year outside 0 to
9999 has a sign. Milliseconds are written only when there are any.
-/

namespace Rollout.Timestamp

/-- A number with leading zeros up to a width. -/
def padded (width n : Nat) : String :=
  let digits := toString n
  String.ofList (List.replicate (width - digits.length) '0') ++ digits

/-- The year, month and day of a number of days since the start of 1970. Days are counted in
eras of 400 years that start in March, so that the leap day is the last of its year. -/
def date (days : Int) : Int × Nat × Nat :=
  -- Days since the first of March of the year 0, of which an era has 146097.
  let shifted := days + 719468
  let era := shifted.fdiv 146097
  let dayOfEra := (shifted - era * 146097).toNat
  let yearOfEra := (dayOfEra - dayOfEra / 1460 + dayOfEra / 36524 - dayOfEra / 146096) / 365
  let dayOfYear := dayOfEra - (365 * yearOfEra + yearOfEra / 4 - yearOfEra / 100)
  let monthFromMarch := (5 * dayOfYear + 2) / 153
  let day := dayOfYear - (153 * monthFromMarch + 2) / 5 + 1
  let month := if monthFromMarch < 10 then monthFromMarch + 3 else monthFromMarch - 9
  (yearOfEra + era * 400 + (if month ≤ 2 then 1 else 0), month, day)

/-- A year with four digits at least. -/
def yearText (year : Int) : String :=
  if 0 ≤ year ∧ year ≤ 9999 then padded 4 year.toNat
  else (if year < 0 then "-" else "+") ++ padded 4 year.natAbs

/-- The date and time of a timestamp. -/
def text (t : Timestamp) : String :=
  let days := t.millis.fdiv 86400000
  let ofDay := (t.millis - days * 86400000).toNat
  let (year, month, day) := date days
  let fraction := if ofDay % 1000 = 0 then "" else "." ++ padded 3 (ofDay % 1000)
  yearText year ++ "-" ++ padded 2 month ++ "-" ++ padded 2 day ++ "T"
    ++ padded 2 (ofDay / 3600000) ++ ":" ++ padded 2 (ofDay / 60000 % 60) ++ ":"
    ++ padded 2 (ofDay / 1000 % 60) ++ fraction ++ "Z"

end Rollout.Timestamp
