import ContractLint.Text.Integer

/-!
# Dates

The date and the time of day of a moment, which is given by the microseconds since the start of the
year 1970, as a text that sorts by time.
-/

namespace ContractLint.Calendar

/-- A number with zeros in front, up to a number of digits. -/
def padded (width n : Nat) : Text :=
  let digits := Text.ofInt n
  List.replicate (width - digits.length) '0' ++ digits

/-- The year, month and day of a day, counted from the first of January 1970.  Years are taken to
start in March, so that a leap day ends its year. -/
def dateOf (day : Nat) : Nat × Nat × Nat :=
  let day := day + 719468
  let era := day / 146097
  let dayOfEra := day % 146097
  let yearOfEra := (dayOfEra - dayOfEra / 1460 + dayOfEra / 36524 - dayOfEra / 146096) / 365
  let dayOfYear := dayOfEra - (365 * yearOfEra + yearOfEra / 4 - yearOfEra / 100)
  let month := (5 * dayOfYear + 2) / 153
  let dayOfMonth := dayOfYear - (153 * month + 2) / 5 + 1
  let year := yearOfEra + era * 400
  if month < 10 then (year, month + 3, dayOfMonth) else (year + 1, month - 9, dayOfMonth)

/-- A moment as a date, a time of day and the offset of the time zone, which is zero. -/
def write (microseconds : Nat) : String :=
  let seconds := microseconds / 1000000
  let (year, month, day) := dateOf (seconds / 86400)
  let clock := seconds % 86400
  String.ofList (padded 4 year ++ '-' :: padded 2 month ++ '-' :: padded 2 day
    ++ 'T' :: padded 2 (clock / 3600) ++ ':' :: padded 2 (clock / 60 % 60)
    ++ ':' :: padded 2 (clock % 60) ++ '.' :: padded 6 (microseconds % 1000000)
    ++ "+00:00".toList)

end ContractLint.Calendar
