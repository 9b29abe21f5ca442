/-! # Calendar dates

Dates of the proleptic Gregorian calendar, in which the year 0 exists, and the days they are
counted by.

* `CivilDate.Valid`: the dates that exist.
* `CivilDate.toDays`: the number of days since the first of January 1970.
* `CivilDate.ofDays`: the date with a given number. -/

namespace RecordFilter

/-- A year, a month and a day of the month. -/
structure CivilDate where
  /-- The year. -/
  year : Int
  /-- The month, from 1 for January. -/
  month : Nat
  /-- The day of the month, from 1. -/
  day : Nat
  deriving DecidableEq, Repr

namespace CivilDate

/-- Whether the year has a leap day. -/
def isLeapYear (year : Int) : Bool :=
  year % 4 == 0 && (year % 100 != 0 || year % 400 == 0)

/-- The number of days of a month. -/
def daysInMonth (year : Int) (month : Nat) : Nat :=
  if month = 2 then if isLeapYear year then 29 else 28
  else if month = 4 ∨ month = 6 ∨ month = 9 ∨ month = 11 then 30
  else 31

/-- A date exists if the year has the month and the month has the day. -/
def Valid (date : CivilDate) : Prop :=
  1 ≤ date.month ∧ date.month ≤ 12 ∧ 1 ≤ date.day ∧ date.day ≤ daysInMonth date.year date.month

instance (date : CivilDate) : Decidable date.Valid :=
  inferInstanceAs (Decidable (_ ∧ _ ∧ _ ∧ _))

/-! ## Counting days

Years are counted from March, so that a leap day is the last day of its year, and in eras of 400
years, which all have 146097 days. The first of March of the year 0 lies 719468 days before the
first of January 1970. -/

/-- The number of days since the first of January 1970, negative before it. -/
def toDays (date : CivilDate) : Int :=
  let year := if date.month ≤ 2 then date.year - 1 else date.year
  let era := year / 400
  let yearOfEra := year % 400
  let dayOfYear : Int := ((153 * ((date.month + 9) % 12) + 2) / 5 + date.day : Nat) - 1
  let dayOfEra := 365 * yearOfEra + yearOfEra / 4 - yearOfEra / 100 + dayOfYear
  146097 * era + dayOfEra - 719468

/-- The date a number of days after the first of January 1970. -/
def ofDays (days : Int) : CivilDate :=
  let shifted := days + 719468
  let era := shifted / 146097
  let dayOfEra := (shifted % 146097).toNat
  let yearOfEra := (dayOfEra - dayOfEra / 1460 + dayOfEra / 36524 - dayOfEra / 146096) / 365
  let dayOfYear := dayOfEra - (365 * yearOfEra + yearOfEra / 4 - yearOfEra / 100)
  let shiftedMonth := (5 * dayOfYear + 2) / 153
  let month := if shiftedMonth < 10 then shiftedMonth + 3 else shiftedMonth - 9
  let year := 400 * era + yearOfEra
  ⟨if month ≤ 2 then year + 1 else year, month, dayOfYear - (153 * shiftedMonth + 2) / 5 + 1⟩

/-- The count starts on the first of January 1970. -/
theorem toDays_epoch : toDays ⟨1970, 1, 1⟩ = 0 := by decide

end CivilDate

end RecordFilter
