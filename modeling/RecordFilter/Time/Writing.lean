import RecordFilter.Number.Digits
import RecordFilter.Time.Instant

/-! # Instants as text: writing

The standard text of an instant in universal time: `YYYY-MM-DDTHH:MM:SSZ`, with a fraction if there
is one. -/

namespace RecordFilter

/-- The date of an instant. -/
def Instant.date (instant : Instant) : CivilDate := .ofDays (instant.second / 86400)

/-- The time of day of an instant. -/
def Instant.time (instant : Instant) : TimeOfDay :=
  let secondOfDay := (instant.second % 86400).toNat
  let leaping := nanosPerSecond ≤ instant.nano
  { hour := secondOfDay / 3600
    minute := secondOfDay / 60 % 60
    second := secondOfDay % 60 + if leaping then 1 else 0
    nano := instant.nano - if leaping then nanosPerSecond else 0 }

/-- A year: four digits within 0 to 9999, otherwise a sign and at least four digits. -/
def writeYear (year : Int) : List Char :=
  if year < 0 then '-' :: paddedDigits 4 year.natAbs
  else if year ≤ 9999 then paddedDigits 4 year.natAbs
  else '+' :: paddedDigits 4 year.natAbs

/-- A fraction of a second: nothing, or as few of three, six and nine digits as are exact. -/
def writeNanos (nano : Nat) : List Char :=
  if nano = 0 then []
  else if nano % 1000000 = 0 then '.' :: paddedDigits 3 (nano / 1000000)
  else if nano % 1000 = 0 then '.' :: paddedDigits 6 (nano / 1000)
  else '.' :: paddedDigits 9 nano

/-- The text of a date. -/
def CivilDate.chars (date : CivilDate) : List Char :=
  writeYear date.year ++ '-' :: paddedDigits 2 date.month ++ '-' :: paddedDigits 2 date.day

/-- The text of a time of day. -/
def TimeOfDay.chars (time : TimeOfDay) : List Char :=
  paddedDigits 2 time.hour ++ ':' :: paddedDigits 2 time.minute ++ ':' :: paddedDigits 2 time.second
    ++ writeNanos time.nano

/-- The text of an instant. -/
def Instant.text (instant : Instant) : String :=
  String.ofList (instant.date.chars ++ 'T' :: instant.time.chars ++ ['Z'])

end RecordFilter
