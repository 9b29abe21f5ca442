import RecordFilter.Time.CivilDate

/-! # Instants

Points of time in Unix seconds and nanoseconds. The nanoseconds of a leap second are counted on
from the second before it, beyond a thousand million. Any second can be followed by a leap second,
not only the last one of a minute.

* `Instant.ofCivil?`: the instant of a date and a time of day at an offset.
* `Instant.compareTo`: the order of instants; a leap second lies between its neighbours. -/

namespace RecordFilter

/-- The number of nanoseconds in a second. -/
def nanosPerSecond : Nat := 1000000000

/-- A point of time. -/
structure Instant where
  /-- Seconds since the start of 1970, leap seconds not counted. -/
  second : Int
  /-- Nanoseconds since that second. -/
  nano : Nat
  /-- They reach at most to the end of a leap second. -/
  nano_lt : nano < 2 * nanosPerSecond
  deriving DecidableEq

/-- The time of a day, read from its digits. -/
structure TimeOfDay where
  /-- The hour. -/
  hour : Nat
  /-- The minute. -/
  minute : Nat
  /-- The second, 60 for a leap second. -/
  second : Nat
  /-- The nanoseconds since that second. -/
  nano : Nat
  deriving DecidableEq, Repr

namespace TimeOfDay

/-- A time exists if the day has the hour and so on; any minute may end with a leap second. -/
def Valid (time : TimeOfDay) : Prop :=
  time.hour ≤ 23 ∧ time.minute ≤ 59 ∧ time.second ≤ 60 ∧ time.nano < nanosPerSecond

instance (time : TimeOfDay) : Decidable time.Valid :=
  inferInstanceAs (Decidable (_ ∧ _ ∧ _ ∧ _))

/-- The start of a day. -/
def midnight : TimeOfDay := ⟨0, 0, 0, 0⟩

end TimeOfDay

namespace Instant

/-- The instant with the given Unix seconds and nanoseconds. A leap second is taken only at the end
of a minute. -/
def ofUnix? (second : Int) (nano : Nat) : Option Instant :=
  if bounds : nano < 2 * nanosPerSecond ∧ (nanosPerSecond ≤ nano → second % 60 = 59) then
    some ⟨second, nano, bounds.1⟩
  else none

/-- The instant of a date and a time of day, at an offset in minutes from universal time. -/
def ofCivil? (date : CivilDate) (time : TimeOfDay) (offset : Int) : Option Instant :=
  if valid : date.Valid ∧ time.Valid then
    some {
      second := 86400 * date.toDays + 3600 * time.hour + 60 * (time.minute - offset)
        + min time.second 59
      nano := time.nano + if time.second = 60 then nanosPerSecond else 0
      nano_lt := by
        have := valid.2.2.2.2
        unfold nanosPerSecond at *
        split <;> omega }
  else none

/-- The order of instants: by second, then by nanosecond. -/
def compareTo (left right : Instant) : Ordering :=
  (compare left.second right.second).then (compare left.nano right.nano)

/-- Only equal instants compare as equal. -/
theorem compareTo_eq_iff {left right : Instant} : left.compareTo right = .eq ↔ left = right := by
  obtain ⟨leftSecond, leftNano, _⟩ := left
  obtain ⟨rightSecond, rightNano, _⟩ := right
  simp [compareTo, Ordering.then_eq_eq]

end Instant

end RecordFilter
