import RecordFilter.Proofs.Number.Digits
import RecordFilter.Proofs.Time.Calendar
import RecordFilter.Time.Reading
import RecordFilter.Time.Writing

/-! # Writing instants and reading them back

The standard text of an instant is read back as that instant, with its nanoseconds and as a leap
second if it is one. The year must have four digits: another year is written with a sign. A leap
second must end a minute: the number 60 is written for no other one, and a leap second inside a
minute is written like the second after it.

* `takeNanos?_writeNanos`, `Strict.takeTime?_chars`, `Strict.takeDate?_chars`: the parts are taken
  off a text again.
* `Instant.LeapEndsMinute`: the condition on leap seconds.
* `Instant.shown`: the instant that a text shows of an instant. It is the instant itself exactly
  under this condition (`Instant.shown_eq_self_iff`).
* `Instant.ofCivil?_date_time`: the instant of the date and time of day of an instant.
* `Instant.ofText?_text`: the whole text.
* `Instant.digitsAnd_text`: the characters of the text. -/

namespace RecordFilter

variable {rest : List Char} {next : Char}

/-! ## Parts of a text -/

/-- A character that stands first is taken off. -/
@[simp] theorem takeChar?_cons (char : Char) (rest : List Char) :
    takeChar? char (char :: rest) = some rest := if_pos rfl

/-- A fraction of at most nine digits is read in nanoseconds. -/
theorem takeNanos?_paddedDigits {width value : Nat} (positive : 0 < width) (few : width ≤ 9)
    (small : value < 10 ^ width) (ends : next.isDigit = false) :
    takeNanos? ('.' :: (paddedDigits width value ++ next :: rest))
      = some (value * tenPow (9 - width), next :: rest) := by
  have length := length_paddedDigits_of_lt positive small
  have all : ∀ char ∈ paddedDigits width value, char.isDigit = true :=
    fun _ => isDigit_of_mem_paddedDigits
  have stops : (next :: rest).takeWhile Char.isDigit = [] := by
    rw [List.takeWhile_cons_of_neg (by simp [ends])]
  have run := takeWhile_isDigit_append all stops
  have left := dropWhile_isDigit_append all stops
  have present : paddedDigits width value ≠ [] := by
    rw [← List.length_pos_iff, length]
    exact positive
  have whole : (paddedDigits width value).take 9 = paddedDigits width value :=
    List.take_of_length_le (by omega)
  simp only [takeNanos?, run, left, present, if_false, whole, length, digitsValue_paddedDigits]

/-- A fraction of a second is read back. -/
theorem takeNanos?_writeNanos {nano : Nat} (small : nano < nanosPerSecond) (point : next ≠ '.')
    (ends : next.isDigit = false) :
    takeNanos? (writeNanos nano ++ next :: rest) = some (nano, next :: rest) := by
  unfold nanosPerSecond at small
  unfold writeNanos
  split
  · next zero =>
      rw [List.nil_append, zero]
      unfold takeNanos?
      split
      · next run same => exact absurd (List.cons.inj same).1 point
      · rfl
  · split
    · next millis =>
        rw [List.cons_append,
          takeNanos?_paddedDigits (by decide) (by decide) (by omega) ends]
        have exact : nano / 1000000 * tenPow 6 = nano := by
          change nano / 1000000 * 1000000 = nano
          omega
        rw [exact]
    · split
      · next micros =>
          rw [List.cons_append,
            takeNanos?_paddedDigits (by decide) (by decide) (by omega) ends]
          have exact : nano / 1000 * tenPow 3 = nano := by
            change nano / 1000 * 1000 = nano
            omega
          rw [exact]
      · rw [List.cons_append,
          takeNanos?_paddedDigits (by decide) (by decide) (by omega) ends, Nat.sub_self,
          tenPow_zero, Nat.mul_one]

namespace Strict

/-- A time of day is taken off the text again. -/
theorem takeTime?_chars {time : TimeOfDay} (valid : time.Valid) (point : next ≠ '.')
    (ends : next.isDigit = false) :
    takeTime? (time.chars ++ next :: rest) = some (time, next :: rest) := by
  obtain ⟨hour, minute, second, nano⟩ := valid
  have hours : time.hour < 10 ^ 2 := by omega
  have minutes : time.minute < 10 ^ 2 := by omega
  have seconds : time.second < 10 ^ 2 := by omega
  simp only [takeTime?, TimeOfDay.chars, List.append_assoc, List.cons_append,
    takeDigits?_paddedDigits Nat.two_pos hours, takeDigits?_paddedDigits Nat.two_pos minutes,
    takeDigits?_paddedDigits Nat.two_pos seconds, takeChar?_cons,
    takeNanos?_writeNanos nano point ends, Option.bind_eq_bind, Option.bind_some, pure]

/-- A date is taken off the text again. -/
theorem takeDate?_chars {date : CivilDate} (valid : date.Valid) (first : 0 ≤ date.year)
    (last : date.year ≤ 9999) (rest : List Char) :
    takeDate? (date.chars ++ rest) = some (date, rest) := by
  obtain ⟨-, december, -, endOfMonth⟩ := valid
  have longest := CivilDate.daysInMonth_le date.year date.month
  have years : date.year.natAbs < 10 ^ 4 := by omega
  have months : date.month < 10 ^ 2 := by omega
  have days : date.day < 10 ^ 2 := by omega
  have nonnegative : ¬ date.year < 0 := by omega
  have year : (date.year.natAbs : Int) = date.year := Int.natAbs_of_nonneg first
  simp only [takeDate?, CivilDate.chars, writeYear, nonnegative, last, if_true, if_false,
    List.append_assoc, List.cons_append, takeDigits?_paddedDigits (by decide : 0 < 4) years,
    takeDigits?_paddedDigits Nat.two_pos months, takeDigits?_paddedDigits Nat.two_pos days,
    takeChar?_cons, Option.bind_eq_bind, Option.bind_some, pure, year]

end Strict

/-! ## Characters -/

/-- The characters of an instant besides digits. -/
def instantMarks : List Char := ['-', '+', ':', '.', 'T', 'Z']

theorem digitsAnd_writeYear (year : Int) : DigitsAnd instantMarks (writeYear year) := by
  unfold writeYear
  split
  · exact (DigitsAnd.paddedDigits _ _).cons (by decide)
  · split
    · exact .paddedDigits _ _
    · exact (DigitsAnd.paddedDigits _ _).cons (by decide)

theorem digitsAnd_writeNanos (nano : Nat) : DigitsAnd instantMarks (writeNanos nano) := by
  unfold writeNanos
  split
  · exact .nil
  · split
    · exact (DigitsAnd.paddedDigits _ _).cons (by decide)
    · split <;> exact (DigitsAnd.paddedDigits _ _).cons (by decide)

/-- The text of a date has digits and the marks of instants. -/
theorem CivilDate.digitsAnd_chars (date : CivilDate) : DigitsAnd instantMarks date.chars :=
  ((digitsAnd_writeYear date.year).append ((DigitsAnd.paddedDigits _ _).cons (by decide))).append
    ((DigitsAnd.paddedDigits _ _).cons (by decide))

/-- The text of a time of day has digits and the marks of instants. -/
theorem TimeOfDay.digitsAnd_chars (time : TimeOfDay) : DigitsAnd instantMarks time.chars :=
  (((DigitsAnd.paddedDigits _ _).append ((DigitsAnd.paddedDigits _ _).cons (by decide))).append
    ((DigitsAnd.paddedDigits _ _).cons (by decide))).append (digitsAnd_writeNanos time.nano)

namespace Instant

/-! ## Dates and times of instants -/

/-- The date of an instant exists. -/
theorem valid_date (instant : Instant) : instant.date.Valid := CivilDate.valid_ofDays _

/-- The time of day of an instant exists. -/
theorem valid_time (instant : Instant) : instant.time.Valid := by
  obtain ⟨second, nano, bound⟩ := instant
  simp only [TimeOfDay.Valid, time]
  unfold nanosPerSecond at *
  split <;> omega

/-! ## Leap seconds -/

/-- The condition on an instant in a leap second: the leap second is the last one of its minute. No
other leap second is written as `:60` (`leapEndsMinute_iff`). -/
def LeapEndsMinute (instant : Instant) : Prop :=
  nanosPerSecond ≤ instant.nano → instant.second % 60 = 59

instance (instant : Instant) : Decidable instant.LeapEndsMinute :=
  inferInstanceAs (Decidable (_ → _))

/-- These are the leap seconds for which the number 60 is written. -/
theorem leapEndsMinute_iff {instant : Instant} :
    instant.LeapEndsMinute ↔ (nanosPerSecond ≤ instant.nano → instant.time.second = 60) := by
  refine imp_congr_right fun leaping => ?_
  simp only [time, leaping, if_true]
  omega

/-- The instant that a text shows of an instant. A leap second inside a minute has no number of its
own, so it is written like the second after it. -/
def shown (instant : Instant) : Instant :=
  if instant.LeapEndsMinute then instant
  else
    { second := instant.second + 1
      nano := instant.nano - nanosPerSecond
      nano_lt := Nat.lt_of_le_of_lt (Nat.sub_le _ _) instant.nano_lt }

/-- The whole instant is shown exactly if a leap second ends its minute. -/
theorem shown_eq_self_iff {instant : Instant} :
    instant.shown = instant ↔ instant.LeapEndsMinute := by
  constructor
  · intro same
    by_contra inside
    rw [shown, if_neg inside] at same
    have later : instant.second + 1 = instant.second := congrArg second same
    omega
  · intro ends
    rw [shown, if_pos ends]

/-- In what is shown a leap second ends its minute. -/
theorem leapEndsMinute_shown (instant : Instant) : instant.shown.LeapEndsMinute := by
  rw [shown]
  split
  · assumption
  · intro leaping
    have bound := instant.nano_lt
    change nanosPerSecond ≤ instant.nano - nanosPerSecond at leaping
    omega

/-- The second after a leap second inside a minute is on the same date. -/
@[simp] theorem date_shown (instant : Instant) : instant.shown.date = instant.date := by
  rw [shown]
  split
  · rfl
  · next inside =>
      have day : (instant.second + 1) / 86400 = instant.second / 86400 := by
        simp only [LeapEndsMinute, Classical.not_imp] at inside
        omega
      change CivilDate.ofDays ((instant.second + 1) / 86400) = _
      rw [day, ← date]

/-- The second after a leap second inside a minute is written in the same way. -/
@[simp] theorem time_shown (instant : Instant) : instant.shown.time = instant.time := by
  rw [shown]
  split
  · rfl
  · next inside =>
      obtain ⟨second, nano, bound⟩ := instant
      simp only [LeapEndsMinute, Classical.not_imp] at inside
      obtain ⟨leaping, within⟩ := inside
      have regular : ¬ nanosPerSecond ≤ nano - nanosPerSecond := by omega
      simp only [time, leaping, regular, if_true, if_false, TimeOfDay.mk.injEq]
      omega

/-- An instant whose leap second ends a minute is that of its date and time of day. -/
theorem ofCivil?_of_leapEndsMinute {instant : Instant} (ends : instant.LeapEndsMinute) :
    ofCivil? instant.date instant.time 0 = some instant := by
  rw [ofCivil?, dif_pos ⟨instant.valid_date, instant.valid_time⟩, Option.some.injEq]
  obtain ⟨second, nano, bound⟩ := instant
  have days : (date ⟨second, nano, bound⟩).toDays = second / 86400 := CivilDate.toDays_ofDays _
  simp only [mk.injEq, days, time]
  by_cases leaping : nanosPerSecond ≤ nano
  · -- a leap second is counted on from the 59th second
    have sixtieth : (second % 86400).toNat % 60 + 1 = 60 := by
      have last : second % 60 = 59 := ends leaping
      omega
    simp only [leaping, if_true, sixtieth]
    constructor <;> omega
  · have regular : (second % 86400).toNat % 60 + 0 ≠ 60 := by omega
    simp only [leaping, if_false, regular]
    constructor <;> omega

/-- The date and the time of day of an instant make what is shown of it. -/
theorem ofCivil?_date_time (instant : Instant) :
    ofCivil? instant.date instant.time 0 = some instant.shown := by
  rw [← date_shown, ← time_shown]
  exact ofCivil?_of_leapEndsMinute instant.leapEndsMinute_shown

/-- Dates and times of day make leap seconds at the end of a minute only. -/
theorem leapEndsMinute_of_ofCivil? {date : CivilDate} {time : TimeOfDay} {offset : Int}
    {instant : Instant} (made : ofCivil? date time offset = some instant) :
    instant.LeapEndsMinute := by
  rw [ofCivil?, Option.dite_none_right_eq_some] at made
  obtain ⟨valid, same⟩ := made
  have nanos : time.nano < nanosPerSecond := valid.2.2.2.2
  obtain rfl := Option.some_inj.1 same
  intro leaping
  have sixtieth : time.second = 60 := by
    by_contra regular
    simp only [regular, if_false] at leaping
    omega
  simp only [sixtieth]
  omega

/-! ## Texts of instants -/

/-- The text of an instant has digits and the marks of instants. -/
theorem digitsAnd_text (instant : Instant) : DigitsAnd instantMarks instant.text.toList := by
  rw [text, String.toList_ofList]
  have ending : DigitsAnd instantMarks ['Z'] := DigitsAnd.nil.cons (by decide)
  exact (instant.date.digitsAnd_chars.append (instant.time.digitsAnd_chars.cons (by decide))).append
    ending

/-- The text of an instant is not empty. -/
theorem text_ne_empty (instant : Instant) : instant.text ≠ "" := by
  intro empty
  have chars : instant.text.toList = [] := by rw [empty]; rfl
  rw [text, String.toList_ofList] at chars
  exact List.append_ne_nil_of_right_ne_nil _ (List.cons_ne_nil _ _) chars

/-- Nothing but what is shown can be told from the text. -/
@[simp] theorem text_shown (instant : Instant) : instant.shown.text = instant.text := by
  rw [text, date_shown, time_shown, ← text]

/-- **The text of an instant is read back**, as what it shows of the instant. -/
theorem ofText?_text (instant : Instant) (first : 0 ≤ instant.date.year)
    (last : instant.date.year ≤ 9999) : ofText? instant.text = some instant.shown := by
  have chars : ofOffsetText? instant.text.toList = some instant.shown := by
    simp only [ofOffsetText?, text, String.toList_ofList, List.append_assoc, List.cons_append,
      Strict.takeDate?_chars instant.valid_date first last, Option.bind_eq_bind, Option.bind_some,
      Strict.isBetween, decide_true, Bool.true_or, if_true,
      Strict.takeTime?_chars instant.valid_time (by decide : 'Z' ≠ '.') rfl, Strict.offset?,
      ofCivil?_date_time]
  rw [ofText?, readings, List.findSome?_cons, chars]

end Instant

end RecordFilter
