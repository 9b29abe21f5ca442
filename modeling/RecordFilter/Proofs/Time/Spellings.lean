import RecordFilter.Proofs.Time.Readings

/-! # The spellings of an instant

A date and a time of day can be written with or without an offset, with different characters between
them and with any number of digits after the second. All of these texts stand for the same instant,
and an offset moves it by that many minutes.

* `Instant.addMinutes`: an instant that is moved.
* `Instant.date_time_of_ofCivil?`: the date and the time of day of the instant that they make.
* `Clock`: a time of day as it is written.
* `Instant.spellings_agree`: the spellings. -/

namespace RecordFilter

variable {date : CivilDate}

/-! ## Instants of dates and times -/

namespace Instant

variable {time : TimeOfDay} {offset : Int} {instant : Instant}

/-- The instant of a date and a time, which have to exist. -/
theorem ofCivil?_eq_some_iff :
    ofCivil? date time offset = some instant ↔ date.Valid ∧ time.Valid
      ∧ instant.second
        = 86400 * date.toDays + 3600 * time.hour + 60 * (time.minute - offset) + min time.second 59
      ∧ instant.nano = time.nano + if time.second = 60 then nanosPerSecond else 0 := by
  obtain ⟨second, nano, bound⟩ := instant
  simp only [ofCivil?, Option.dite_none_right_eq_some, Option.some.injEq, mk.injEq, exists_prop,
    and_assoc, @eq_comm _ second, @eq_comm _ nano]

/-- A date and a time that exist make an instant. -/
theorem exists_ofCivil?_eq_some (isDate : date.Valid) (isTime : time.Valid) :
    ∃ instant, ofCivil? date time offset = some instant :=
  ⟨_, dif_pos ⟨isDate, isTime⟩⟩

/-- The instant a number of minutes later. A leap second stays one. -/
def addMinutes (instant : Instant) (minutes : Int) : Instant where
  second := instant.second + 60 * minutes
  nano := instant.nano
  nano_lt := instant.nano_lt

/-- An offset is taken off the instant. -/
theorem ofCivil?_offset (real : ofCivil? date time 0 = some instant) (offset : Int) :
    ofCivil? date time offset = some (instant.addMinutes (-offset)) := by
  obtain ⟨isDate, isTime, second, nano⟩ := ofCivil?_eq_some_iff.1 real
  refine ofCivil?_eq_some_iff.2 ⟨isDate, isTime, ?_, nano⟩
  change instant.second + 60 * -offset = _
  omega

/-- The instant that a date and a time make has this date and this time, and they tell all of it. -/
theorem date_time_of_ofCivil? (real : ofCivil? date time 0 = some instant) :
    instant.date = date ∧ instant.time = time ∧ instant.LeapEndsMinute := by
  obtain ⟨isDate, ⟨hours, minutes, seconds, nanos⟩, second, nano⟩ := ofCivil?_eq_some_iff.1 real
  have ofDay : (instant.second % 86400).toNat
      = 3600 * time.hour + 60 * time.minute + min time.second 59 := by omega
  refine ⟨?_, ?_, leapEndsMinute_of_ofCivil? real⟩
  · have days : instant.second / 86400 = date.toDays := by omega
    rw [Instant.date, days, CivilDate.ofDays_toDays isDate]
  · obtain ⟨hour, minute, sixtieth, fraction⟩ := time
    simp only at hours minutes seconds nanos nano ofDay
    simp only [Instant.time, ofDay, nano, TimeOfDay.mk.injEq]
    -- a leap second is counted on from the 59th
    by_cases leaping : sixtieth = 60
    · simp only [leaping, if_true, Nat.le_add_left]
      omega
    · have regular : ¬ nanosPerSecond ≤ fraction + 0 := by omega
      simp only [leaping, regular, if_false]
      omega

end Instant

/-! ## Dates and times as they are written -/

/-- A number below a hundred is written with two digits. -/
theorem digitRun_two {value : Nat} (small : value < 100) :
    DigitRun 2 2 (paddedDigits 2 value) value :=
  digitRun_paddedDigits Nat.two_pos small

/-- A date with a year of four digits is written as a strict date. -/
theorem CivilDate.strictDate_chars (valid : date.Valid) (first : 0 ≤ date.year)
    (last : date.year ≤ 9999) : StrictDate date.chars date := by
  obtain ⟨year, month, day⟩ := date
  obtain ⟨-, december, -, endOfMonth⟩ := valid
  have longest := daysInMonth_le year month
  simp only at first last december endOfMonth
  obtain ⟨year, rfl⟩ := Int.eq_ofNat_of_zero_le first
  have text : chars ⟨year, month, day⟩
      = paddedDigits 4 year ++ '-' :: (paddedDigits 2 month ++ '-' :: paddedDigits 2 day) := by
    simp only [chars, writeYear, Int.not_lt.2 first, last, if_false, if_true, Int.natAbs_natCast,
      List.append_assoc, List.cons_append]
  rw [text]
  exact .mk (.mk (digitRun_paddedDigits (by decide) (by omega))) (digitRun_two (by omega))
    (digitRun_two (by omega))

/-- A time of day as it is written, with any number of digits after the second. -/
structure Clock where
  /-- The hour. -/
  hour : Nat
  /-- The minute. -/
  minute : Nat
  /-- The second, 60 for a leap second. -/
  second : Nat
  /-- The digits of the fraction, if there is one. -/
  fraction : List Char
  /-- The day has the hour. -/
  hour_le : hour ≤ 23
  /-- The hour has the minute. -/
  minute_le : minute ≤ 59
  /-- The minute has the second, or it is a leap second. -/
  second_le : second ≤ 60
  /-- The fraction has digits only. -/
  isDigit : ∀ char ∈ fraction, char.isDigit = true

namespace Clock

variable (clock : Clock)

/-- The text of the fraction, with the point. -/
def fractionChars : List Char := if clock.fraction = [] then [] else '.' :: clock.fraction

/-- The text. -/
def chars : List Char :=
  paddedDigits 2 clock.hour ++ ':' :: (paddedDigits 2 clock.minute
    ++ ':' :: (paddedDigits 2 clock.second ++ clock.fractionChars))

/-- The time of day. -/
def time : TimeOfDay := ⟨clock.hour, clock.minute, clock.second, fractionNanos clock.fraction⟩

/-- The text is one of a strict time. -/
theorem strictTime : StrictTime clock.chars clock.time := by
  have hours := clock.hour_le
  have minutes := clock.minute_le
  have seconds := clock.second_le
  have fraction : FractionText clock.fractionChars (fractionNanos clock.fraction) := by
    by_cases none : clock.fraction = []
    · rw [fractionChars, if_pos none, none]
      exact .none
    · rw [fractionChars, if_neg none]
      exact .digits none clock.isDigit
  exact .mk (digitRun_two (by omega)) (digitRun_two (by omega)) (digitRun_two (by omega)) fraction

/-- The time of day exists. -/
theorem valid_time : clock.time.Valid :=
  ⟨clock.hour_le, clock.minute_le, clock.second_le, fractionNanos_lt clock.isDigit⟩

/-- The times are the same, and so are the first nine digits of the fractions, with zeros added if
there are fewer. -/
structure Agrees (other : Clock) : Prop where
  /-- The hours. -/
  hour_eq : clock.hour = other.hour
  /-- The minutes. -/
  minute_eq : clock.minute = other.minute
  /-- The seconds. -/
  second_eq : clock.second = other.second
  /-- The digits that count. -/
  digits_eq : nineDigits clock.fraction = nineDigits other.fraction

/-- Then the times of day are the same. -/
theorem Agrees.time_eq {clock other : Clock} (agrees : clock.Agrees other) :
    clock.time = other.time := by
  have nanos : fractionNanos clock.fraction = fractionNanos other.fraction :=
    congrArg digitsValue agrees.digits_eq
  rw [time, time, agrees.hour_eq, agrees.minute_eq, agrees.second_eq, nanos]

/-- The start of a day. -/
def midnight : Clock := ⟨0, 0, 0, [], by decide, by decide, by decide, nofun⟩

end Clock

/-- An offset as it is written: a sign, hours and minutes. -/
def writeOffset (sign : Char) (hours minutes : Nat) : List Char :=
  sign :: (paddedDigits 2 hours ++ ':' :: paddedDigits 2 minutes)

/-- A plus sign before hours and minutes makes an offset. -/
theorem offsetText_plus {hours minutes : Nat} (day : hours ≤ 23) (hour : minutes ≤ 59) :
    OffsetText (writeOffset '+' hours minutes) (60 * hours + minutes : Nat) :=
  .ahead (digitRun_two (by omega)) (digitRun_two (by omega)) day hour

/-- A minus sign before them makes the opposite one. -/
theorem offsetText_minus {sign : Char} {hours minutes : Nat} (isSign : sign ∈ ['-', '\u2212'])
    (day : hours ≤ 23) (hour : minutes ≤ 59) :
    OffsetText (writeOffset sign hours minutes) (-(60 * hours + minutes : Nat)) :=
  .behind (by simpa using isSign) (digitRun_two (by omega)) (digitRun_two (by omega)) day hour

/-- The ways to write a date and a time of day in universal time. -/
def universalTexts (dateChars timeChars : List Char) : List (List Char) :=
  [dateChars ++ 'T' :: timeChars, dateChars ++ ' ' :: timeChars,
    dateChars ++ 'T' :: (timeChars ++ ['Z']), dateChars ++ 't' :: (timeChars ++ ['z'])]

namespace Instant

/-! ## What the texts stand for -/

section Texts

variable {dateChars timeChars offsetChars chars : List Char} {between : Char} {time : TimeOfDay}
  {offset : Int} {instant : Instant}

/-- A strict date, a strict time and an offset stand for an instant that is moved by the offset. -/
theorem ofText?_offset (isDate : StrictDate dateChars date) (isBetween : between ∈ ['T', 't', ' '])
    (isTime : StrictTime timeChars time) (isOffset : OffsetText offsetChars offset)
    (real : ofCivil? date time 0 = some instant) :
    ofText? (String.ofList (dateChars ++ between :: (timeChars ++ offsetChars)))
      = some (instant.addMinutes (-offset)) :=
  (InstantText.offset isDate isBetween isTime isOffset (ofCivil?_offset real offset)).ofText?_ofList

/-- A strict date and a strict time stand for the same instant in universal time, however they are
written. -/
theorem ofText?_universal (isDate : StrictDate dateChars date) (isTime : StrictTime timeChars time)
    (real : ofCivil? date time 0 = some instant)
    (member : chars ∈ universalTexts dateChars timeChars) :
    ofText? (String.ofList chars) = some instant := by
  have held := isDate.yearInRange
  have loose := isDate.loose.one
  simp only [universalTexts, List.mem_cons, List.not_mem_nil, or_false] at member
  rcases member with rfl | rfl | rfl | rfl
  · exact (InstantText.letter loose held isTime.loose real).ofText?_ofList
  · exact (InstantText.spaced loose held rfl isTime.loose real).ofText?_ofList
  · exact (InstantText.offset isDate (by decide) isTime (.universal (.inl rfl)) real).ofText?_ofList
  · exact (InstantText.offset isDate (by decide) isTime (.universal (.inr rfl)) real).ofText?_ofList

/-- A strict date alone stands for its midnight. -/
theorem ofText?_date (isDate : StrictDate dateChars date)
    (real : ofCivil? date .midnight 0 = some instant) :
    ofText? (String.ofList dateChars) = some instant :=
  (InstantText.date isDate.loose.one isDate.yearInRange real).ofText?_ofList

end Texts

/-- **The spellings of an instant agree.** A date with a year of four digits stands for its
midnight. With a time of day it stands for one instant, the one of this date and this time, be it
written with the letter `T`, with a space, or with either letter and the letter for universal time,
and with any digits after the ninth of the fraction. It is in a leap second only if the second is
60. An offset in place of the last letter is taken off that instant, which keeps its nanoseconds. -/
theorem spellings_agree {date : CivilDate} (valid : date.Valid) (first : 0 ≤ date.year)
    (last : date.year ≤ 9999) :
    (∃ start : Instant, start.date = date ∧ start.time = .midnight ∧ start.LeapEndsMinute
      ∧ ofText? (String.ofList date.chars) = some start
      ∧ ofText? (String.ofList (date.chars ++ "T00:00:00Z".toList)) = some start)
    ∧ ∀ clock : Clock, ∃ instant : Instant, instant.date = date ∧ instant.time = clock.time
      ∧ instant.LeapEndsMinute ∧ ∀ other : Clock, clock.Agrees other →
        (∀ chars ∈ universalTexts date.chars other.chars,
          ofText? (String.ofList chars) = some instant)
        ∧ ∀ hours ≤ 23, ∀ minutes ≤ 59, ∀ between ∈ ['T', 't', ' '],
          ofText? (String.ofList (date.chars ++ between ::
              (other.chars ++ writeOffset '+' hours minutes)))
            = some (instant.addMinutes (-(60 * hours + minutes : Nat)))
          ∧ ∀ sign ∈ ['-', '\u2212'],
            ofText? (String.ofList (date.chars ++ between ::
                (other.chars ++ writeOffset sign hours minutes)))
              = some (instant.addMinutes (60 * hours + minutes : Nat)) := by
  have isDate := CivilDate.strictDate_chars valid first last
  constructor
  · obtain ⟨start, real⟩ := exists_ofCivil?_eq_some valid Clock.midnight.valid_time
    obtain ⟨sameDate, sameTime, ends⟩ := date_time_of_ofCivil? real
    have member : date.chars ++ "T00:00:00Z".toList
        ∈ universalTexts date.chars Clock.midnight.chars :=
      List.mem_cons_of_mem _ (List.mem_cons_of_mem _ List.mem_cons_self)
    exact ⟨start, sameDate, sameTime, ends, ofText?_date isDate real,
      ofText?_universal isDate Clock.midnight.strictTime real member⟩
  · intro clock
    obtain ⟨instant, real⟩ := exists_ofCivil?_eq_some valid clock.valid_time
    obtain ⟨sameDate, sameTime, ends⟩ := date_time_of_ofCivil? real
    refine ⟨instant, sameDate, sameTime, ends, fun other agrees => ?_⟩
    -- only the first nine digits of a fraction reach the time of day
    have isTime : StrictTime other.chars clock.time := agrees.time_eq ▸ other.strictTime
    refine ⟨fun chars member => ofText?_universal isDate isTime real member, ?_⟩
    intro hours day minutes hour between isBetween
    refine ⟨ofText?_offset isDate isBetween isTime (offsetText_plus day hour) real, ?_⟩
    intro sign isSign
    rw [ofText?_offset isDate isBetween isTime (offsetText_minus isSign day hour) real, Int.neg_neg]

/-- A leap second before a leap day, with ten digits after the point, half an hour behind universal
time. -/
theorem spellings_agree_leap_second :
    (⟨2024, 2, 28⟩ : CivilDate).Valid
    ∧ ∃ instant : Instant, ofText? "2024-02-28 23:59:60.5" = some instant
      ∧ ofText? "2024-02-28T23:59:60.5000000009-00:30" = some (instant.addMinutes 30)
      ∧ instant.date = ⟨2024, 2, 28⟩ ∧ (instant.addMinutes 30).date = ⟨2024, 2, 29⟩ := by
  have valid : (⟨2024, 2, 28⟩ : CivilDate).Valid := by decide
  let short : Clock :=
    ⟨23, 59, 60, ['5'], by decide, by decide, by decide, List.all_eq_true.1 rfl⟩
  let long : Clock :=
    ⟨23, 59, 60, "5000000009".toList, by decide, by decide, by decide, List.all_eq_true.1 rfl⟩
  obtain ⟨-, clocks⟩ := spellings_agree valid (by decide) (by decide)
  obtain ⟨instant, isDate, -, -, texts⟩ := clocks short
  obtain ⟨universal, -⟩ := texts short ⟨rfl, rfl, rfl, rfl⟩
  obtain ⟨-, offsets⟩ := texts long ⟨rfl, rfl, rfl, rfl⟩
  have read := universal _ (List.mem_cons_of_mem _ List.mem_cons_self)
  have moved := (offsets 0 (by decide) 30 (by decide) 'T' (by decide)).2 '-' (by decide)
  have shortText : String.ofList (CivilDate.chars ⟨2024, 2, 28⟩ ++ ' ' :: short.chars)
      = "2024-02-28 23:59:60.5" := by decide
  have longText : String.ofList (CivilDate.chars ⟨2024, 2, 28⟩
      ++ 'T' :: (long.chars ++ writeOffset '-' 0 30)) = "2024-02-28T23:59:60.5000000009-00:30" := by
    decide
  rw [shortText] at read
  rw [longText] at moved
  have known : instant = ⟨1709164799, 1500000000, by decide⟩ :=
    Option.some.inj (read.symm.trans (by decide))
  refine ⟨valid, instant, read, moved, isDate, ?_⟩
  rw [known]
  decide

end Instant

end RecordFilter
