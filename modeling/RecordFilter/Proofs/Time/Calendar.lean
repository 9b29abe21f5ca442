import Mathlib.Tactic.IntervalCases
import RecordFilter.Time.CivilDate

/-! # Dates and their numbers

Every number of days is the number of exactly the date it gives, and that date exists. Within an
era of 400 years, years are counted from March. An era has four centuries of 36524 days and a last
day, a century has blocks of four years with 1461 days, and a block has years of 365 days and a last
day. A last day is the 29th of February.

* `exists_cycles`: a day of an era in these cycles.
* `yearOfEra_eq`: its year, as the count computes it.
* `CivilDate.exists_ofDays_eq`: the date of a number of days in terms of the cycles.
* `CivilDate.toDays_ofDays`, `CivilDate.valid_ofDays`: the two facts on dates.
* `CivilDate.ofDays_toDays`: a date that exists is the one of its number. -/

namespace RecordFilter

/-! ## Cycles of an era -/

/-- A day of an era lies in a century, in a block of four years and in a year of that block. Only
the last year of a block may have the day 365, in the last block of a century only if the century is
the last one. -/
theorem exists_cycles {dayOfEra : Nat} (bound : dayOfEra < 146097) :
    ∃ century block year day : Nat, century ≤ 3 ∧ block ≤ 24 ∧ year ≤ 3 ∧ day ≤ 365
      ∧ (day = 365 → year = 3 ∧ (block ≤ 23 ∨ century = 3))
      ∧ dayOfEra = 36524 * century + 1461 * block + 365 * year + day := by
  -- the last day of the era belongs to the fourth century, the last day of a block to its last year
  obtain ⟨century, dayOfCentury, isCentury, within, last, rfl⟩ :
      ∃ century dayOfCentury, century ≤ 3 ∧ dayOfCentury ≤ 36524
        ∧ (dayOfCentury = 36524 → century = 3) ∧ dayOfEra = 36524 * century + dayOfCentury :=
    ⟨min (dayOfEra / 36524) 3, dayOfEra - 36524 * min (dayOfEra / 36524) 3, by omega, by omega,
      by omega, by omega⟩
  obtain ⟨block, dayOfBlock, isBlock, inBlock, rfl⟩ :
      ∃ block dayOfBlock, block ≤ 24 ∧ dayOfBlock ≤ 1460
        ∧ dayOfCentury = 1461 * block + dayOfBlock :=
    ⟨dayOfCentury / 1461, dayOfCentury % 1461, by omega, by omega, by omega⟩
  exact ⟨century, block, min (dayOfBlock / 365) 3, dayOfBlock - 365 * min (dayOfBlock / 365) 3,
    isCentury, isBlock, by omega, by omega, by omega, by omega⟩

/-- The year of an era, counted by taking off the leap days of its cycles. -/
theorem yearOfEra_eq {century block year day dayOfEra : Nat} (isCentury : century ≤ 3)
    (isBlock : block ≤ 24) (isYear : year ≤ 3) (isDay : day ≤ 365)
    (leap : day = 365 → year = 3 ∧ (block ≤ 23 ∨ century = 3))
    (split : dayOfEra = 36524 * century + 1461 * block + 365 * year + day) :
    (dayOfEra - dayOfEra / 1460 + dayOfEra / 36524 - dayOfEra / 146096) / 365
      = 100 * century + 4 * block + year := by
  have blocks : dayOfEra / 1460
      = 25 * century + block + (24 * century + block + 365 * year + day) / 1460 := by omega
  by_cases last : century = 3 ∧ block = 24 ∧ year = 3 ∧ day = 365
  · -- the last day of the era
    omega
  · have centuries : dayOfEra / 36524 = century := by omega
    have era : dayOfEra / 146096 = 0 := by omega
    rw [blocks, centuries, era]
    omega

/-- The day of that year: what is left when the days of the years before it are taken off. -/
theorem dayOfYear_eq {century block year day dayOfEra : Nat} (isBlock : block ≤ 24)
    (isYear : year ≤ 3)
    (split : dayOfEra = 36524 * century + 1461 * block + 365 * year + day) :
    dayOfEra - (365 * (100 * century + 4 * block + year) + (100 * century + 4 * block + year) / 4
      - (100 * century + 4 * block + year) / 100) = day := by
  have blocks : (100 * century + 4 * block + year) / 4 = 25 * century + block := by omega
  have centuries : (100 * century + 4 * block + year) / 100 = century := by omega
  rw [blocks, centuries]
  omega

namespace CivilDate

/-! ## Dates of numbers -/

/-- The month that is a number of months after March. -/
def monthAfterMarch (months : Nat) : Nat := if months < 10 then months + 3 else months - 9

/-- The date of a number of days: its year begins in March, and five months have 153 days. -/
theorem exists_ofDays_eq (days : Int) :
    ∃ (era : Int) (century block year day : Nat), century ≤ 3 ∧ block ≤ 24 ∧ year ≤ 3 ∧ day ≤ 365
      ∧ (day = 365 → year = 3 ∧ (block ≤ 23 ∨ century = 3))
      ∧ days + 719468
        = 146097 * era + (36524 * century + 1461 * block + 365 * year + day : Nat)
      ∧ ofDays days
        = ⟨400 * era + (100 * century + 4 * block + year : Nat)
              + if (5 * day + 2) / 153 < 10 then 0 else 1,
            monthAfterMarch ((5 * day + 2) / 153),
            day - (153 * ((5 * day + 2) / 153) + 2) / 5 + 1⟩ := by
  have inEra : ((days + 719468) % 146097).toNat < 146097 := by omega
  have eras : days + 719468
      = 146097 * ((days + 719468) / 146097) + ((days + 719468) % 146097).toNat := by omega
  obtain ⟨century, block, year, day, isCentury, isBlock, isYear, isDay, leap, split⟩ :=
    exists_cycles inEra
  have counted := yearOfEra_eq isCentury isBlock isYear isDay leap split
  have dayOfYear := dayOfYear_eq isBlock isYear split
  refine ⟨(days + 719468) / 146097, century, block, year, day, isCentury, isBlock, isYear, isDay,
    leap, split ▸ eras, ?_⟩
  simp only [ofDays, counted, dayOfYear, monthAfterMarch, mk.injEq, and_self, and_true]
  -- January and February belong to the year that began in March
  by_cases early : (5 * day + 2) / 153 < 10
  · simp only [early, if_true]
    rw [if_neg (by omega), Int.add_zero]
  · simp only [early, if_false]
    rw [if_pos (by omega)]

/-- The number of a date whose year is counted from March. -/
theorem toDays_eq (year : Int) {months : Nat} (isMonth : months ≤ 11) (day : Nat) :
    toDays ⟨year + if months < 10 then 0 else 1, monthAfterMarch months, day⟩
      = 146097 * (year / 400)
        + (365 * (year % 400) + year % 400 / 4 - year % 400 / 100
          + (((153 * months + 2) / 5 + day : Nat) - 1 : Int)) - 719468 := by
  by_cases early : months < 10
  · have shifted : (months + 3 + 9) % 12 = months := by omega
    have late : ¬ months + 3 ≤ 2 := by omega
    simp only [toDays, monthAfterMarch, early, if_true, late, if_false, Int.add_zero, shifted]
  · have shifted : (months - 9 + 9) % 12 = months := by omega
    have first : months - 9 ≤ 2 := by omega
    simp only [toDays, monthAfterMarch, early, if_false, first, if_true, Int.add_sub_cancel,
      shifted]

/-- The date of a number of days has that number. -/
theorem toDays_ofDays (days : Int) : (ofDays days).toDays = days := by
  obtain ⟨era, century, block, year, day, isCentury, isBlock, isYear, isDay, leap, split, date⟩ :=
    exists_ofDays_eq days
  generalize months_eq : (5 * day + 2) / 153 = months at date
  have isMonth : months ≤ 11 := by omega
  have begun : (153 * months + 2) / 5 ≤ day := by omega
  -- the cycles of the year are those that the number is put together from
  have eras : (400 * era + (100 * century + 4 * block + year : Nat)) / 400 = era := by omega
  have years : (400 * era + (100 * century + 4 * block + year : Nat)) % 400
      = (100 * century + 4 * block + year : Nat) := by omega
  have blocks : ((100 * century + 4 * block + year : Nat) : Int) / 4
      = 25 * century + block := by omega
  have centuries : ((100 * century + 4 * block + year : Nat) : Int) / 100 = century := by omega
  rw [date, toDays_eq _ isMonth, eras, years, blocks, centuries]
  omega

/-- The twelve months after March are the months of the year. -/
theorem monthAfterMarch_bounds {months : Nat} (isMonth : months ≤ 11) :
    1 ≤ monthAfterMarch months ∧ monthAfterMarch months ≤ 12 := by
  unfold monthAfterMarch
  split <;> omega

/-- A month has 31 days at most. -/
theorem daysInMonth_le (year : Int) (month : Nat) : daysInMonth year month ≤ 31 := by
  unfold daysInMonth
  split
  · split <;> decide
  · split <;> decide

/-- February is the last month before March. -/
theorem daysInMonth_february (year : Int) :
    daysInMonth year (monthAfterMarch 11) = if isLeapYear year then 29 else 28 := rfl

/-- February always has 28 days. -/
theorem le_daysInMonth_february (year : Int) : 28 ≤ daysInMonth year (monthAfterMarch 11) := by
  rw [daysInMonth_february]
  split <;> decide

/-- From one month to the next there are as many days as the month has, except in February. -/
theorem daysInMonth_monthAfterMarch (year : Int) {months : Nat} (isMonth : months ≤ 10) :
    daysInMonth year (monthAfterMarch months)
      = (153 * (months + 1) + 2) / 5 - (153 * months + 2) / 5 := by
  interval_cases months <;> rfl

/-- The year that begins in the last block of a century is a leap year only if the century is the
last one; the other blocks end before a leap year. -/
theorem isLeapYear_afterBlock (era : Int) {century block : Nat} (isBlock : block ≤ 24)
    (regular : block ≤ 23 ∨ century = 3) :
    isLeapYear (400 * era + (100 * century + 4 * block + 3 : Nat) + 1) = true := by
  simp only [isLeapYear, Bool.and_eq_true, Bool.or_eq_true, beq_iff_eq, bne_iff_ne]
  omega

/-- The date of a number of days exists. -/
theorem valid_ofDays (days : Int) : (ofDays days).Valid := by
  obtain ⟨era, century, block, year, day, isCentury, isBlock, isYear, isDay, leap, -, date⟩ :=
    exists_ofDays_eq days
  generalize months_eq : (5 * day + 2) / 153 = months at date
  have isMonth : months ≤ 11 := by omega
  obtain ⟨first, last⟩ := monthAfterMarch_bounds isMonth
  rw [date]
  refine ⟨first, last, Nat.le_add_left 1 _, ?_⟩
  change day - (153 * months + 2) / 5 + 1 ≤ daysInMonth _ (monthAfterMarch months)
  by_cases february : months = 11
  · subst february
    by_cases leapDay : day = 365
    · obtain ⟨rfl, regular⟩ := leap leapDay
      have isLeap := isLeapYear_afterBlock era isBlock regular
      simp only [daysInMonth_february, Nat.reduceLT, if_false, isLeap, if_true]
      omega
    · have most : day - (153 * 11 + 2) / 5 + 1 ≤ 28 := by omega
      exact Nat.le_trans most (le_daysInMonth_february _)
  · rw [daysInMonth_monthAfterMarch _ (by omega)]
    omega

/-! ## Numbers of dates -/

/-- The number of days from the first of March of the year 0 to that of a year. -/
def daysBeforeYear (year : Int) : Int :=
  146097 * (year / 400) + (365 * (year % 400) + year % 400 / 4 - year % 400 / 100)

/-- A year from March to March has the leap day of the year in which it ends. -/
theorem daysBeforeYear_succ (year : Int) :
    daysBeforeYear (year + 1)
      = daysBeforeYear year + 337 + daysInMonth (year + 1) (monthAfterMarch 11) := by
  rw [daysInMonth_february]
  unfold daysBeforeYear
  cases leap : isLeapYear (year + 1) with
  | true =>
      simp only [isLeapYear, Bool.and_eq_true, Bool.or_eq_true, beq_iff_eq, bne_iff_ne] at leap
      rw [if_pos rfl]
      omega
  | false =>
      simp only [isLeapYear, Bool.and_eq_false_iff, Bool.or_eq_false_iff, beq_eq_false_iff_ne,
        bne_eq_false_iff_eq] at leap
      rw [if_neg (by decide)]
      omega

/-- Years follow one another. -/
theorem daysBeforeYear_mono {year other : Int} (le : year ≤ other) :
    daysBeforeYear year ≤ daysBeforeYear other := by
  unfold daysBeforeYear
  omega

/-- A date lies in a year from March to March, in a month of it and on a day of that month. -/
theorem exists_toDays_eq {date : CivilDate} (valid : date.Valid) :
    ∃ (year : Int) (months day : Nat), months ≤ 11 ∧ 1 ≤ day
      ∧ date = ⟨year + if months < 10 then 0 else 1, monthAfterMarch months, day⟩
      ∧ date.toDays + 719469 = daysBeforeYear year + ((153 * months + 2) / 5 + day : Nat)
      ∧ (months ≤ 10 → (153 * months + 2) / 5 + day ≤ (153 * (months + 1) + 2) / 5)
      ∧ date.toDays + 719468 < daysBeforeYear (year + 1) := by
  obtain ⟨year, month, day⟩ := date
  obtain ⟨january, december, first, last⟩ := valid
  simp only at january december first last
  obtain ⟨months, isMonth, rfl⟩ : ∃ months ≤ 11, month = monthAfterMarch months := by
    refine ⟨(month + 9) % 12, by omega, ?_⟩
    unfold monthAfterMarch
    split <;> omega
  obtain ⟨begun, rfl⟩ : ∃ begun : Int, year = begun + if months < 10 then 0 else 1 :=
    ⟨year - if months < 10 then 0 else 1, by omega⟩
  have number : toDays ⟨begun + if months < 10 then 0 else 1, monthAfterMarch months, day⟩ + 719469
      = daysBeforeYear begun + ((153 * months + 2) / 5 + day : Nat) := by
    rw [toDays_eq begun isMonth day, daysBeforeYear]
    omega
  have within : months ≤ 10 → (153 * months + 2) / 5 + day ≤ (153 * (months + 1) + 2) / 5 := by
    intro early
    rw [daysInMonth_monthAfterMarch _ early] at last
    omega
  refine ⟨begun, months, day, isMonth, first, rfl, number, within, ?_⟩
  have length := daysBeforeYear_succ begun
  have february := le_daysInMonth_february (begun + 1)
  rcases Nat.lt_or_eq_of_le isMonth with early | rfl
  · have before := within (by omega)
    omega
  · -- February ends with the year
    rw [if_neg (by decide)] at last
    omega

/-- Dates that exist have different numbers. -/
theorem toDays_inj {date other : CivilDate} (valid : date.Valid) (validToo : other.Valid)
    (same : date.toDays = other.toDays) : date = other := by
  obtain ⟨year, months, day, isMonth, first, rfl, number, within, inYear⟩ := exists_toDays_eq valid
  obtain ⟨otherYear, otherMonths, otherDay, isMonthToo, firstToo, rfl, numberToo, withinToo,
    inYearToo⟩ := exists_toDays_eq validToo
  rw [← same] at numberToo inYearToo
  -- the years do not overlap, and neither do the months of a year
  have sameYear : year = otherYear := by
    rcases Int.lt_trichotomy year otherYear with before | same | after
    · have later := daysBeforeYear_mono before
      omega
    · exact same
    · have later := daysBeforeYear_mono after
      omega
  subst sameYear
  have sameMonth : months = otherMonths := by
    rcases Nat.lt_trichotomy months otherMonths with before | same | after
    · have ends := within (by omega)
      omega
    · exact same
    · have ends := withinToo (by omega)
      omega
  subst sameMonth
  have sameDay : day = otherDay := by omega
  rw [sameDay]

/-- The number of a date that exists is that of this date only. -/
theorem ofDays_toDays {date : CivilDate} (valid : date.Valid) : ofDays date.toDays = date :=
  toDays_inj (valid_ofDays _) valid (toDays_ofDays _)

end CivilDate

end RecordFilter
