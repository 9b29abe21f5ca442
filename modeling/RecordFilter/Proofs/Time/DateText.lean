import RecordFilter.Proofs.Time.AnyYear

/-! # The grammar of dates

What a text of a date consists of, said without the readers. A strict date has a fixed number of
digits in each place. A loose one may have fewer digits, white space before its numbers and a year
with a sign. A reader takes exactly such a text off the front of a longer one.

* `DigitRun`, `Spaced`: digits, and white space before something.
* `DigitRun.takeDigits?`, `exists_digitRun`: what is taken off as digits.
* `DateText`, `StrictDate`, `LooseDate`: the texts of dates.
* `Strict.takeDate?_eq_some_iff`, `Loose.takeDate?_eq_some_iff`: what the readers of dates take. -/

namespace RecordFilter

variable {α : Type} {least most width value : Nat} {text chars run space rest : List Char}
  {date : CivilDate}

/-! ## Digits -/

/-- Digits, as many as the bounds allow, and their number. -/
structure DigitRun (least most : Nat) (run : List Char) (value : Nat) : Prop where
  /-- Every character is a digit. -/
  isDigit : ∀ char ∈ run, char.isDigit = true
  /-- There are not too few of them. -/
  enough : least ≤ run.length
  /-- There are not too many of them. -/
  within : run.length ≤ most
  /-- The number is the one that they stand for. -/
  value_eq : digitsValue run = value

/-- White space is no digit. -/
theorem NoDigitFirst.of_isWhiteSpace {blank : Char} (isBlank : isWhiteSpace blank = true) :
    NoDigitFirst (blank :: rest) := by
  refine .cons (Bool.eq_false_iff.2 fun isDigit => ?_)
  rw [isWhiteSpace_of_isDigit isDigit] at isBlank
  cases isBlank

namespace DigitRun

/-- The bounds can be wider. -/
theorem mono {fewest greatest : Nat} (digits : DigitRun least most run value)
    (below : fewest ≤ least) (above : most ≤ greatest) : DigitRun fewest greatest run value where
  isDigit := digits.isDigit
  enough := Nat.le_trans below digits.enough
  within := Nat.le_trans digits.within above
  value_eq := digits.value_eq

/-- Digits are taken off, if there are no more of them or no more are wanted. -/
theorem takeDigits? (digits : DigitRun least most run value)
    (ends : run.length < most → NoDigitFirst rest) :
    takeDigits? least most (run ++ rest) = some (value, rest) := by
  have front : ((run ++ rest).take most).takeWhile Char.isDigit = run := by
    rcases Nat.lt_or_eq_of_le digits.within with shorter | whole
    · rw [← List.take_takeWhile,
        takeWhile_isDigit_append digits.isDigit (ends shorter).takeWhile_eq_nil,
        List.take_of_length_le digits.within]
    · rw [List.take_left' whole, List.takeWhile_eq_self_iff.2 digits.isDigit]
  simp only [RecordFilter.takeDigits?, front, Nat.not_lt.2 digits.enough, if_false, List.drop_left,
    digits.value_eq]

/-- A fixed number of digits is taken off, whatever follows. -/
theorem takeDigits?_exact (digits : DigitRun width width run value) (rest : List Char) :
    RecordFilter.takeDigits? width width (run ++ rest) = some (value, rest) :=
  digits.takeDigits? fun fewer => absurd digits.enough (Nat.not_le.2 fewer)

/-- Digits do not begin with white space. -/
theorem dropWhiteSpace (digits : DigitRun least most run value) (positive : 0 < least)
    (rest : List Char) : dropWhiteSpace (run ++ rest) = run ++ rest := by
  cases run with
  | nil => exact absurd digits.enough (Nat.not_le.2 positive)
  | cons digit run =>
      exact dropWhiteSpace_cons_of_isDigit (digits.isDigit digit List.mem_cons_self)

end DigitRun

/-- A number that is written with leading zeros is a run of so many digits. -/
theorem digitRun_paddedDigits (positive : 0 < width) (small : value < 10 ^ width) :
    DigitRun width width (paddedDigits width value) value where
  isDigit := fun _ => isDigit_of_mem_paddedDigits
  enough := Nat.le_of_eq (length_paddedDigits_of_lt positive small).symm
  within := Nat.le_of_eq (length_paddedDigits_of_lt positive small)
  value_eq := digitsValue_paddedDigits width value

/-- What is taken off as digits are digits. The text goes on with a digit only if no more than those
were wanted. -/
theorem exists_digitRun (taken : takeDigits? least most text = some (value, rest)) :
    ∃ run, text = run ++ rest ∧ DigitRun least most run value
      ∧ (run.length < most → NoDigitFirst rest) := by
  simp only [takeDigits?, ← List.take_takeWhile, Option.ite_none_left_eq_some, Option.some.injEq,
    Prod.mk.injEq, Nat.not_lt] at taken
  obtain ⟨enough, number, left⟩ := taken
  have front : (text.takeWhile Char.isDigit).take most <+: text :=
    (List.take_prefix _ _).trans (List.takeWhile_prefix _)
  have whole := List.prefix_iff_eq_append.1 front
  rw [left] at whole
  refine ⟨(text.takeWhile Char.isDigit).take most, whole.symm, ?_, fun fewer => ?_⟩
  · exact ⟨fun _ member => List.mem_takeWhile_imp (List.mem_of_mem_take member), enough,
      List.length_take_le _ _, number⟩
  · -- all digits are taken
    rw [List.length_take] at fewer
    have all : (text.takeWhile Char.isDigit).take most = text.takeWhile Char.isDigit :=
      List.take_of_length_le (by omega)
    rw [all] at whole
    have rest_eq : rest = text.dropWhile Char.isDigit := by
      have split : text.takeWhile Char.isDigit ++ text.dropWhile Char.isDigit = text :=
        List.takeWhile_append_dropWhile
      exact List.append_cancel_left (whole.trans split.symm)
    rw [rest_eq]
    exact noDigitFirst_dropWhile text

/-! ## White space -/

/-- White space, which may be missing, and then a text for a value. -/
inductive Spaced (Text : List Char → α → Prop) : List Char → α → Prop
  /-- The white space and the text. -/
  | mk {space chars : List Char} {value : α} (blank : ∀ char ∈ space, isWhiteSpace char = true)
      (text : Text chars value) : Spaced Text (space ++ chars) value

/-- The white space may be missing. -/
theorem Spaced.of_text {Text : List Char → α → Prop} {value : α} (text : Text chars value) :
    Spaced Text chars value := by
  have none : ∀ char ∈ ([] : List Char), isWhiteSpace char = true := nofun
  exact .mk none text

/-- White space is dropped. -/
theorem dropWhiteSpace_append (blank : ∀ char ∈ space, isWhiteSpace char = true)
    (text : List Char) : dropWhiteSpace (space ++ text) = dropWhiteSpace text :=
  List.dropWhile_append_of_pos blank

/-- A text is some white space and what is left when it is dropped. -/
theorem exists_space (text : List Char) :
    ∃ space, (∀ char ∈ space, isWhiteSpace char = true) ∧ text = space ++ dropWhiteSpace text :=
  ⟨text.takeWhile isWhiteSpace, fun _ => List.mem_takeWhile_imp,
    List.takeWhile_append_dropWhile.symm⟩

namespace Loose

/-- A number of one or two digits is taken off. Two digits are taken whatever follows. -/
theorem takeNumber?_append (positive : 0 < least) (number : Spaced (DigitRun least 2) chars value)
    (ends : least = 2 ∨ NoDigitFirst rest) : takeNumber? (chars ++ rest) = some (value, rest) := by
  cases number with
  | mk blank digits =>
      rw [takeNumber?, List.append_assoc, dropWhiteSpace_append blank,
        digits.dropWhiteSpace positive]
      refine (digits.mono positive (Nat.le_refl 2)).takeDigits? fun fewer => ?_
      rcases ends with rfl | ends
      · exact absurd digits.enough (Nat.not_le.2 fewer)
      · exact ends

/-- What is taken off as a number are one or two digits. If another digit follows, then there are
two. -/
theorem exists_number (taken : takeNumber? text = some (value, rest)) :
    ∃ chars, text = chars ++ rest ∧ Spaced (DigitRun 1 2) chars value
      ∧ (NoDigitFirst rest ∨ Spaced (DigitRun 2 2) chars value) := by
  obtain ⟨space, blank, split⟩ := exists_space text
  obtain ⟨run, digits_eq, digits, ends⟩ := exists_digitRun taken
  refine ⟨space ++ run, ?_, .mk blank digits, ?_⟩
  · rw [split, digits_eq, List.append_assoc]
  · by_cases fewer : run.length < 2
    · exact .inl (ends fewer)
    · exact .inr (.mk blank ⟨digits.isDigit, Nat.le_of_not_lt fewer, digits.within,
        digits.value_eq⟩)

end Loose

/-! ## Dates -/

/-- A date: the year, the month and the day, with hyphens between them. -/
inductive DateText (Year : List Char → Int → Prop) (Month Day : List Char → Nat → Prop) :
    List Char → CivilDate → Prop
  /-- The three numbers. -/
  | mk {yearChars monthChars dayChars : List Char} {year : Int} {month day : Nat}
      (isYear : Year yearChars year) (isMonth : Month monthChars month) (isDay : Day dayChars day) :
      DateText Year Month Day (yearChars ++ '-' :: (monthChars ++ '-' :: dayChars))
        ⟨year, month, day⟩

/-- A year of four digits. -/
inductive FourDigits : List Char → Int → Prop
  /-- The digits. -/
  | mk {run : List Char} {value : Nat} (digits : DigitRun 4 4 run value) : FourDigits run value

/-- A year of up to four digits, or of any number of digits after a sign. -/
inductive YearText : List Char → Int → Prop
  /-- A year without a sign. -/
  | unsigned {run : List Char} {value : Nat} (digits : DigitRun 1 4 run value) : YearText run value
  /-- A year after a plus sign. -/
  | plus {run : List Char} {value : Nat} (digits : DigitRun 1 run.length run value) :
      YearText ('+' :: run) value
  /-- A year after a minus sign. -/
  | minus {run : List Char} {value : Nat} (digits : DigitRun 1 run.length run value) :
      YearText ('-' :: run) (-value)

/-- A date of four, two and two digits. -/
def StrictDate : List Char → CivilDate → Prop :=
  DateText FourDigits (DigitRun 2 2) (DigitRun 2 2)

/-- A date with white space before its numbers, which may have fewer digits. Of the day the least
number of digits is given. -/
def LooseDate (least : Nat) : List Char → CivilDate → Prop :=
  DateText (Spaced YearText) (Spaced (DigitRun 1 2)) (Spaced (DigitRun least 2))

/-- A strict date is a loose one. -/
theorem StrictDate.loose (strict : StrictDate chars date) : LooseDate 2 chars date := by
  cases strict with
  | mk isYear isMonth isDay =>
      cases isYear with
      | mk digits =>
          exact .mk (.of_text (.unsigned (digits.mono (by decide) (Nat.le_refl 4))))
            (.of_text (isMonth.mono (by decide) (Nat.le_refl 2))) (.of_text isDay)

/-- A day of two digits has at least one. -/
theorem LooseDate.one (loose : LooseDate 2 chars date) : LooseDate 1 chars date := by
  cases loose with
  | mk isYear isMonth isDay =>
      cases isDay with
      | mk blank digits =>
          exact .mk isYear isMonth (.mk blank (digits.mono (by decide) (Nat.le_refl 2)))

/-- A number of digits is below the power of ten with as many zeros. -/
theorem digitsValue_lt (isDigit : ∀ char ∈ run, char.isDigit = true) :
    digitsValue run < 10 ^ run.length := by
  induction run with
  | nil => exact Nat.one_pos
  | cons digit run induction =>
      obtain ⟨first, others⟩ := List.forall_mem_cons.1 isDigit
      have tail := induction others
      have single : digit.toNat - '0'.toNat < 10 := by
        simp only [Char.isDigit, ge_iff_le, Bool.and_eq_true, decide_eq_true_eq,
          UInt32.le_iff_toNat_le] at first
        have high : digit.toNat ≤ 57 := first.2
        have zero : '0'.toNat = 48 := rfl
        omega
      have head : 10 ^ run.length * (digit.toNat - '0'.toNat) ≤ 10 ^ run.length * 9 :=
        Nat.mul_le_mul_left _ (Nat.le_of_lt_succ single)
      rw [digitsValue, Nat.ofDigitChars_cons, Nat.mul_zero, Nat.zero_add,
        Nat.ofDigitChars_eq_ofDigitChars_zero, List.length_cons, Nat.pow_succ]
      rw [digitsValue] at tail
      omega

/-- The year of a strict date can be held. -/
theorem StrictDate.yearInRange (strict : StrictDate chars date) :
    Loose.yearInRange date.year = true := by
  cases strict with
  | mk isYear isMonth isDay =>
      cases isYear with
      | mk digits =>
          have small := digitsValue_lt digits.isDigit
          rw [Nat.le_antisymm digits.within digits.enough, digits.value_eq] at small
          simp only [Loose.yearInRange, Bool.and_eq_true, decide_eq_true_eq]
          omega

/-- A character is taken off exactly if it stands first. -/
theorem takeChar?_eq_some_iff {char : Char} :
    takeChar? char text = some rest ↔ text = char :: rest := by
  constructor
  · intro taken
    cases text with
    | nil => cases taken
    | cons head tail =>
        rw [takeChar?, Option.ite_none_right_eq_some, Option.some.injEq] at taken
        obtain ⟨rfl, rfl⟩ := taken
        rfl
  · rintro rfl
    exact takeChar?_cons char rest

namespace Strict

/-- Exactly the strict dates are taken off as such. -/
theorem takeDate?_eq_some_iff :
    takeDate? text = some (date, rest) ↔ ∃ chars, text = chars ++ rest ∧ StrictDate chars date := by
  constructor
  · intro taken
    simp only [takeDate?, Option.bind_eq_bind, Option.bind_eq_some_iff, Prod.exists,
      takeChar?_eq_some_iff, pure, Option.some.injEq, Prod.mk.injEq] at taken
    obtain ⟨year, _, takenYear, _, rfl, month, _, takenMonth, _, rfl, day, _, takenDay, rfl, rfl⟩ :=
      taken
    obtain ⟨yearChars, rfl, isYear, -⟩ := exists_digitRun takenYear
    obtain ⟨monthChars, rfl, isMonth, -⟩ := exists_digitRun takenMonth
    obtain ⟨dayChars, rfl, isDay, -⟩ := exists_digitRun takenDay
    refine ⟨_, ?_, .mk (.mk isYear) isMonth isDay⟩
    simp only [List.append_assoc, List.cons_append]
  · rintro ⟨chars, rfl, isDate⟩
    cases isDate with
    | mk isYear isMonth isDay =>
        cases isYear with
        | mk digits =>
            simp only [takeDate?, List.append_assoc, List.cons_append, digits.takeDigits?_exact,
              takeChar?_cons, isMonth.takeDigits?_exact, isDay.takeDigits?_exact,
              Option.bind_eq_bind, Option.bind_some, pure]

end Strict

namespace Loose

/-- White space before a year is dropped. -/
theorem takeYear?_space (blank : ∀ char ∈ space, isWhiteSpace char = true) (text : List Char) :
    takeYear? (space ++ text) = takeYear? text := by
  rw [takeYear?, dropWhiteSpace_append blank, ← takeYear?]

/-- Digits after a sign are wanted without a bound. -/
theorem takeDigits?_unbounded (digits : DigitRun 1 run.length run value)
    (ends : NoDigitFirst rest) :
    takeDigits? 1 (run ++ rest).length (run ++ rest) = some (value, rest) := by
  have most : run.length ≤ (run ++ rest).length := by
    rw [List.length_append]
    exact Nat.le_add_right _ _
  exact (digits.mono (Nat.le_refl 1) most).takeDigits? fun _ => ends

/-- A year is taken off before a text that does not go on with a digit. -/
theorem takeYear?_append {year : Int} (isYear : YearText chars year) (ends : NoDigitFirst rest) :
    takeYear? (chars ++ rest) = some (year, rest) := by
  cases isYear with
  | unsigned digits =>
      have taken : takeDigits? 1 4 (chars ++ rest) = some (_, rest) :=
        digits.takeDigits? fun _ => ends
      cases chars with
      | nil => exact absurd digits.enough (by decide)
      | cons digit run =>
          have isDigit := digits.isDigit digit List.mem_cons_self
          rw [List.cons_append] at taken ⊢
          rw [takeYear?_cons_of_isDigit isDigit, taken, Option.map_some]
  | @plus run _ digits =>
      have plus : dropWhiteSpace ('+' :: (run ++ rest)) = '+' :: (run ++ rest) := rfl
      simp only [takeYear?, List.cons_append, plus, takeDigits?_unbounded digits ends,
        Option.map_some]
  | @minus run _ digits =>
      have minus : dropWhiteSpace ('-' :: (run ++ rest)) = '-' :: (run ++ rest) := rfl
      simp only [takeYear?, List.cons_append, minus, takeDigits?_unbounded digits ends,
        Option.map_some]

/-- What is taken off after a sign are digits, however many they are. -/
theorem exists_digitRun_unbounded (taken : takeDigits? 1 most text = some (value, rest)) :
    ∃ run, text = run ++ rest ∧ DigitRun 1 run.length run value := by
  obtain ⟨run, split, digits, -⟩ := exists_digitRun taken
  exact ⟨run, split, digits.isDigit, digits.enough, Nat.le_refl _, digits.value_eq⟩

/-- What is taken off as a year is one. -/
theorem exists_year {year : Int} (taken : takeYear? text = some (year, rest)) :
    ∃ chars, text = chars ++ rest ∧ Spaced YearText chars year := by
  obtain ⟨space, blank, split⟩ := exists_space text
  unfold takeYear? at taken
  split at taken
  · next left signed =>
      obtain ⟨⟨value, _⟩, takenDigits, same⟩ := Option.map_eq_some_iff.1 taken
      obtain ⟨rfl, rfl⟩ := Prod.mk.inj same
      obtain ⟨run, rfl, digits⟩ := exists_digitRun_unbounded takenDigits
      refine ⟨space ++ '+' :: run, ?_, .mk blank (.plus digits)⟩
      rw [split, signed, List.append_assoc, List.cons_append]
  · next left signed =>
      obtain ⟨⟨value, _⟩, takenDigits, same⟩ := Option.map_eq_some_iff.1 taken
      obtain ⟨rfl, rfl⟩ := Prod.mk.inj same
      obtain ⟨run, rfl, digits⟩ := exists_digitRun_unbounded takenDigits
      refine ⟨space ++ '-' :: run, ?_, .mk blank (.minus digits)⟩
      rw [split, signed, List.append_assoc, List.cons_append]
  · obtain ⟨⟨value, _⟩, takenDigits, same⟩ := Option.map_eq_some_iff.1 taken
    obtain ⟨rfl, rfl⟩ := Prod.mk.inj same
    obtain ⟨run, digits_eq, digits, -⟩ := exists_digitRun takenDigits
    refine ⟨space ++ run, ?_, .mk blank (.unsigned digits)⟩
    rw [split, digits_eq, List.append_assoc]

/-- Exactly the loose dates are taken off as such, if their year can be held. The day has two digits
if another digit follows. -/
theorem takeDate?_eq_some_iff :
    takeDate? text = some (date, rest)
      ↔ ∃ chars, text = chars ++ rest ∧ yearInRange date.year = true
        ∧ (LooseDate 1 chars date ∧ NoDigitFirst rest ∨ LooseDate 2 chars date) := by
  constructor
  · intro taken
    simp only [takeDate?, Option.bind_eq_bind, Option.bind_eq_some_iff, Prod.exists,
      takeChar?_eq_some_iff, Option.ite_none_right_eq_some, pure, Option.some.injEq,
      Prod.mk.injEq] at taken
    obtain ⟨year, _, takenYear, _, rfl, month, _, takenMonth, _, rfl, day, _, takenDay, held, rfl,
      rfl⟩ := taken
    obtain ⟨yearChars, rfl, isYear⟩ := exists_year takenYear
    obtain ⟨monthChars, rfl, isMonth, -⟩ := exists_number takenMonth
    obtain ⟨dayChars, rfl, isDay, ends⟩ := exists_number takenDay
    refine ⟨yearChars ++ '-' :: (monthChars ++ '-' :: dayChars), ?_, held, ?_⟩
    · simp only [List.append_assoc, List.cons_append]
    · rcases ends with ends | two
      · exact .inl ⟨.mk isYear isMonth isDay, ends⟩
      · exact .inr (.mk isYear isMonth two)
  · rintro ⟨chars, rfl, held, isDate⟩
    -- a day of one digit and one of two differ in what may follow only
    have parts : ∃ least, 0 < least ∧ LooseDate least chars date
        ∧ (least = 2 ∨ NoDigitFirst rest) := by
      rcases isDate with ⟨isDate, ends⟩ | isDate
      · exact ⟨1, Nat.one_pos, isDate, .inr ends⟩
      · exact ⟨2, Nat.two_pos, isDate, .inl rfl⟩
    obtain ⟨least, positive, isDate, ends⟩ := parts
    cases isDate with
    | mk isYear isMonth isDay =>
        cases isYear with
        | mk blank isYear =>
            have hyphen (rest : List Char) : NoDigitFirst ('-' :: rest) := .cons rfl
            have month (rest : List Char) :=
              takeNumber?_append Nat.one_pos isMonth (.inr (hyphen rest))
            simp only [takeDate?, List.append_assoc, List.cons_append, takeYear?_space blank,
              takeYear?_append isYear (hyphen _), takeChar?_cons, month,
              takeNumber?_append positive isDay ends, Option.bind_eq_bind, Option.bind_some, pure]
            exact if_pos held

end Loose

end RecordFilter
