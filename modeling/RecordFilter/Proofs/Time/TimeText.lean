import RecordFilter.Proofs.Time.DateText

/-! # The grammar of times of day and of offsets

What a text of a time of day consists of, strict or loose as with dates, and what a text of an
offset from universal time consists of.

* `nineDigits`, `FractionText`: fractions of a second, of which nine digits count.
* `TimeText`, `StrictTime`, `LooseTime`: times of day.
* `TakesNumber.takeTimeBy?`, `TakesNumber.exists_timeText`: what a reader takes as a time of day,
  given what it takes as a number.
* `OffsetText`, `Strict.offset?_eq_some_iff`: offsets. -/

namespace RecordFilter

variable {value nano : Nat} {text chars run rest : List Char} {time : TimeOfDay} {offset : Int}
  {take? : List Char → Option (Nat × List Char)} {Number : List Char → Nat → Prop}

/-! ## Fractions of a second -/

/-- The first nine digits of a fraction, with zeros added if there are fewer. -/
def nineDigits (run : List Char) : List Char := (run ++ List.replicate 9 '0').take 9

/-- The nanoseconds of a fraction. -/
def fractionNanos (run : List Char) : Nat := digitsValue (nineDigits run)

/-- Zeros after a number multiply it by ten. -/
theorem digitsValue_append_zeros (run : List Char) (zeros : Nat) :
    digitsValue (run ++ List.replicate zeros '0') = digitsValue run * tenPow zeros := by
  rw [digitsValue, Nat.ofDigitChars_append, Nat.ofDigitChars_replicate_zero, Nat.mul_comm]
  rfl

/-- The digits that count are multiplied by ten for each that is missing. -/
theorem fractionNanos_eq (run : List Char) :
    fractionNanos run = digitsValue (run.take 9) * tenPow (9 - (run.take 9).length) := by
  have missing : 9 - (run.take 9).length = 9 - run.length := by
    rw [List.length_take]
    omega
  have zeros : min (9 - run.length) 9 = 9 - run.length := Nat.min_eq_left (Nat.sub_le _ _)
  rw [missing, ← digitsValue_append_zeros, fractionNanos, nineDigits, List.take_append,
    List.take_replicate, zeros]

/-- There are fewer of them than a second has. -/
theorem fractionNanos_lt (isDigit : ∀ char ∈ run, char.isDigit = true) :
    fractionNanos run < nanosPerSecond := by
  have digits : ∀ char ∈ nineDigits run, char.isDigit = true := by
    intro char member
    rcases List.mem_append.1 (List.mem_of_mem_take member) with digit | zero
    · exact isDigit char digit
    · rw [List.eq_of_mem_replicate zero]
      rfl
  calc fractionNanos run
      < 10 ^ (nineDigits run).length := digitsValue_lt digits
    _ ≤ 10 ^ 9 := Nat.pow_le_pow_right (by decide) (List.length_take_le 9 _)

/-- A point and digits, or nothing at all. -/
inductive FractionText : List Char → Nat → Prop
  /-- No fraction. -/
  | none : FractionText [] 0
  /-- Any number of digits after the point. -/
  | digits {run : List Char} (nonempty : run ≠ []) (isDigit : ∀ char ∈ run, char.isDigit = true) :
      FractionText ('.' :: run) (fractionNanos run)

/-- The text does not begin with something that would go on with a time of day. -/
def EndsTime (rest : List Char) : Prop :=
  ∀ char ∈ rest.head?, char.isDigit = false ∧ char ≠ '.'

theorem EndsTime.noDigitFirst (ends : EndsTime rest) : NoDigitFirst rest :=
  fun char first => (ends char first).1

theorem endsTime_nil : EndsTime [] := nofun

/-- No digit follows the second, whether there is a fraction or not. -/
theorem FractionText.noDigitFirst (fraction : FractionText chars nano) (ends : EndsTime rest) :
    NoDigitFirst (chars ++ rest) := by
  cases fraction with
  | none => exact ends.noDigitFirst
  | digits nonempty isDigit => exact .cons rfl

/-- A fraction is taken off. -/
theorem FractionText.takeNanos? (fraction : FractionText chars nano) (ends : EndsTime rest) :
    takeNanos? (chars ++ rest) = some (nano, rest) := by
  cases fraction with
  | none =>
      rw [List.nil_append, RecordFilter.takeNanos?]
      · intro tail begins
        exact (ends '.' (by rw [begins]; rfl)).2 rfl
  | @digits run nonempty isDigit =>
      have stops := ends.noDigitFirst.takeWhile_eq_nil
      have front := takeWhile_isDigit_append isDigit stops
      have left := dropWhile_isDigit_append isDigit stops
      simp only [List.cons_append, RecordFilter.takeNanos?, front, left, nonempty, if_false,
        fractionNanos_eq]

/-- What is taken off as a fraction is one. -/
theorem exists_fraction (taken : takeNanos? text = some (nano, rest)) :
    ∃ chars, text = chars ++ rest ∧ FractionText chars nano := by
  unfold takeNanos? at taken
  split at taken
  · next tail =>
      simp only [Option.ite_none_left_eq_some, Option.some.injEq, Prod.mk.injEq] at taken
      obtain ⟨nonempty, rfl, rfl⟩ := taken
      refine ⟨'.' :: tail.takeWhile Char.isDigit, ?_, ?_⟩
      · rw [List.cons_append, List.takeWhile_append_dropWhile]
      · rw [← fractionNanos_eq]
        exact .digits nonempty fun _ => List.mem_takeWhile_imp
  · cases taken
    exact ⟨[], rfl, .none⟩

/-! ## Times of day -/

/-- A time of day: the hour, the minute and the second, with colons between them, and a fraction. -/
inductive TimeText (Number : List Char → Nat → Prop) : List Char → TimeOfDay → Prop
  /-- The three numbers and the fraction. -/
  | mk {hourChars minuteChars secondChars fractionChars : List Char}
      {hour minute second nano : Nat} (isHour : Number hourChars hour)
      (isMinute : Number minuteChars minute) (isSecond : Number secondChars second)
      (isFraction : FractionText fractionChars nano) :
      TimeText Number
        (hourChars ++ ':' :: (minuteChars ++ ':' :: (secondChars ++ fractionChars)))
        ⟨hour, minute, second, nano⟩

/-- A time of day with two digits in each place. -/
def StrictTime : List Char → TimeOfDay → Prop := TimeText (DigitRun 2 2)

/-- A time of day with white space before its numbers, which may have one digit. -/
def LooseTime : List Char → TimeOfDay → Prop := TimeText (Spaced (DigitRun 1 2))

/-- What a reader takes off as a number, before a text that does not go on with a digit. -/
structure TakesNumber (take? : List Char → Option (Nat × List Char))
    (Number : List Char → Nat → Prop) : Prop where
  /-- What it takes is a number. -/
  sound {text rest : List Char} {value : Nat} (taken : take? text = some (value, rest)) :
    ∃ chars, text = chars ++ rest ∧ Number chars value
  /-- It takes numbers. -/
  complete {chars rest : List Char} {value : Nat} (number : Number chars value)
    (ends : NoDigitFirst rest) : take? (chars ++ rest) = some (value, rest)

/-- Two digits are numbers of strict times. -/
theorem takesNumber_strict : TakesNumber (takeDigits? 2 2) (DigitRun 2 2) where
  sound taken :=
    have ⟨run, split, digits, _⟩ := exists_digitRun taken
    ⟨run, split, digits⟩
  complete digits _ := digits.takeDigits?_exact _

/-- One or two digits after white space are numbers of loose times. -/
theorem takesNumber_loose : TakesNumber Loose.takeNumber? (Spaced (DigitRun 1 2)) where
  sound taken :=
    have ⟨chars, split, number, _⟩ := Loose.exists_number taken
    ⟨chars, split, number⟩
  complete number ends := Loose.takeNumber?_append Nat.one_pos number (.inr ends)

/-- Take a time of day off a text with a reader of its numbers. -/
def takeTimeBy? (take? : List Char → Option (Nat × List Char)) (text : List Char) :
    Option (TimeOfDay × List Char) := do
  let (hour, text) ← take? text
  let text ← takeChar? ':' text
  let (minute, text) ← take? text
  let text ← takeChar? ':' text
  let (second, text) ← take? text
  let (nano, text) ← takeNanos? text
  return (⟨hour, minute, second, nano⟩, text)

theorem Strict.takeTime?_eq : Strict.takeTime? = takeTimeBy? (takeDigits? 2 2) := rfl

theorem Loose.takeTime?_eq : Loose.takeTime? = takeTimeBy? Loose.takeNumber? := rfl

namespace TakesNumber

/-- What is taken off as a time of day is one. -/
theorem exists_timeText (takes : TakesNumber take? Number)
    (taken : RecordFilter.takeTimeBy? take? text = some (time, rest)) :
    ∃ chars, text = chars ++ rest ∧ TimeText Number chars time := by
  simp only [RecordFilter.takeTimeBy?, Option.bind_eq_bind, Option.bind_eq_some_iff, Prod.exists,
    takeChar?_eq_some_iff, pure, Option.some.injEq, Prod.mk.injEq] at taken
  obtain ⟨hour, _, takenHour, _, rfl, minute, _, takenMinute, _, rfl, second, _, takenSecond, nano,
    _, takenNano, rfl, rfl⟩ := taken
  obtain ⟨hourChars, rfl, isHour⟩ := takes.sound takenHour
  obtain ⟨minuteChars, rfl, isMinute⟩ := takes.sound takenMinute
  obtain ⟨secondChars, rfl, isSecond⟩ := takes.sound takenSecond
  obtain ⟨fractionChars, rfl, isFraction⟩ := exists_fraction takenNano
  refine ⟨_, ?_, .mk isHour isMinute isSecond isFraction⟩
  simp only [List.append_assoc, List.cons_append]

/-- A time of day is taken off before a text that does not go on with one. -/
theorem takeTimeBy? (takes : TakesNumber take? Number) (isTime : TimeText Number chars time)
    (ends : EndsTime rest) :
    RecordFilter.takeTimeBy? take? (chars ++ rest) = some (time, rest) := by
  have colon (rest : List Char) : NoDigitFirst (':' :: rest) := .cons rfl
  cases isTime with
  | mk isHour isMinute isSecond isFraction =>
      simp only [RecordFilter.takeTimeBy?, List.append_assoc, List.cons_append,
        takes.complete isHour (colon _), takes.complete isMinute (colon _),
        takes.complete isSecond (isFraction.noDigitFirst ends), isFraction.takeNanos? ends,
        takeChar?_cons, Option.bind_eq_bind, Option.bind_some, pure]

end TakesNumber

/-- A strict time is a loose one. -/
theorem StrictTime.loose (strict : StrictTime chars time) : LooseTime chars time := by
  have number {run : List Char} {value : Nat} (digits : DigitRun 2 2 run value) :
      Spaced (DigitRun 1 2) run value :=
    .of_text (digits.mono (by decide) (Nat.le_refl 2))
  cases strict with
  | mk isHour isMinute isSecond isFraction =>
      exact .mk (number isHour) (number isMinute) (number isSecond) isFraction

/-- White space before a time of day does not matter. -/
theorem Loose.takeTime?_space {space : List Char}
    (blank : ∀ char ∈ space, isWhiteSpace char = true) (text : List Char) :
    takeTime? (space ++ text) = takeTime? text := by
  have hour : takeNumber? (space ++ text) = takeNumber? text := by
    rw [takeNumber?, dropWhiteSpace_append blank, ← takeNumber?]
  rw [takeTime?, hour, ← takeTime?]

/-- It can be dropped. -/
theorem Loose.takeTime?_dropWhiteSpace (text : List Char) :
    takeTime? (dropWhiteSpace text) = takeTime? text := by
  obtain ⟨space, blank, split⟩ := exists_space text
  calc takeTime? (dropWhiteSpace text)
      = takeTime? (space ++ dropWhiteSpace text) := (takeTime?_space blank _).symm
    _ = takeTime? text := by rw [← split]

/-- Exactly the loose times are whole texts that are taken as times of day. -/
theorem Loose.takeTime?_eq_some_nil_iff :
    takeTime? chars = some (time, []) ↔ LooseTime chars time := by
  rw [takeTime?_eq]
  constructor
  · intro taken
    obtain ⟨_, rfl, isTime⟩ := takesNumber_loose.exists_timeText taken
    rwa [List.append_nil]
  · intro isTime
    have taken := takesNumber_loose.takeTimeBy? isTime endsTime_nil
    rwa [List.append_nil] at taken

namespace LooseTime

/-- White space may stand before a loose time. -/
theorem cons {blank : Char} (isBlank : isWhiteSpace blank = true) (isTime : LooseTime chars time) :
    LooseTime (blank :: chars) time := by
  cases isTime with
  | mk isHour isMinute isSecond isFraction =>
      cases isHour with
      | @mk space _ _ blanks digits =>
          have more : ∀ char ∈ blank :: space, isWhiteSpace char = true :=
            List.forall_mem_cons.2 ⟨isBlank, blanks⟩
          exact .mk (.mk more digits) isMinute isSecond isFraction

/-- A loose time that does not begin with a digit begins with white space. -/
theorem exists_blank (isTime : LooseTime chars time) (noDigit : NoDigitFirst chars) :
    ∃ blank rest, chars = blank :: rest ∧ isWhiteSpace blank = true ∧ LooseTime rest time := by
  cases isTime with
  | mk isHour isMinute isSecond isFraction =>
      cases isHour with
      | @mk space run _ blanks digits =>
          cases space with
          | nil =>
              -- the hour would stand first
              cases run with
              | nil => exact absurd digits.enough (by decide)
              | cons digit run =>
                  have isDigit := digits.isDigit digit List.mem_cons_self
                  exact absurd (noDigit digit rfl) (by simp [isDigit])
          | cons blank space =>
              obtain ⟨isBlank, others⟩ := List.forall_mem_cons.1 blanks
              exact ⟨blank, _, rfl, isBlank, .mk (.mk others digits) isMinute isSecond isFraction⟩

/-- It can be dropped there. -/
theorem dropWhiteSpace_iff : LooseTime (dropWhiteSpace chars) time ↔ LooseTime chars time := by
  rw [← Loose.takeTime?_eq_some_nil_iff, Loose.takeTime?_dropWhiteSpace,
    Loose.takeTime?_eq_some_nil_iff]

end LooseTime

/-! ## Offsets -/

/-- An offset from universal time: a letter for none, or a sign, hours and minutes. The mathematical
minus sign is a minus sign as well. -/
inductive OffsetText : List Char → Int → Prop
  /-- No offset. -/
  | universal {letter : Char} (isLetter : letter = 'Z' ∨ letter = 'z') : OffsetText [letter] 0
  /-- Hours and minutes ahead of universal time. -/
  | ahead {hourChars minuteChars : List Char} {hours minutes : Nat}
      (isHours : DigitRun 2 2 hourChars hours) (isMinutes : DigitRun 2 2 minuteChars minutes)
      (day : hours ≤ 23) (hour : minutes ≤ 59) :
      OffsetText ('+' :: (hourChars ++ ':' :: minuteChars)) (60 * hours + minutes : Nat)
  /-- Hours and minutes behind universal time. -/
  | behind {sign : Char} {hourChars minuteChars : List Char} {hours minutes : Nat}
      (isSign : sign = '-' ∨ sign = '\u2212') (isHours : DigitRun 2 2 hourChars hours)
      (isMinutes : DigitRun 2 2 minuteChars minutes) (day : hours ≤ 23) (hour : minutes ≤ 59) :
      OffsetText (sign :: (hourChars ++ ':' :: minuteChars)) (-(60 * hours + minutes : Nat))

/-- No offset goes on with a time of day. -/
theorem OffsetText.endsTime (isOffset : OffsetText chars offset) : EndsTime chars := by
  cases isOffset with
  | universal isLetter =>
      rintro char ⟨⟩
      rcases isLetter with rfl | rfl <;> decide
  | ahead =>
      rintro char ⟨⟩
      decide
  | behind isSign =>
      rintro char ⟨⟩
      rcases isSign with rfl | rfl <;> decide

/-- An offset has at least one character. -/
theorem OffsetText.ne_nil (isOffset : OffsetText chars offset) : chars ≠ [] := by
  cases isOffset <;> exact List.cons_ne_nil _ _

namespace Strict

/-- Hours and minutes after a sign are read as an offset. -/
theorem offset?_cons {sign : Char} {factor : Int} (signed : sign? sign = some factor)
    {hourChars minuteChars : List Char} {hours minutes : Nat}
    (isHours : DigitRun 2 2 hourChars hours) (isMinutes : DigitRun 2 2 minuteChars minutes)
    (day : hours ≤ 23) (hour : minutes ≤ 59) :
    offset? (sign :: (hourChars ++ ':' :: minuteChars))
      = some (factor * (60 * hours + minutes : Nat)) := by
  have last : takeDigits? 2 2 minuteChars = some (minutes, []) := by
    have taken := isMinutes.takeDigits?_exact []
    rwa [List.append_nil] at taken
  -- neither letter is a sign
  unfold offset?
  split
  · next same =>
      cases (List.cons.inj same).1
      cases signed
  · next same =>
      cases (List.cons.inj same).1
      cases signed
  · next same =>
      obtain ⟨rfl, rfl⟩ := List.cons.inj same
      simp only [signed, isHours.takeDigits?_exact, takeChar?_cons, last, day, hour, and_self,
        if_true, Option.bind_eq_bind, Option.bind_some, pure]
  · next same => cases same

/-- Exactly the offsets are read as such. -/
theorem offset?_eq_some_iff : offset? chars = some offset ↔ OffsetText chars offset := by
  constructor
  · intro read
    unfold offset? at read
    split at read
    · cases read
      exact .universal (.inl rfl)
    · cases read
      exact .universal (.inr rfl)
    · next sign tail _ _ =>
        simp only [Option.bind_eq_bind, Option.bind_eq_some_iff, Prod.exists, takeChar?_eq_some_iff,
          Option.ite_none_right_eq_some, pure, Option.some.injEq] at read
        obtain ⟨factor, signed, hours, _, takenHours, _, rfl, minutes, _, takenMinutes,
          ⟨rfl, day, hour⟩, rfl⟩ := read
        obtain ⟨hourChars, rfl, isHours, -⟩ := exists_digitRun takenHours
        obtain ⟨minuteChars, rfl, isMinutes, -⟩ := exists_digitRun takenMinutes
        rw [List.append_nil]
        unfold sign? at signed
        split at signed
        · cases signed
          rw [Int.one_mul]
          exact .ahead isHours isMinutes day hour
        · cases signed
          rw [Int.neg_one_mul]
          exact .behind (.inl rfl) isHours isMinutes day hour
        · cases signed
          rw [Int.neg_one_mul]
          exact .behind (.inr rfl) isHours isMinutes day hour
        · cases signed
    · cases read
  · intro isOffset
    cases isOffset with
    | universal isLetter => rcases isLetter with rfl | rfl <;> rfl
    | ahead isHours isMinutes day hour =>
        rw [offset?_cons rfl isHours isMinutes day hour, Int.one_mul]
    | behind isSign isHours isMinutes day hour =>
        rcases isSign with rfl | rfl
        · rw [offset?_cons rfl isHours isMinutes day hour, Int.neg_one_mul]
        · rw [offset?_cons rfl isHours isMinutes day hour, Int.neg_one_mul]

end Strict

end RecordFilter
