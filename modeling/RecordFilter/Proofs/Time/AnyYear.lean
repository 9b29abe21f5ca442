import RecordFilter.Proofs.Time.RoundTrip

/-! # Texts of instants in any year

A year that does not have four digits is written with a sign, so that the text of an instant tells
all of its digits, in whichever year the instant lies.

* `Loose.takeYear?_writeYear`: a year of any size is taken off a text again.
* `CivilDate.takeWritten?`, `Instant.ofWritten?`: the readers of what is written.
* `Instant.ofWritten?_text`: what a text shows of an instant is read back.
* `Instant.text_eq_text_iff`: texts are equal exactly if they show the same instant. -/

namespace RecordFilter

variable {rest : List Char} {next : Char}

/-! ## Years -/

/-- A digit is not white space, so nothing is dropped before it. -/
theorem dropWhiteSpace_cons_of_isDigit {digit : Char} (isDigit : digit.isDigit = true) :
    dropWhiteSpace (digit :: rest) = digit :: rest := by
  rw [dropWhiteSpace, List.dropWhile_cons_of_neg (by simp [isWhiteSpace_of_isDigit isDigit])]

/-- The digits of a year after a sign are taken off, however many they are. -/
theorem takeDigits?_year (year : Nat) (ends : next.isDigit = false) :
    takeDigits? 1 (paddedDigits 4 year ++ next :: rest).length (paddedDigits 4 year ++ next :: rest)
      = some (year, next :: rest) := by
  have four : 4 ≤ (paddedDigits 4 year).length := by
    rw [length_paddedDigits]
    exact Nat.le_max_left _ _
  have whole : (paddedDigits 4 year).length ≤ (paddedDigits 4 year ++ next :: rest).length := by
    rw [List.length_append]
    exact Nat.le_add_right _ _
  rw [takeDigits?_append (fun _ => isDigit_of_mem_paddedDigits) ends (by omega) whole,
    digitsValue_paddedDigits]

/-- A year whose text begins with a digit has no sign, and four digits at most. -/
theorem Loose.takeYear?_cons_of_isDigit {digit : Char} (isDigit : digit.isDigit = true) :
    takeYear? (digit :: rest)
      = (takeDigits? 1 4 (digit :: rest)).map fun (year, text) => ((year : Int), text) := by
  rw [takeYear?, dropWhiteSpace_cons_of_isDigit isDigit]
  split
  · next plus =>
      cases plus
      cases isDigit
  · next minus =>
      cases minus
      cases isDigit
  · rfl

/-- A year of any size is taken off a text again. -/
theorem Loose.takeYear?_writeYear (year : Int) (ends : next.isDigit = false) :
    takeYear? (writeYear year ++ next :: rest) = some (year, next :: rest) := by
  unfold writeYear
  split
  · next negative =>
      have minus : dropWhiteSpace ('-' :: (paddedDigits 4 year.natAbs ++ next :: rest))
          = '-' :: (paddedDigits 4 year.natAbs ++ next :: rest) := rfl
      have value : -(year.natAbs : Int) = year := by omega
      simp only [List.cons_append, takeYear?, minus, takeDigits?_year year.natAbs ends,
        Option.map_some, value]
  · split
    · next nonnegative small =>
        have length : (paddedDigits 4 year.natAbs).length = 4 :=
          length_paddedDigits_of_lt (by decide) (by omega)
        have taken : takeDigits? 1 4 (paddedDigits 4 year.natAbs ++ next :: rest)
            = some (year.natAbs, next :: rest) := by
          rw [takeDigits?_append (fun _ => isDigit_of_mem_paddedDigits) ends (by omega)
            (by omega), digitsValue_paddedDigits]
        have value : (year.natAbs : Int) = year := by omega
        cases written : paddedDigits 4 year.natAbs with
        | nil => simp [written] at length
        | cons digit digits =>
            have isDigit : digit.isDigit = true :=
              isDigit_of_mem_paddedDigits (written ▸ List.mem_cons_self)
            rw [written, List.cons_append] at taken
            simp only [List.cons_append, takeYear?_cons_of_isDigit isDigit, taken,
              Option.map_some, value]
    · next nonnegative large =>
        have plus : dropWhiteSpace ('+' :: (paddedDigits 4 year.natAbs ++ next :: rest))
            = '+' :: (paddedDigits 4 year.natAbs ++ next :: rest) := rfl
        have value : (year.natAbs : Int) = year := by omega
        simp only [List.cons_append, takeYear?, plus, takeDigits?_year year.natAbs ends,
          Option.map_some, value]

/-! ## Dates and instants -/

/-- Take a date off a text: a year of any size, and two digits each for the month and the day. -/
def CivilDate.takeWritten? (text : List Char) : Option (CivilDate × List Char) := do
  let (year, text) ← Loose.takeYear? text
  let text ← takeChar? '-' text
  let (month, text) ← takeDigits? 2 2 text
  let text ← takeChar? '-' text
  let (day, text) ← takeDigits? 2 2 text
  return (⟨year, month, day⟩, text)

/-- A date is taken off the text again. -/
theorem CivilDate.takeWritten?_chars {date : CivilDate} (valid : date.Valid) (rest : List Char) :
    takeWritten? (date.chars ++ rest) = some (date, rest) := by
  obtain ⟨-, december, -, endOfMonth⟩ := valid
  have longest := daysInMonth_le date.year date.month
  have months : date.month < 10 ^ 2 := by omega
  have days : date.day < 10 ^ 2 := by omega
  simp only [takeWritten?, chars, List.append_assoc, List.cons_append,
    Loose.takeYear?_writeYear date.year (rfl : '-'.isDigit = false), takeChar?_cons,
    takeDigits?_paddedDigits Nat.two_pos months, takeDigits?_paddedDigits Nat.two_pos days,
    Option.bind_eq_bind, Option.bind_some, pure]

namespace Instant

/-- The instant that a text is written for: a date, the letter `T` and a time of day. -/
def ofWritten? (text : List Char) : Option Instant := do
  let (date, text) ← CivilDate.takeWritten? text
  let text ← takeChar? 'T' text
  let (time, _) ← Strict.takeTime? text
  ofCivil? date time 0

/-- What the text of an instant shows is read back from it. -/
theorem ofWritten?_text (instant : Instant) :
    ofWritten? instant.text.toList = some instant.shown := by
  simp only [ofWritten?, text, String.toList_ofList, List.append_assoc, List.cons_append,
    CivilDate.takeWritten?_chars instant.valid_date, takeChar?_cons,
    Strict.takeTime?_chars instant.valid_time (by decide : 'Z' ≠ '.') rfl, Option.bind_eq_bind,
    Option.bind_some, ofCivil?_date_time]

/-- Two instants have the same text exactly if it shows the same of them. -/
theorem text_eq_text_iff {left right : Instant} :
    left.text = right.text ↔ left.shown = right.shown := by
  constructor
  · intro same
    have read : some left.shown = some right.shown := by
      rw [← ofWritten?_text left, same, ofWritten?_text]
    exact Option.some_inj.1 read
  · intro same
    rw [← text_shown left, same, text_shown]

/-- A leap second inside a minute has the text of the second after it. -/
example : text ⟨1435708564, 1000000000, by decide⟩ = text ⟨1435708565, 0, by decide⟩ := by
  decide +kernel

end Instant

end RecordFilter
