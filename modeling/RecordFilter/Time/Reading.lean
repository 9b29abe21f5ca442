import RecordFilter.Number.Digits
import RecordFilter.Time.Instant
import RecordFilter.Unicode.DerivedProperty

/-! # Instants as text: reading

Three forms of text stand for an instant.

* `Instant.ofOffsetText?`: a date and a time with an offset from universal time, every part with a
  fixed number of digits.
* `Instant.ofLocalText?`: a date and a time without an offset, taken as universal time. Numbers may
  have fewer digits, and white space may stand before them.
* `Instant.ofDateText?`: a date alone, which stands for its midnight.

`Instant.ofText?` takes the first form that reads the whole text. -/

namespace RecordFilter

/-! ## Parts of a text -/

/-- Take one given character off a text. -/
def takeChar? (char : Char) : List Char → Option (List Char)
  | head :: rest => if head = char then some rest else none
  | [] => none

/-- Take an optional fraction of a second off a text, in nanoseconds. There has to be a digit after
the point, and digits after the ninth do not count. -/
def takeNanos? : List Char → Option (Nat × List Char)
  | '.' :: rest =>
      let run := rest.takeWhile Char.isDigit
      if run = [] then none
      else
        some
          (digitsValue (run.take 9) * tenPow (9 - (run.take 9).length),
            rest.dropWhile Char.isDigit)
  | text => some (0, text)

/-! ## Fixed digits and an offset -/

namespace Strict

/-- Take a date off a text: four digits, two and two. -/
def takeDate? (text : List Char) : Option (CivilDate × List Char) := do
  let (year, text) ← takeDigits? 4 4 text
  let text ← takeChar? '-' text
  let (month, text) ← takeDigits? 2 2 text
  let text ← takeChar? '-' text
  let (day, text) ← takeDigits? 2 2 text
  return (⟨year, month, day⟩, text)

/-- Take a time of day off a text: two digits each, and a fraction. -/
def takeTime? (text : List Char) : Option (TimeOfDay × List Char) := do
  let (hour, text) ← takeDigits? 2 2 text
  let text ← takeChar? ':' text
  let (minute, text) ← takeDigits? 2 2 text
  let text ← takeChar? ':' text
  let (second, text) ← takeDigits? 2 2 text
  let (nano, text) ← takeNanos? text
  return (⟨hour, minute, second, nano⟩, text)

/-- The sign of an offset. The mathematical minus sign counts as a minus sign. -/
def sign? : Char → Option Int
  | '+' => some 1
  | '-' => some (-1)
  | '\u2212' => some (-1)
  | _ => none

/-- The offset in minutes that a whole text stands for: a letter for none, or a sign, hours and
minutes below one day. -/
def offset? : List Char → Option Int
  | ['Z'] | ['z'] => some 0
  | head :: text => do
      let sign ← sign? head
      let (hours, text) ← takeDigits? 2 2 text
      let text ← takeChar? ':' text
      let (minutes, text) ← takeDigits? 2 2 text
      if text = [] ∧ hours ≤ 23 ∧ minutes ≤ 59 then
        return sign * (60 * hours + minutes : Nat)
      else none
  | [] => none

/-- Whether the character may stand between date and time. -/
def isBetween (char : Char) : Bool := char = 'T' || char = 't' || char = ' '

end Strict

/-! ## Loose digits -/

namespace Loose

/-- Take a number of one or two digits off a text, with white space before it. -/
def takeNumber? (text : List Char) : Option (Nat × List Char) :=
  takeDigits? 1 2 (dropWhiteSpace text)

/-- Take a year off a text, with white space before it. A sign lifts the bound of four digits. -/
def takeYear? (text : List Char) : Option (Int × List Char) :=
  match dropWhiteSpace text with
  | '+' :: rest => (takeDigits? 1 rest.length rest).map fun (year, text) => ((year : Int), text)
  | '-' :: rest => (takeDigits? 1 rest.length rest).map fun (year, text) => (-(year : Int), text)
  | rest => (takeDigits? 1 4 rest).map fun (year, text) => ((year : Int), text)

/-- Whether dates of the year can be held. -/
def yearInRange (year : Int) : Bool := -262143 ≤ year && year ≤ 262142

/-- Take a date off a text. -/
def takeDate? (text : List Char) : Option (CivilDate × List Char) := do
  let (year, text) ← takeYear? text
  let text ← takeChar? '-' text
  let (month, text) ← takeNumber? text
  let text ← takeChar? '-' text
  let (day, text) ← takeNumber? text
  if yearInRange year then return (⟨year, month, day⟩, text) else none

/-- Take a time of day off a text. -/
def takeTime? (text : List Char) : Option (TimeOfDay × List Char) := do
  let (hour, text) ← takeNumber? text
  let text ← takeChar? ':' text
  let (minute, text) ← takeNumber? text
  let text ← takeChar? ':' text
  let (second, text) ← takeNumber? text
  let (nano, text) ← takeNanos? text
  return (⟨hour, minute, second, nano⟩, text)

end Loose

/-! ## Instants -/

namespace Instant

/-- The instant of a date, a letter or a space, a time and an offset. -/
def ofOffsetText? (text : List Char) : Option Instant := do
  let (date, text) ← Strict.takeDate? text
  let head :: text := text | none
  if Strict.isBetween head then
    let (time, text) ← Strict.takeTime? text
    let offset ← Strict.offset? text
    ofCivil? date time offset
  else none

/-- The instant of a date, a separator and a time. -/
def ofLocalText? (separator? : List Char → Option (List Char)) (text : List Char) :
    Option Instant := do
  let (date, text) ← Loose.takeDate? text
  let text ← separator? text
  let (time, text) ← Loose.takeTime? text
  if text = [] then ofCivil? date time 0 else none

/-- The instant of a date alone, its midnight. -/
def ofDateText? (text : List Char) : Option Instant := do
  let (date, text) ← Loose.takeDate? text
  if text = [] then ofCivil? date .midnight 0 else none

/-- The ways to read an instant, in the order they are tried. Between the date and the time of a
local text stands the letter `T`, or any white space including none. -/
def readings : List (List Char → Option Instant) :=
  [ofOffsetText?, ofLocalText? (takeChar? 'T'), ofLocalText? (some ∘ dropWhiteSpace), ofDateText?]

/-- The instant that a text stands for. -/
def ofText? (text : String) : Option Instant :=
  readings.findSome? fun reading => reading text.toList

end Instant

end RecordFilter
