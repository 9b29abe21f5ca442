import RecordFilter.Number.Rounding
import RecordFilter.Time.Instant

/-! # Field values

What a field of a record holds.

* `FieldValue.ofInt`, `FieldValue.ofBinary32`, `FieldValue.ofOption`: other values as field values.
* `Record`: named field values; a field that is not named is null. -/

namespace RecordFilter

/-- The value of a field. -/
inductive FieldValue
  /-- No value. -/
  | null
  /-- A text. -/
  | string (text : String)
  /-- A number. -/
  | number (value : Binary64)
  /-- An instant. -/
  | date (instant : Instant)
  /-- A truth value. -/
  | boolean (value : Bool)
  deriving DecidableEq

namespace FieldValue

/-- An integer as the nearest number. -/
def ofInt (value : Int) : FieldValue := number (.ofInt value)

/-- A number of the 32-bit format. -/
def ofBinary32 (bits : Nat) : FieldValue := number (.ofBinary32 bits)

/-- A value that may be missing. -/
def ofOption (convert : α → FieldValue) : Option α → FieldValue
  | some value => convert value
  | none => null

/-- The text, if the value is one. -/
def string? : FieldValue → Option String
  | string text => some text
  | _ => none

/-- The number, if the value is one. -/
def number? : FieldValue → Option Binary64
  | number value => some value
  | _ => none

/-- The instant, if the value is one. -/
def date? : FieldValue → Option Instant
  | date instant => some instant
  | _ => none

/-- The truth value, if the value is one. -/
def flag? : FieldValue → Option Bool
  | boolean value => some value
  | _ => none

/-- Whether there is no value. -/
def isNull : FieldValue → Bool
  | null => true
  | _ => false

end FieldValue

/-- Named field values. -/
abbrev Record := List (String × FieldValue)

/-- The value of a field of a record. -/
def Record.value (record : Record) (field : String) : FieldValue :=
  (record.lookup field).getD .null

end RecordFilter
