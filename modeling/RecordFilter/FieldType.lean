import RecordFilter.Operator

/-! # Field types

The type a clause declares for its field: its one-letter token, its name and the operators it is
legal with.

* `FieldType.ofToken?` inverts `FieldType.token` (`FieldType.ofToken?_eq_some_iff`).
* `FieldType.allows`: which operators a type is legal with. -/

namespace RecordFilter

/-- The declared type of a clause. -/
inductive FieldType
  /-- Text. -/
  | string
  /-- A truth value. -/
  | boolean
  /-- A binary floating-point number. -/
  | number
  /-- An instant. -/
  | date
  /-- No value: the clause asks whether the field is null. -/
  | null
  deriving DecidableEq, Repr

namespace FieldType

/-- Every field type, in the order of the registry. -/
def all : List FieldType := [string, boolean, number, date, null]

/-- The registry is complete. -/
@[simp] theorem mem_all (type : FieldType) : type ∈ all := by
  cases type <;> decide

/-- The letter that declares the type in a query text. -/
def token : FieldType → String
  | string => "s"
  | boolean => "b"
  | number => "n"
  | date => "d"
  | null => "v"

/-- The name of the type. -/
def name : FieldType → String
  | string => "string"
  | boolean => "boolean"
  | number => "number"
  | date => "date"
  | null => "null"

/-- The type declared by the given token. -/
def ofToken? (text : String) : Option FieldType :=
  all.find? fun type => type.token == text

/-- A token declares a type exactly if it is the token of that type. -/
theorem ofToken?_eq_some_iff {text : String} {type : FieldType} :
    ofToken? text = some type ↔ type.token = text := by
  constructor
  · intro found
    simpa using List.find?_some found
  · rintro rfl
    cases type <;> decide

/-- Whether a clause of the type may use the operator. -/
def allows : FieldType → Operator → Bool
  | string, .equal | string, .notEqual | string, .oneOf | string, .noneOf | string, .matching
  | string, .notMatching => true
  | boolean, .equal | boolean, .notEqual => true
  | number, .equal | number, .notEqual | number, .greater | number, .greaterEqual | number, .less
  | number, .lessEqual | number, .between | number, .outside | number, .oneOf
  | number, .noneOf => true
  | date, .equal | date, .notEqual | date, .greater | date, .greaterEqual | date, .less
  | date, .lessEqual | date, .between | date, .outside | date, .oneOf | date, .noneOf => true
  | null, .isNull | null, .isNotNull => true
  | _, _ => false

/-- The operators that are legal for the type, in registry order. -/
def operators (type : FieldType) : List Operator :=
  Operator.all.filter type.allows

/-- Dates are compared by the operators of numbers. -/
theorem allows_date (operator : Operator) : date.allows operator = number.allows operator := by
  cases operator <;> rfl

end FieldType

end RecordFilter
