import RecordFilter.Fault
import RecordFilter.Number.Binary64
import RecordFilter.Time.Instant

/-! # Comparisons

What a clause asks of its field: an operator with an argument of the declared type.

* `Comparison.Valid`: the operator is legal for the type, a range has its two bounds, and every
  number is finite.
* `Comparison.fault?`: the first of these conditions that fails
  (`Comparison.fault?_eq_none_iff`). -/

namespace RecordFilter

/-- An operator with an argument of one of the field types. -/
inductive Comparison
  /-- Compare a text. -/
  | string (operator : Operator) (argument : Argument String)
  /-- Compare a truth value. -/
  | boolean (operator : Operator) (value : Bool)
  /-- Compare a number. -/
  | number (operator : Operator) (argument : Argument Binary64)
  /-- Compare an instant. -/
  | date (operator : Operator) (argument : Argument Instant)
  /-- Ask whether there is a value. -/
  | null (operator : Operator)
  deriving DecidableEq

namespace Comparison

/-! ## Parts -/

/-- The type of field that is compared. -/
def type : Comparison → FieldType
  | string _ _ => .string
  | boolean _ _ => .boolean
  | number _ _ => .number
  | date _ _ => .date
  | null _ => .null

/-- The operator. -/
def operator : Comparison → Operator
  | string operator _ | boolean operator _ | number operator _ | date operator _
  | null operator => operator

/-- The texts of a string comparison. -/
def strings? : Comparison → Option (Argument String)
  | string _ argument => some argument
  | _ => none

/-- The truth value of a boolean comparison. -/
def flag? : Comparison → Option Bool
  | boolean _ value => some value
  | _ => none

/-- The numbers of a number comparison. -/
def numbers? : Comparison → Option (Argument Binary64)
  | number _ argument => some argument
  | _ => none

/-- The instants of a date comparison. -/
def dates? : Comparison → Option (Argument Instant)
  | date _ argument => some argument
  | _ => none

/-- The delimiter, if the argument is a group. -/
def delimiter? : Comparison → Option Delimiter
  | string _ argument => argument.delimiter?
  | number _ argument => argument.delimiter?
  | date _ argument => argument.delimiter?
  | boolean _ _ | null _ => none

/-- Whether the argument is a group. -/
def isGroup (comparison : Comparison) : Bool := comparison.delimiter?.isSome

/-! ## Validity -/

/-- The number of values that have an order, if the values of the type have one. -/
def orderedSize? : Comparison → Option Nat
  | number _ argument => some argument.size
  | date _ argument => some argument.size
  | _ => none

/-- The first number that is not finite. -/
def nonFinite? : Comparison → Option Binary64
  | number _ argument => argument.values.find? fun value => !value.isFinite
  | _ => none

/-- The text of a number that is not finite. -/
def nonFiniteText (value : Binary64) : String :=
  if value.isNaN then "NaN" else if value.negative then "-inf" else "inf"

/-- The conditions on a comparison: the operator is legal for the type, a range has two bounds, and
the numbers are finite. -/
def Valid (comparison : Comparison) : Prop :=
  comparison.type.allows comparison.operator = true
    ∧ (comparison.operator.isRange = true → ∀ size ∈ comparison.orderedSize?, size = 2)
    ∧ comparison.nonFinite? = none

/-- The fault of a range without its two bounds. -/
def boundFault? (field : String) (comparison : Comparison) : Option Fault :=
  match comparison.orderedSize? with
  | some size =>
      if comparison.operator.isRange ∧ size ≠ 2 then
        some (.boundCount field comparison.operator size)
      else none
  | none => none

/-- The first condition that fails, as a fault of the named field. -/
def fault? (field : String) (comparison : Comparison) : Option Fault :=
  if comparison.type.allows comparison.operator then
    match comparison.boundFault? field with
    | some fault => some fault
    | none =>
        comparison.nonFinite?.map fun value => .valueMalformed field (nonFiniteText value) .number
  else some (.illegalOperator field comparison.operator comparison.type)

/-- Bounds are missing exactly if a range of ordered values does not have two of them. -/
theorem boundFault?_eq_none_iff (field : String) {comparison : Comparison} :
    comparison.boundFault? field = none
      ↔ (comparison.operator.isRange = true → ∀ size ∈ comparison.orderedSize?, size = 2) := by
  unfold boundFault?
  cases comparison.orderedSize? with
  | none => simp
  | some size =>
      by_cases range : comparison.operator.isRange = true <;> by_cases two : size = 2 <;>
        simp [range, two]

/-- There is no fault exactly if the comparison is valid. -/
theorem fault?_eq_none_iff (field : String) {comparison : Comparison} :
    comparison.fault? field = none ↔ comparison.Valid := by
  rw [Valid, ← boundFault?_eq_none_iff field]
  unfold fault?
  by_cases legal : comparison.type.allows comparison.operator = true
  · cases bounds : comparison.boundFault? field <;> simp [legal]
  · simp [legal]

end Comparison

end RecordFilter
