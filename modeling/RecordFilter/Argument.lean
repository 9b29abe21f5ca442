/-! # Arguments of an operator

What stands to the right of an operator: one value, or a bracketed group of values.

* `Delimiter`: what separates the values of a group. The closing bracket chooses it
  (`Delimiter.ofClosing?`), and it decides how answers combine (`Delimiter.connective`).
* `Argument α`: one value or a group, with its values in order (`Argument.values`).
* `Argument.traverse`: convert every value, stopping at the first failure; the shape is kept
  (`Argument.delimiter?_of_traverse`). -/

namespace RecordFilter

/-! ## Delimiters -/

/-- How the answers for the values of a group combine into one. -/
inductive Connective
  /-- Every value has to agree. -/
  | all
  /-- At least one value has to agree. -/
  | any
  deriving DecidableEq, Repr

namespace Connective

/-- Combine the answers of a test over a list. -/
def combine (connective : Connective) (test : α → Bool) (values : List α) : Bool :=
  match connective with
  | all => values.all test
  | any => values.any test

@[simp] theorem combine_all (test : α → Bool) (values : List α) :
    all.combine test values = values.all test := rfl

@[simp] theorem combine_any (test : α → Bool) (values : List α) :
    any.combine test values = values.any test := rfl

end Connective

/-- The separator between the values of a group. -/
inductive Delimiter
  /-- A comma: the group is closed by a square bracket. -/
  | comma
  /-- A vertical bar: the group is closed by a round bracket. -/
  | pipe
  deriving DecidableEq, Repr

namespace Delimiter

/-- The character of the delimiter. -/
def char : Delimiter → Char
  | comma => ','
  | pipe => '|'

/-- The bracket that a group with the delimiter is written to open with. Either bracket opens a
group; this one pairs with the closing bracket. -/
def opening : Delimiter → Char
  | comma => '['
  | pipe => '('

/-- The bracket that closes a group with the delimiter. -/
def closing : Delimiter → Char
  | comma => ']'
  | pipe => ')'

/-- The delimiter chosen by a closing bracket. -/
def ofClosing? : Char → Option Delimiter
  | ']' => some comma
  | ')' => some pipe
  | _ => none

/-- A closing bracket chooses the delimiter whose groups it closes. -/
@[simp] theorem ofClosing?_closing (delimiter : Delimiter) :
    ofClosing? delimiter.closing = some delimiter := by
  cases delimiter <;> rfl

/-- A comma asks every value to agree, a vertical bar at least one. -/
def connective : Delimiter → Connective
  | comma => .all
  | pipe => .any

end Delimiter

/-! ## Arguments -/

/-- What an operator is applied to. -/
inductive Argument (α : Type u)
  /-- One value, written without brackets. -/
  | one (value : α)
  /-- A bracketed group of values, possibly empty. -/
  | group (values : List α) (delimiter : Delimiter)
  deriving DecidableEq, Repr

namespace Argument

/-- The values in order. -/
def values : Argument α → List α
  | one value => [value]
  | group values _ => values

@[simp] theorem values_one (value : α) : (one value).values = [value] := rfl

@[simp] theorem values_group (values : List α) (delimiter : Delimiter) :
    (group values delimiter).values = values := rfl

/-- The delimiter, which only a group has. -/
def delimiter? : Argument α → Option Delimiter
  | one _ => none
  | group _ delimiter => some delimiter

/-- Whether the argument is a group. -/
def isGroup (argument : Argument α) : Bool :=
  argument.delimiter?.isSome

/-- The value that stands alone. -/
def single? : Argument α → Option α
  | one value => some value
  | group _ _ => none

/-- The number of values. -/
def size (argument : Argument α) : Nat :=
  argument.values.length

/-- How the answers for the values combine. A value that stands alone has to agree. -/
def connective (argument : Argument α) : Connective :=
  match argument.delimiter? with
  | none => .all
  | some delimiter => delimiter.connective

/-- Combine the answers of a test over the values. -/
def combine (argument : Argument α) (test : α → Bool) : Bool :=
  argument.connective.combine test argument.values

@[simp] theorem combine_one (value : α) (test : α → Bool) :
    (one value).combine test = test value := by
  simp [combine, connective, delimiter?]

/-- Convert every value in order, keeping the shape. The first failure is the answer if there is
one. -/
def traverse (convert : α → Except ε β) : Argument α → Except ε (Argument β)
  | one value => (convert value).map one
  | group values delimiter => (values.mapM convert).map (group · delimiter)

/-- Conversion keeps the shape of the argument. -/
theorem delimiter?_of_traverse {convert : α → Except ε β} {argument : Argument α}
    {converted : Argument β} (success : argument.traverse convert = .ok converted) :
    converted.delimiter? = argument.delimiter? := by
  cases argument with
  | one value =>
      cases found : convert value <;> simp [traverse, Except.map, found] at success
      subst success
      rfl
  | group values delimiter =>
      cases found : values.mapM convert <;> simp [traverse, Except.map, found] at success
      subst success
      rfl

end Argument

end RecordFilter
