/-! # Comparison operators

The operators a clause may use, with the token each is written as and the name it is known by.

* `Operator.token`, `Operator.ofToken?`: writing an operator and reading it back; the two are
  inverse (`Operator.ofToken?_eq_some_iff`).
* `Operator.isRange`, `Operator.isNegated`: the two-bound operators, and the negated halves of the
  operator pairs.
* `Operator.accepts`: which outcomes of an element-wise comparison satisfy the operator. -/

namespace RecordFilter

/-- An operator of a clause. -/
inductive Operator
  /-- The field equals the value. -/
  | equal
  /-- The field differs from the value. -/
  | notEqual
  /-- The field is above the value. -/
  | greater
  /-- The field is above the value or equal to it. -/
  | greaterEqual
  /-- The field is below the value. -/
  | less
  /-- The field is below the value or equal to it. -/
  | lessEqual
  /-- The field lies strictly between two bounds. -/
  | between
  /-- The field lies strictly outside two bounds. -/
  | outside
  /-- The field is one of the values. -/
  | oneOf
  /-- The field is none of the values. -/
  | noneOf
  /-- The field matches the pattern. -/
  | matching
  /-- The field does not match the pattern. -/
  | notMatching
  /-- The field is null. -/
  | isNull
  /-- The field is not null. -/
  | isNotNull
  deriving DecidableEq, Repr

namespace Operator

/-! ## Tokens and names -/

/-- Every operator, in the order of the registry. -/
def all : List Operator :=
  [equal, notEqual, greater, greaterEqual, less, lessEqual, between, outside, oneOf, noneOf,
    matching, notMatching, isNull, isNotNull]

/-- The registry is complete. -/
@[simp] theorem mem_all (operator : Operator) : operator ∈ all := by
  cases operator <;> decide

/-- The token that stands for the operator in a query text. -/
def token : Operator → String
  | equal => "="
  | notEqual => "!="
  | greater => ">"
  | greaterEqual => ">="
  | less => "<"
  | lessEqual => "<="
  | between => "><"
  | outside => ">!<"
  | oneOf => "<>"
  | noneOf => "<!>"
  | matching => "~"
  | notMatching => "!~"
  | isNull => "!!"
  | isNotNull => "!"

/-- The descriptive name of the operator. -/
def name : Operator → String
  | equal => "equal"
  | notEqual => "not-equal"
  | greater => "greater"
  | greaterEqual => "greater-equal"
  | less => "less"
  | lessEqual => "less-equal"
  | between => "range"
  | outside => "not-range"
  | oneOf => "membership"
  | noneOf => "not-membership"
  | matching => "matches"
  | notMatching => "not-matches"
  | isNull => "is"
  | isNotNull => "is-not"

/-- The operator written as the given token. -/
def ofToken? (text : String) : Option Operator :=
  all.find? fun operator => operator.token == text

/-- Different operators have different tokens. -/
theorem token_injective {left right : Operator} (equal : left.token = right.token) :
    left = right := by
  revert equal
  cases left <;> cases right <;> decide

/-- A token reads as an operator exactly if it is the token of that operator. -/
theorem ofToken?_eq_some_iff {text : String} {operator : Operator} :
    ofToken? text = some operator ↔ operator.token = text := by
  constructor
  · intro found
    simpa using List.find?_some found
  · rintro rfl
    cases operator <;> decide

/-! ## Kinds of operator -/

/-- The operators that take a lower and an upper bound. -/
def isRange : Operator → Bool
  | between | outside => true
  | _ => false

/-- The negated operator of each pair. -/
def isNegated : Operator → Bool
  | notEqual | outside | noneOf | notMatching | isNotNull => true
  | _ => false

/-- Whether the operator holds for a field that compares so with a clause value. Only equality and
the four order operators compare element by element. -/
def accepts : Operator → Ordering → Bool
  | equal, order => order == .eq
  | notEqual, order => order != .eq
  | greater, order => order == .gt
  | greaterEqual, order => order != .lt
  | less, order => order == .lt
  | lessEqual, order => order != .gt
  | _, _ => false

end Operator

end RecordFilter
