import RecordFilter.Clause.Basic
import RecordFilter.Number.Decimal
import RecordFilter.Time.Reading

/-! # Typing of clauses

A clause as written gets values of its declared type.

* `Clause.ofRaw`: texts stand for themselves, numbers and instants are read from every text, and
  truth values and null are single words. Numbers and instants are read before the operator is
  checked; truth values and null after it. -/

namespace RecordFilter

namespace RawClause

/-- The values of the argument, read one by one. -/
def readValues (read? : String → Option α) (raw : RawClause) : Except Fault (Argument α) :=
  raw.value.traverse fun text =>
    match read? text with
    | some value => .ok value
    | none => .error (.valueMalformed raw.field text raw.type)

/-- The single value of a legal operator, read from a word. -/
def readWord (read? : String → Option α) (raw : RawClause) : Except Fault α :=
  if raw.type.allows raw.operator then
    match raw.value with
    | .one text =>
        match read? text with
        | some value => .ok value
        | none => .error (.valueMalformed raw.field text raw.type)
    | .group _ _ => .error (.groupUnexpected raw.field raw.type)
  else .error (.illegalOperator raw.field raw.operator raw.type)

end RawClause

/-- The truth value of a word. -/
def flagOfWord? (word : String) : Option Bool :=
  if word = "true" then some true else if word = "false" then some false else none

/-- Whether a word stands for the missing value. -/
def nullOfWord? (word : String) : Option Unit :=
  if word = "null" ∨ word = "undefined" then some () else none

namespace Clause

/-- The typed clause, or the reason why there is none. -/
def ofRaw (raw : RawClause) : Except Fault Clause :=
  match raw.type with
  | .string => ofComparison raw.field (.string raw.operator raw.value)
  | .boolean => do
      let value ← raw.readWord flagOfWord?
      ofComparison raw.field (.boolean raw.operator value)
  | .number => do
      let argument ← raw.readValues Binary64.ofText?
      ofComparison raw.field (.number raw.operator argument)
  | .date => do
      let argument ← raw.readValues Instant.ofText?
      ofComparison raw.field (.date raw.operator argument)
  | .null => do
      let () ← raw.readWord nullOfWord?
      ofComparison raw.field (.null raw.operator)

end Clause

end RecordFilter
