import RecordFilter.Comparison

/-! # Clauses

A clause names a field and compares it. It is read from a query text with its value as text, and
then gets a comparison of its declared type. Only valid comparisons make clauses.

* `Header`, `RawClause`: a clause as written.
* `Clause.ofComparison`: the checked constructor. It succeeds exactly on valid comparisons
  (`Clause.ofComparison_eq_ok_iff`). -/

namespace RecordFilter

/-! ## Clauses as written -/

/-- What stands before the value of a clause. -/
structure Header where
  /-- The declared type. -/
  type : FieldType
  /-- The field name. -/
  field : String
  /-- The operator. -/
  operator : Operator
  deriving DecidableEq, Repr

/-- A clause with its value as text. -/
structure RawClause extends Header where
  /-- The value text, or the texts of a group. -/
  value : Argument String
  deriving DecidableEq, Repr

/-! ## Typed clauses -/

/-- A valid comparison of a field. -/
structure Clause where
  /-- The field name. -/
  field : String
  /-- The comparison. -/
  comparison : Comparison
  /-- It is valid. -/
  valid : comparison.Valid
  deriving DecidableEq

namespace Clause

/-- The declared type. -/
def type (clause : Clause) : FieldType := clause.comparison.type

/-- The operator. -/
def operator (clause : Clause) : Operator := clause.comparison.operator

/-- The clause with the given comparison, or the fault of the comparison. -/
def ofComparison (field : String) (comparison : Comparison) : Except Fault Clause :=
  match found : comparison.fault? field with
  | some fault => .error fault
  | none => .ok ⟨field, comparison, (Comparison.fault?_eq_none_iff field).1 found⟩

/-- A valid comparison makes a clause. -/
theorem ofComparison_of_valid (field : String) {comparison : Comparison}
    (valid : comparison.Valid) :
    ofComparison field comparison = .ok ⟨field, comparison, valid⟩ := by
  have none := (Comparison.fault?_eq_none_iff field).2 valid
  unfold ofComparison
  split
  · next fault found => simp [none] at found
  · rfl

/-- A fault of the comparison is the answer. -/
theorem ofComparison_of_fault {field : String} {comparison : Comparison} {fault : Fault}
    (found : comparison.fault? field = some fault) :
    ofComparison field comparison = .error fault := by
  unfold ofComparison
  split
  · next other again => simp_all
  · next none => simp [none] at found

/-- A clause is made from exactly its own field and comparison. -/
theorem ofComparison_eq_ok_iff {field : String} {comparison : Comparison} {clause : Clause} :
    ofComparison field comparison = .ok clause
      ↔ clause.field = field ∧ clause.comparison = comparison := by
  constructor
  · intro made
    unfold ofComparison at made
    split at made
    · cases made
    · cases made
      exact ⟨rfl, rfl⟩
  · obtain ⟨_, _, valid⟩ := clause
    rintro ⟨rfl, rfl⟩
    exact ofComparison_of_valid _ valid

end Clause

end RecordFilter
