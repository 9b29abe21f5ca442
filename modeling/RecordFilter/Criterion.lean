import RecordFilter.Clause.Basic
import RecordFilter.FieldValue

/-! # Criteria

A criterion is a clause that is ready to be tested: the patterns it needs are compiled.

* `PatternEngine`: how patterns are compiled and tested.
* `Criterion.compile`: make a clause ready; this fails on a pattern that cannot be compiled.
* `Criterion.holds`: whether a field value satisfies the clause. A value of another type than the
  declared one satisfies no clause, and null only the clause that asks for null. -/

namespace RecordFilter

/-- A way to compile and test patterns. -/
structure PatternEngine where
  /-- Compiled patterns. -/
  Pattern : Type
  /-- The pattern that a text stands for. -/
  compile? : String → Option Pattern
  /-- Whether a text contains a match of the pattern. -/
  isMatch : Pattern → String → Bool

/-! ## Comparisons by order -/

/-- Whether the operator holds for a field that compares to each value as given. Without a common
order it does not hold. -/
def Operator.holdsInOrder (operator : Operator) (argument : Argument α)
    (order? : α → Option Ordering) : Bool :=
  match operator with
  | .between =>
      match argument.values with
      | [lower, upper] => order? lower == some .gt && order? upper == some .lt
      | _ => false
  | .outside =>
      match argument.values with
      | [lower, upper] => order? lower == some .lt || order? upper == some .gt
      | _ => false
  | .oneOf => argument.values.any fun value => order? value == some .eq
  | .noneOf => argument.values.all fun value => (order? value).any (· != .eq)
  | _ => argument.combine fun value => (order? value).any operator.accepts

/-! ## Criteria -/

/-- A clause with the compiled patterns of its argument. -/
structure Criterion (engine : PatternEngine) where
  /-- The clause. -/
  clause : Clause
  /-- The patterns, if the operator matches patterns. -/
  patterns : List engine.Pattern

/-- The values of a comparison that are patterns. -/
def Comparison.patternTexts : Comparison → List String
  | .string .matching argument | .string .notMatching argument => argument.values
  | _ => []

namespace Criterion

variable {engine : PatternEngine}

/-- The pattern that a text stands for, or the fault of the text. -/
def compilePattern (engine : PatternEngine) (text : String) : Except Fault engine.Pattern :=
  match engine.compile? text with
  | some pattern => .ok pattern
  | none => .error (.invalidPattern text)

/-- Compile the patterns of a clause. The first text that is no pattern is the fault. -/
def compile (engine : PatternEngine) (clause : Clause) : Except Fault (Criterion engine) :=
  (clause.comparison.patternTexts.mapM (compilePattern engine)).map fun patterns =>
    ⟨clause, patterns⟩

/-- A criterion is made from exactly its own clause, with the patterns that its texts stand for. -/
theorem compile_eq_ok_iff {clause : Clause} {criterion : Criterion engine} :
    compile engine clause = .ok criterion
      ↔ criterion.clause = clause
        ∧ clause.comparison.patternTexts.mapM (compilePattern engine) = .ok criterion.patterns := by
  obtain ⟨own, patterns⟩ := criterion
  unfold compile
  cases clause.comparison.patternTexts.mapM (compilePattern engine) with
  | error fault => simp [Except.map]
  | ok found => simp [Except.map, eq_comm]

/-- The field that is tested. -/
def field (criterion : Criterion engine) : String := criterion.clause.field

/-- The field of a clause is the one that its criterion tests. -/
theorem field_of_compile {clause : Clause} {criterion : Criterion engine}
    (compiled : compile engine clause = .ok criterion) : criterion.field = clause.field :=
  congrArg Clause.field (compile_eq_ok_iff.1 compiled).1

/-- Whether a text satisfies a string comparison. -/
def holdsForText (patterns : List engine.Pattern) (operator : Operator)
    (argument : Argument String) (text : String) : Bool :=
  match operator with
  | .equal | .notEqual => argument.combine fun value => (text == value) != operator.isNegated
  | .oneOf | .noneOf => argument.values.contains text != operator.isNegated
  | .matching | .notMatching =>
      argument.connective.combine (fun pattern => engine.isMatch pattern text != operator.isNegated)
        patterns
  | _ => false

/-- Whether a field value satisfies the criterion. -/
def holds (criterion : Criterion engine) (value : FieldValue) : Bool :=
  match criterion.clause.comparison, value with
  | .null operator, value =>
      match operator with
      | .isNull | .isNotNull => value.isNull != operator.isNegated
      | _ => false
  | .string operator argument, .string text =>
      holdsForText criterion.patterns operator argument text
  | .boolean operator expected, .boolean actual =>
      match operator with
      | .equal | .notEqual => (actual == expected) != operator.isNegated
      | _ => false
  | .number operator argument, .number number =>
      operator.holdsInOrder argument number.compare?
  | .date operator argument, .date instant =>
      operator.holdsInOrder argument fun bound => some (instant.compareTo bound)
  | _, _ => false

end Criterion

end RecordFilter
