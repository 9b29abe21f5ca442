import RecordFilter.Pattern.Engine
import RecordFilter.Proofs.Traversal

/-! # Opposite criteria

Most operators have a complement, which asks the opposite question. Asked of several values, the
opposite question combines the answers the other way, so it swaps the delimiter of a group.

* `Operator.complement?`: the complement of an operator.
* `Argument.dual`, `Operator.Turns`: the argument of the opposite question.
* `Comparison.Opposed`: comparisons that ask opposite questions.
* `FieldType.Covers`: the field values that the question is about.
* `Criterion.holds_of_opposed`: opposite questions have opposite answers. -/

namespace RecordFilter

variable {α β : Type} {engine : PatternEngine}

/-! ## Answers for several values -/

/-- The connective that combines opposite answers into the opposite answer. -/
def Connective.dual : Connective → Connective
  | all => any
  | any => all

/-- Opposite answers combine into the opposite answer. -/
theorem Connective.combine_dual (connective : Connective) {test opposite : α → Bool}
    {values : List α} (opposed : ∀ value ∈ values, opposite value = !test value) :
    connective.dual.combine opposite values = !connective.combine test values := by
  induction values with
  | nil => cases connective <;> rfl
  | cons value rest induction =>
      obtain ⟨head, tail⟩ := List.forall_mem_cons.1 opposed
      have later := induction tail
      cases connective with
      | all =>
          change (opposite value || rest.any opposite) = !(test value && rest.all test)
          rw [head, Bool.not_and]
          exact congrArg (!test value || ·) later
      | any =>
          change (opposite value && rest.all opposite) = !(test value || rest.any test)
          rw [head, Bool.not_or]
          exact congrArg (!test value && ·) later

/-- The other delimiter. -/
def Delimiter.dual : Delimiter → Delimiter
  | comma => pipe
  | pipe => comma

/-- The other delimiter combines answers the other way. -/
theorem Delimiter.connective_dual (delimiter : Delimiter) :
    delimiter.dual.connective = delimiter.connective.dual := by
  cases delimiter <;> rfl

namespace Argument

/-- The argument with the other delimiter, if it is a group. -/
def dual : Argument α → Argument α
  | one value => one value
  | group values delimiter => group values delimiter.dual

@[simp] theorem values_dual (argument : Argument α) : argument.dual.values = argument.values := by
  cases argument <;> rfl

/-- Opposite answers, one for each value of an argument, combine into the opposite answer. -/
theorem combine_connective_dual {argument : Argument α} {members : List β}
    {test opposite : β → Bool} (size : members.length = argument.values.length)
    (opposed : ∀ member ∈ members, opposite member = !test member) :
    argument.dual.connective.combine opposite members
      = !argument.connective.combine test members := by
  cases argument with
  | one value =>
      -- a single answer is the combined one
      obtain ⟨member, rfl⟩ := List.length_eq_one_iff.1 size
      change (opposite member && true) = !(test member && true)
      rw [Bool.and_true, Bool.and_true]
      exact opposed member List.mem_cons_self
  | group values delimiter =>
      change delimiter.dual.connective.combine opposite members = _
      rw [Delimiter.connective_dual]
      exact delimiter.connective.combine_dual opposed

/-- Opposite answers for the values of an argument combine into the opposite answer. -/
theorem combine_dual {argument : Argument α} {test opposite : α → Bool}
    (opposed : ∀ value ∈ argument.values, opposite value = !test value) :
    argument.dual.combine opposite = !argument.combine test := by
  rw [combine, values_dual]
  exact combine_connective_dual rfl opposed

end Argument

/-! ## Operators -/

namespace Operator

/-- The operator that asks the opposite question. A range and its outside both exclude the bounds,
so they are no complements. -/
def complement? : Operator → Option Operator
  | equal => some notEqual
  | notEqual => some equal
  | greater => some lessEqual
  | greaterEqual => some less
  | less => some greaterEqual
  | lessEqual => some greater
  | oneOf => some noneOf
  | noneOf => some oneOf
  | matching => some notMatching
  | notMatching => some matching
  | isNull => some isNotNull
  | isNotNull => some isNull
  | between | outside => none

/-- The argument of the opposite question. Whether the field is one of the values does not depend on
how they are written, so the same values in any shape will do. Otherwise the delimiter is the other
one. -/
def Turns (operator : Operator) (left right : Argument α) : Prop :=
  match operator with
  | oneOf | noneOf => right.values = left.values
  | _ => right = left.dual

/-- The opposite question has the same values. -/
theorem Turns.values_eq {operator : Operator} {left right : Argument α}
    (turned : operator.Turns left right) : right.values = left.values := by
  unfold Turns at turned
  split at turned
  · exact turned
  · exact turned
  · rw [turned, Argument.values_dual]

/-- The opposite question about an order has the opposite answer, if the field compares with every
value. -/
theorem holdsInOrder_of_turns {left right : Operator} {argument other : Argument α}
    {order? : α → Option Ordering} (legal : FieldType.number.allows left = true)
    (complement : left.complement? = some right) (turned : left.Turns argument other)
    (compared : ∀ value ∈ argument.values, ∃ order, order? value = some order) :
    right.holdsInOrder other order? = !left.holdsInOrder argument order? := by
  have same := turned.values_eq
  cases left with
  | equal | notEqual | greater | greaterEqual | less | lessEqual =>
      cases complement
      obtain rfl : other = argument.dual := turned
      refine Argument.combine_dual fun value member => ?_
      obtain ⟨order, found⟩ := compared value member
      rw [found]
      cases order <;> rfl
  | oneOf =>
      cases complement
      rw [holdsInOrder, holdsInOrder, same]
      refine Connective.any.combine_dual fun value member => ?_
      obtain ⟨order, found⟩ := compared value member
      rw [found]
      cases order <;> rfl
  | noneOf =>
      cases complement
      rw [holdsInOrder, holdsInOrder, same]
      refine Connective.all.combine_dual fun value member => ?_
      obtain ⟨order, found⟩ := compared value member
      rw [found]
      cases order <;> rfl
  | between | outside => cases complement
  | matching | notMatching | isNull | isNotNull => cases legal

end Operator

/-! ## Comparisons -/

/-- The field values that a clause of the type is about: those of the type, except for numbers that
are none. A clause about null is about every value. -/
inductive FieldType.Covers : FieldType → FieldValue → Prop
  /-- A text. -/
  | string (text : String) : Covers .string (.string text)
  /-- A truth value. -/
  | boolean (value : Bool) : Covers .boolean (.boolean value)
  /-- A number that is one. -/
  | number {number : Binary64} (proper : number.isNaN = false) : Covers .number (.number number)
  /-- An instant. -/
  | date (instant : Instant) : Covers .date (.date instant)
  /-- Any value. -/
  | null (value : FieldValue) : Covers .null value

/-- Comparisons that ask opposite questions. -/
inductive Comparison.Opposed : Comparison → Comparison → Prop
  /-- Opposite questions about a text. -/
  | string {left right : Operator} {argument other : Argument String}
      (complement : left.complement? = some right) (turned : left.Turns argument other) :
      Opposed (.string left argument) (.string right other)
  /-- Opposite questions about a truth value. -/
  | boolean {left right : Operator} (complement : left.complement? = some right) (value : Bool) :
      Opposed (.boolean left value) (.boolean right value)
  /-- Opposite questions about a number. -/
  | number {left right : Operator} {argument other : Argument Binary64}
      (complement : left.complement? = some right) (turned : left.Turns argument other) :
      Opposed (.number left argument) (.number right other)
  /-- Opposite questions about an instant. -/
  | date {left right : Operator} {argument other : Argument Instant}
      (complement : left.complement? = some right) (turned : left.Turns argument other) :
      Opposed (.date left argument) (.date right other)
  /-- Opposite questions about null. -/
  | null {left right : Operator} (complement : left.complement? = some right) :
      Opposed (.null left) (.null right)

/-- Opposite questions have the same patterns. -/
theorem Comparison.Opposed.patternTexts_eq {left right : Comparison}
    (opposed : left.Opposed right) : right.patternTexts = left.patternTexts := by
  cases opposed with
  | @string left right argument other complement turned =>
      have same := turned.values_eq
      cases left with
      | matching | notMatching =>
          cases complement
          exact same
      | between | outside => cases complement
      | _ =>
          cases complement
          rfl
  | boolean complement value => rfl
  | number complement turned => rfl
  | date complement turned => rfl
  | null complement => rfl

/-- A finite number is a number. -/
theorem Binary64.isNaN_of_isFinite {number : Binary64} (finite : number.isFinite = true) :
    number.isNaN = false := by
  rw [isFinite, decide_eq_true_eq] at finite
  rw [isNaN, decide_eq_false_iff_not]
  exact Nat.not_lt.2 (Nat.le_of_lt finite)

/-- Numbers compare as their keys do. -/
theorem Binary64.compare?_eq_some {left right : Binary64} (first : left.isNaN = false)
    (second : right.isNaN = false) : left.compare? right = some (compare left.key right.key) := by
  rw [compare?, first, second]
  rfl

/-- A number compares with every finite number. -/
theorem Binary64.exists_compare?_eq_some {number value : Binary64} (proper : number.isNaN = false)
    (finite : value.isFinite = true) : ∃ order, number.compare? value = some order :=
  ⟨_, compare?_eq_some proper (isNaN_of_isFinite finite)⟩

/-! ## Criteria -/

namespace Criterion

/-- The opposite question about a text has the opposite answer. -/
theorem holdsForText_of_turns {left right : Operator} {argument other : Argument String}
    {patterns : List engine.Pattern} (legal : FieldType.string.allows left = true)
    (complement : left.complement? = some right) (turned : left.Turns argument other)
    (size : (Comparison.string left argument).patternTexts.length = patterns.length)
    (text : String) :
    holdsForText patterns right other text = !holdsForText patterns left argument text := by
  have same := turned.values_eq
  cases left with
  | equal | notEqual =>
      cases complement
      obtain rfl : other = argument.dual := turned
      refine Argument.combine_dual fun value member => ?_
      cases text == value <;> rfl
  | oneOf | noneOf =>
      cases complement
      rw [holdsForText, holdsForText, same]
      cases argument.values.contains text <;> rfl
  | matching | notMatching =>
      cases complement
      obtain rfl : other = argument.dual := turned
      refine Argument.combine_connective_dual size.symm fun pattern member => ?_
      cases engine.isMatch pattern text <;> rfl
  | between | outside => cases complement
  | greater | greaterEqual | less | lessEqual | isNull | isNotNull => cases legal

/-- There is a pattern for each text. -/
theorem length_patterns {clause : Clause} {criterion : Criterion engine}
    (compiled : compile engine clause = .ok criterion) :
    clause.comparison.patternTexts.length = criterion.patterns.length :=
  (mapM_eq_ok_iff_forall₂.1 (compile_eq_ok_iff.1 compiled).2).length_eq

/-- Opposite questions have the same patterns once they are compiled. -/
theorem patterns_eq {left right : Clause} {first second : Criterion engine}
    (opposed : left.comparison.Opposed right.comparison)
    (compiled : compile engine left = .ok first) (also : compile engine right = .ok second) :
    second.patterns = first.patterns := by
  have patterns := (compile_eq_ok_iff.1 compiled).2
  have others := (compile_eq_ok_iff.1 also).2
  rw [opposed.patternTexts_eq, patterns] at others
  exact (Except.ok.inj others).symm

/-- A clause has a criterion exactly if its texts have patterns. -/
theorem exists_compile_eq_ok_iff {clause : Clause} :
    (∃ criterion, compile engine clause = .ok criterion)
      ↔ ∃ patterns, clause.comparison.patternTexts.mapM (compilePattern engine) = .ok patterns := by
  simp only [compile_eq_ok_iff]
  constructor
  · rintro ⟨criterion, -, found⟩
    exact ⟨criterion.patterns, found⟩
  · rintro ⟨patterns, found⟩
    exact ⟨⟨clause, patterns⟩, rfl, found⟩

/-- **Opposite questions have opposite answers.** Let two clauses ask opposite questions: with
complementary operators, about the same values, and with the other delimiter unless the question is
whether the field is one of the values. Then either of them has a criterion if the other one has,
and on every field value that the clauses are about exactly one of the two criteria holds. -/
theorem holds_of_opposed (engine : PatternEngine) (left right : Clause)
    (opposed : left.comparison.Opposed right.comparison) :
    ((∃ first, compile engine left = .ok first) ↔ ∃ second, compile engine right = .ok second)
    ∧ ∀ first second, compile engine left = .ok first → compile engine right = .ok second →
      ∀ value, left.type.Covers value → second.holds value = !first.holds value := by
  refine ⟨?_, fun first second compiled also value covered => ?_⟩
  · rw [exists_compile_eq_ok_iff, exists_compile_eq_ok_iff, opposed.patternTexts_eq]
  · have size := length_patterns compiled
    have patterns := patterns_eq opposed compiled also
    have own := (compile_eq_ok_iff.1 compiled).1
    have other := (compile_eq_ok_iff.1 also).1
    unfold holds
    rw [own, other, patterns]
    obtain ⟨_, comparison, ⟨legal, _, finite⟩⟩ := left
    obtain ⟨_, question, _⟩ := right
    cases opposed with
    | string complement turned =>
        cases covered with
        | string text => exact holdsForText_of_turns legal complement turned size text
    | @boolean left _ complement expected =>
        cases covered with
        | boolean actual =>
            cases left with
            | equal | notEqual =>
                cases complement
                change ((actual == expected) != _) = !((actual == expected) != _)
                cases actual == expected <;> rfl
            | _ => cases legal
    | @number _ _ argument _ complement turned =>
        cases covered with
        | number proper =>
            have each : ∀ bound ∈ argument.values, bound.isFinite = true := by
              simpa [Comparison.nonFinite?] using finite
            exact Operator.holdsInOrder_of_turns legal complement turned fun bound member =>
              Binary64.exists_compare?_eq_some proper (each bound member)
    | date complement turned =>
        cases covered with
        | date instant =>
            rw [Comparison.type, Comparison.operator, FieldType.allows_date] at legal
            exact Operator.holdsInOrder_of_turns legal complement turned fun bound _ => ⟨_, rfl⟩
    | @null left _ complement =>
        cases left with
        | isNull | isNotNull =>
            cases complement
            change (value.isNull != _) = !(value.isNull != _)
            cases value.isNull <;> rfl
        | _ => cases legal

/-- All of two patterns found, and one of them not found. -/
theorem holds_of_opposed_patterns :
    ∃ first second,
      compile regularExpressions
          ⟨"f", .string .matching (.group ["a", "b"] .comma), ⟨rfl, nofun, rfl⟩⟩ = .ok first
      ∧ compile regularExpressions
          ⟨"f", .string .notMatching (.group ["a", "b"] .pipe), ⟨rfl, nofun, rfl⟩⟩ = .ok second
      ∧ second.holds (.string "ac") = !first.holds (.string "ac") := by
  have opposed : Comparison.Opposed (.string .matching (.group ["a", "b"] .comma))
      (.string .notMatching (.group ["a", "b"] .pipe)) := .string rfl rfl
  have opposite := holds_of_opposed regularExpressions
    ⟨"f", .string .matching (.group ["a", "b"] .comma), ⟨rfl, nofun, rfl⟩⟩
    ⟨"f", .string .notMatching (.group ["a", "b"] .pipe), ⟨rfl, nofun, rfl⟩⟩ opposed
  exact ⟨_, _, rfl, rfl, opposite.2 _ _ rfl rfl _ (.string "ac")⟩

end Criterion

end RecordFilter
