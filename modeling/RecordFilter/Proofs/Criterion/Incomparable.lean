import RecordFilter.Proofs.Criterion.Expansion

/-! # Numbers that compare with nothing

A bit pattern that is not a number compares with no value, so no answer about a value can be
positive for it. What is left are questions that ask nothing: an operator that wants all of its
values to agree holds for every field if there are no values.

* `Operator.Vacuous`: the operators and arguments that ask nothing.
* `Operator.holdsInOrder_iff_of_apart`: what holds for a field that compares with no value.
* `Criterion.nan_satisfies_vacuous_only`: the criteria that hold for what is not a number. -/

namespace RecordFilter

variable {α : Type} {engine : PatternEngine} {criterion : Criterion engine} {field : String}
  {operator : Operator} {argument : Argument α}

/-! ## Arguments without a positive answer -/

namespace Argument

/-- Tests that agree on the values have the same combined answer. -/
theorem combine_congr {test probe : α → Bool}
    (same : ∀ value ∈ argument.values, test value = probe value) :
    argument.combine test = argument.combine probe :=
  argument.connective.combine_eq_of_forall₂ (List.forall₂_same.2 same)

/-- Without a positive answer only the empty comma group has a positive combined answer. -/
theorem combine_iff_of_refused {test : α → Bool}
    (refused : ∀ value ∈ argument.values, test value = false) :
    argument.combine test = true ↔ argument = .group [] .comma := by
  by_cases nonempty : argument.values = []
  · cases argument with
    | one value => cases nonempty
    | group values delimiter =>
        obtain rfl : values = [] := nonempty
        cases delimiter with
        | comma => exact ⟨fun _ => rfl, fun _ => rfl⟩
        | pipe => exact ⟨nofun, nofun⟩
  · rw [combine_congr refused, combine_false nonempty]
    constructor
    · intro holds
      cases holds
    · rintro rfl
      exact absurd rfl nonempty

end Argument

/-! ## Questions that ask nothing -/

namespace Operator

/-- The operators and arguments that ask nothing. -/
inductive Vacuous : Operator → Argument α → Prop
  /-- To be none of no values, whatever the shape. -/
  | noneOf {argument : Argument α} (empty : argument.values = []) : Vacuous .noneOf argument
  /-- An answer for each of no values, all of which have to agree. -/
  | comma {operator : Operator} (elementwise : operator.isElementwise = true) :
      Vacuous operator (.group [] .comma)

/-- Only an argument without values asks nothing. -/
theorem Vacuous.values_eq (vacuous : operator.Vacuous argument) : argument.values = [] := by
  cases vacuous with
  | noneOf empty => exact empty
  | comma elementwise => rfl

/-- What asks nothing holds in every order. -/
theorem Vacuous.holdsInOrder (vacuous : operator.Vacuous argument)
    (order? : α → Option Ordering) : operator.holdsInOrder argument order? = true := by
  cases vacuous with
  | noneOf empty =>
      show (argument.values.all fun value => (order? value).any (· != .eq)) = true
      rw [empty]
      rfl
  | comma elementwise =>
      rw [Criterion.holdsInOrder_of_isElementwise elementwise]
      rfl

/-- For a field that compares with no value an operator holds exactly if it asks nothing. -/
theorem holdsInOrder_iff_of_apart {order? : α → Option Ordering}
    (legal : FieldType.number.allows operator = true)
    (apart : ∀ value ∈ argument.values, order? value = none) :
    operator.holdsInOrder argument order? = true ↔ operator.Vacuous argument := by
  refine ⟨fun holds => ?_, fun vacuous => vacuous.holdsInOrder order?⟩
  have elementwise (each : operator.isElementwise = true) : operator.Vacuous argument := by
    rw [Criterion.holdsInOrder_of_isElementwise each] at holds
    have refused : ∀ value ∈ argument.values, (order? value).any operator.accepts = false := by
      intro value member
      rw [apart value member]
      rfl
    obtain rfl := (Argument.combine_iff_of_refused refused).1 holds
    exact .comma each
  cases operator with
  | equal | notEqual | greater | greaterEqual | less | lessEqual => exact elementwise rfl
  | between | outside =>
      -- both bounds are apart from the field
      simp only [holdsInOrder] at holds
      split at holds
      · next lower upper two =>
          rw [two] at apart
          rw [apart lower (by simp), apart upper (by simp)] at holds
          cases holds
      · cases holds
  | oneOf =>
      obtain ⟨value, member, equal⟩ := List.any_eq_true.1 holds
      rw [apart value member] at equal
      cases equal
  | noneOf =>
      refine .noneOf (List.eq_nil_iff_forall_not_mem.2 fun value member => ?_)
      have differs := List.all_eq_true.1 holds value member
      rw [apart value member] at differs
      cases differs
  | matching | notMatching | isNull | isNotNull => cases legal

end Operator

/-! ## What is not a number -/

/-- What is not a number compares with nothing. -/
theorem Binary64.compare?_of_isNaN {number : Binary64} (improper : number.isNaN = true)
    (value : Binary64) : number.compare? value = none := by
  rw [compare?, improper, Bool.true_or, if_pos rfl]

namespace Criterion

/-- What is not a number satisfies exactly the questions about numbers that ask nothing. -/
theorem holds_iff_vacuous_of_isNaN {numbers : Argument Binary64} {number : Binary64}
    (isFor : criterion.IsFor field (.number operator numbers)) (improper : number.isNaN = true) :
    criterion.holds (.number number) = true ↔ operator.Vacuous numbers := by
  have valid := (isFor_iff.1 isFor).2.1 ▸ criterion.clause.valid
  obtain ⟨legal, -⟩ := Comparison.valid_number_iff.1 valid
  rw [isFor.holds_number]
  exact Operator.holdsInOrder_iff_of_apart legal fun value _ =>
    Binary64.compare?_of_isNaN improper value

/-- **What is not a number satisfies only what asks nothing.** Every clause about numbers has a
criterion. If it has a value to compare with, then the criterion does not hold for what is not a
number. In general it holds there exactly if it asks nothing: there are no values, and all of them
would have to agree, be it in a comma group or because the field has to be none of them. Such a
criterion holds for every number as well. -/
theorem nan_satisfies_vacuous_only (engine : PatternEngine) (field : String) (operator : Operator)
    (numbers : Argument Binary64) (clause : Clause)
    (made : Clause.ofComparison field (.number operator numbers) = .ok clause) :
    ∃ criterion : Criterion engine, compile engine clause = .ok criterion
      ∧ (numbers.values ≠ [] → ∀ number : Binary64, number.isNaN = true →
          criterion.holds (.number number) = false)
      ∧ (∀ number : Binary64, number.isNaN = true →
          (criterion.holds (.number number) = true ↔ operator.Vacuous numbers))
      ∧ (operator.Vacuous numbers → ∀ number, criterion.holds (.number number) = true) := by
  obtain ⟨-, same⟩ := Clause.ofComparison_eq_ok_iff.1 made
  -- a clause about numbers has no patterns that could be refused
  have compiled : compile engine clause = .ok ⟨clause, []⟩ :=
    compile_of_patternTexts_eq_nil (by rw [same]; rfl)
  have isFor : (⟨clause, []⟩ : Criterion engine).IsFor field (.number operator numbers) :=
    ⟨clause, made, compiled⟩
  refine ⟨⟨clause, []⟩, compiled, ?_, ?_, ?_⟩
  · intro nonempty number improper
    rw [Bool.eq_false_iff, ne_eq, holds_iff_vacuous_of_isNaN isFor improper]
    exact fun vacuous => nonempty vacuous.values_eq
  · intro number improper
    exact holds_iff_vacuous_of_isNaN isFor improper
  · intro vacuous number
    rw [isFor.holds_number]
    exact vacuous.holdsInOrder number.compare?

/-- What is not a number is not found to differ from one and a half. -/
theorem nan_satisfies_vacuous_only_noneOf :
    ∃ clause, Clause.ofComparison "n"
        (.number .noneOf (.group [⟨false, 0x3ff8000000000000, by decide⟩] .comma)) = .ok clause
      ∧ ∃ criterion : Criterion regularExpressions,
        compile regularExpressions clause = .ok criterion
        ∧ Binary64.nan.isNaN = true ∧ criterion.holds (.number .nan) = false := by
  refine ⟨_, rfl, ?_⟩
  obtain ⟨criterion, compiled, refused, -⟩ := nan_satisfies_vacuous_only regularExpressions "n"
    .noneOf (.group [⟨false, 0x3ff8000000000000, by decide⟩] .comma) _ rfl
  have improper : Binary64.nan.isNaN = true := rfl
  exact ⟨criterion, compiled, improper, refused (List.cons_ne_nil _ _) .nan improper⟩

/-- Two groups without values are clauses, and what is not a number satisfies both: it is said to
be none of no values, and to be equal to all of no values. -/
theorem nan_satisfies_empty_groups :
    ∃ none equal : Criterion regularExpressions,
      none.IsFor "n" (.number .noneOf (.group [] .comma))
      ∧ equal.IsFor "n" (.number .equal (.group [] .comma))
      ∧ none.holds (.number .nan) = true ∧ equal.holds (.number .nan) = true :=
  ⟨_, _, ⟨_, rfl, rfl⟩, ⟨_, rfl, rfl⟩, rfl, rfl⟩

end Criterion

end RecordFilter
