import RecordFilter.Proofs.Criterion.Elementwise
import RecordFilter.Proofs.Filter.Conjunction
import RecordFilter.Proofs.Filter.Selection

/-! # Field values that a clause is not about

A clause about texts, truth values, numbers or instants does not hold for null or for a value of
another type, be its operator negated or its group empty. So an item with such a field leaves no
trace in what a filter with the clause finds. Only clauses about null look at null, and they look at
nothing else.

* `Clause.Mismatches`: what a clause is not about, and `Criterion.holds_of_mismatches`: its answer.
* `Criterion.holds_null_iff`: the answers of the clauses about null.
* `Filter.accepts_of_mismatches`: an item with such a field is refused.
* `Filter.select_remove_refused`, `Filter.answers_of_select_eq`: without a refused item a filter
  finds the same.
* `Filter.mismatch_never_selected`: all of this together. -/

namespace RecordFilter

universe u

variable {engine : PatternEngine} {clause : Clause} {clauses : List Clause}
  {criterion : Criterion engine} {filter : Filter engine} {operator : Operator}
  {content : FieldValue} {α : Type u} {read : α → String → FieldValue} {item : α}

/-! ## Criteria -/

/-- The clause is about a type of field values, and the content is null or of another type. -/
def Clause.Mismatches (clause : Clause) (content : FieldValue) : Prop :=
  clause.type ≠ .null ∧ (content = .null ∨ content.type ≠ clause.type)

namespace Criterion

/-- A clause does not hold for what it is not about. -/
theorem holds_of_mismatches (compiled : compile engine clause = .ok criterion)
    (mismatch : clause.Mismatches content) : criterion.holds content = false := by
  have isFor : criterion.IsFor clause.field clause.comparison :=
    ⟨clause, Clause.ofComparison_eq_ok_iff.2 ⟨rfl, rfl⟩, compiled⟩
  obtain ⟨about, rfl | other⟩ := mismatch
  · -- null has a type of its own, which the clause is not about
    exact isFor.holds_of_type_ne about about.symm
  · exact isFor.holds_of_type_ne about other

/-- A clause about null has a criterion, which holds exactly for null or exactly for the rest. -/
theorem holds_null_iff (engine : PatternEngine) (same : clause.comparison = .null operator) :
    ∃ criterion : Criterion engine, compile engine clause = .ok criterion
      ∧ ((operator = .isNull ∧ ∀ content, criterion.holds content = true ↔ content = .null)
        ∨ (operator = .isNotNull
          ∧ ∀ content, criterion.holds content = true ↔ content ≠ .null)) := by
  have legal : FieldType.null.allows operator = true := by
    have valid := clause.valid
    rw [same] at valid
    exact valid.1
  have compiled : compile engine clause = .ok ⟨clause, []⟩ :=
    compile_of_patternTexts_eq_nil (by rw [same]; rfl)
  refine ⟨⟨clause, []⟩, compiled, ?_⟩
  unfold holds
  rw [same]
  cases operator with
  | isNull =>
      refine .inl ⟨rfl, fun content => ?_⟩
      cases content <;> simp [FieldValue.isNull, Operator.isNegated]
  | isNotNull =>
      refine .inr ⟨rfl, fun content => ?_⟩
      cases content <;> simp [FieldValue.isNull, Operator.isNegated]
  | _ => cases legal

end Criterion

/-! ## Items -/

namespace Filter

/-- An item is refused if one of its fields is not what a clause is about. -/
theorem accepts_of_mismatches (compiled : compile engine clauses = .ok filter)
    (member : clause ∈ clauses) (mismatch : clause.Mismatches (read item clause.field)) :
    filter.accepts read item = false := by
  rw [Bool.eq_false_iff, ne_eq, accepts_iff_forall_clause compiled]
  intro each
  obtain ⟨criterion, made, holds⟩ := each clause member
  rw [Criterion.holds_of_mismatches made mismatch] at holds
  cases holds

/-- Lists of which the same items are selected have the same clones, arrays, counts and first
items. -/
theorem answers_of_select_eq {items others : List α}
    (same : filter.select read items = filter.select read others) :
    (∀ clone, filter.selectCloned clone read items = filter.selectCloned clone read others)
      ∧ filter.retain read items.toArray = filter.retain read others.toArray
      ∧ filter.count read items = filter.count read others
      ∧ filter.find? read items = filter.find? read others := by
  refine ⟨fun clone => ?_, ?_, ?_, ?_⟩
  · rw [selectCloned, selectCloned, same]
  · rw [retain, retain, List.filter_toArray, List.filter_toArray]
    exact congrArg List.toArray same
  · rw [count, count, List.countP_eq_length_filter, List.countP_eq_length_filter]
    exact congrArg List.length same
  · rw [find?, find?, ← List.head?_filter, ← List.head?_filter]
    exact congrArg List.head? same

section Refused

variable (refused : filter.accepts read item = false)
include refused

/-- A refused item is not selected. -/
theorem notMem_select (items : List α) : item ∉ filter.select read items := by
  intro member
  have accepted := (List.mem_filter.1 member).2
  rw [refused] at accepted
  cases accepted

/-- Without a refused item the same items are selected. -/
theorem select_remove_refused (before after : List α) :
    filter.select read (before ++ item :: after) = filter.select read (before ++ after) := by
  have negative : ¬ filter.accepts read item = true := Bool.eq_false_iff.1 refused
  rw [select, select, List.filter_append, List.filter_cons_of_neg negative, List.filter_append]

/-- A refused item is not the one that is found. -/
theorem find?_ne_some (items : List α) : filter.find? read items ≠ some item := by
  intro found
  have accepted : filter.accepts read item = true := List.find?_some found
  rw [refused] at accepted
  cases accepted

/-- The position is not the index of a refused item. -/
theorem position?_ne_some {items : List α} {index : Nat} (here : items[index]? = some item) :
    filter.position? read items ≠ some index := by
  intro found
  obtain ⟨⟨other, there, accepted⟩, -⟩ := position?_eq_some_iff.1 found
  obtain rfl : item = other := Option.some_inj.1 (here.symm.trans there)
  rw [refused] at accepted
  cases accepted

end Refused

/-- **A filter never selects what a clause is not about.** Take the filter of some clauses. If a
field of an item is null or of another type than a clause about the field declares, and the clause
is not one about null, then the item is refused, whatever the other clauses are. It is not among the
items that are selected or retained, is not the one that is found, and the position is never its
index. Without it the same items are selected, cloned, retained and counted. A clause about null has
a criterion, which holds exactly for null, or exactly for everything else. -/
theorem mismatch_never_selected (engine : PatternEngine) (clauses : List Clause)
    (filter : Filter engine) (compiled : compile engine clauses = .ok filter)
    (read : α → String → FieldValue) :
    (∀ clause ∈ clauses, ∀ item : α, clause.Mismatches (read item clause.field) →
      filter.accepts read item = false
      ∧ (∀ items : List α, item ∉ filter.select read items
        ∧ item ∉ filter.retain read items.toArray
        ∧ filter.find? read items ≠ some item
        ∧ ∀ index, items[index]? = some item → filter.position? read items ≠ some index)
      ∧ ∀ before after : List α,
        filter.select read (before ++ item :: after) = filter.select read (before ++ after)
        ∧ (∀ clone, filter.selectCloned clone read (before ++ item :: after)
          = filter.selectCloned clone read (before ++ after))
        ∧ filter.retain read (before ++ item :: after).toArray
          = filter.retain read (before ++ after).toArray
        ∧ filter.count read (before ++ item :: after) = filter.count read (before ++ after)
        ∧ filter.find? read (before ++ item :: after) = filter.find? read (before ++ after))
    ∧ ∀ (clause : Clause) (operator : Operator), clause.comparison = .null operator →
      ∃ criterion : Criterion engine, Criterion.compile engine clause = .ok criterion
        ∧ ((operator = .isNull ∧ ∀ content, criterion.holds content = true ↔ content = .null)
          ∨ (operator = .isNotNull
            ∧ ∀ content, criterion.holds content = true ↔ content ≠ .null)) := by
  refine ⟨fun clause member item mismatch => ?_, fun _ _ => Criterion.holds_null_iff engine⟩
  have refused := accepts_of_mismatches compiled member mismatch
  refine ⟨refused, fun items => ⟨notMem_select refused items, ?_, find?_ne_some refused items,
    fun index here => position?_ne_some refused here⟩, fun before after => ?_⟩
  · rw [retain, List.filter_toArray, List.mem_toArray]
    exact notMem_select refused items
  · have selected := select_remove_refused refused before after
    exact ⟨selected, answers_of_select_eq selected⟩

/-- A negated question and an empty group, asked of a record without the field and of one where it
is a truth value. -/
theorem mismatch_never_selected_negated :
    ∃ filter, compile regularExpressions
        [⟨"f", .string .notMatching (.one "a"), ⟨rfl, nofun, rfl⟩⟩,
          ⟨"g", .number .noneOf (.group [] .comma), ⟨rfl, nofun, rfl⟩⟩] = .ok filter
      ∧ filter.accepts Record.value [("g", .number .zero)] = false
      ∧ [("f", .string "b"), ("g", .boolean true)]
        ∉ filter.select Record.value [[("f", .string "b"), ("g", .boolean true)]] := by
  refine ⟨_, rfl, ?_⟩
  obtain ⟨never, -⟩ := mismatch_never_selected regularExpressions
    [⟨"f", .string .notMatching (.one "a"), ⟨rfl, nofun, rfl⟩⟩,
      ⟨"g", .number .noneOf (.group [] .comma), ⟨rfl, nofun, rfl⟩⟩] _ rfl Record.value
  constructor
  · exact (never _ List.mem_cons_self _ ⟨nofun, .inl rfl⟩).1
  · exact ((never _ (List.mem_cons_of_mem _ List.mem_cons_self) _ ⟨nofun, .inr (by decide)⟩).2.1 _).1

end Filter

end RecordFilter
