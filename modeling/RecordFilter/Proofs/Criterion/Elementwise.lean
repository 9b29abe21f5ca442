import RecordFilter.Pattern.Engine
import RecordFilter.Proofs.Clause.Construction
import RecordFilter.Proofs.Criterion.Complement

/-! # Questions about one value at a time

Most operators ask about each value of a group by itself, and the group joins the answers.

* `Operator.isElementwise`, `Comparison.TakesArgument`: the operators and the comparisons that are
  meant.
* `Criterion.IsFor`: the criterion of a comparison, by the checked constructor and compilation.
* `Criterion.exists_answer`: a criterion combines answers that depend on one value each.
* `Criterion.group_joins_values`: groups and the values in them. -/

namespace RecordFilter

variable {α : Type} {engine : PatternEngine} {criterion : Criterion engine} {field : String}
  {operator : Operator} {comparison : Comparison} {argument : Argument α}
  {compare : Operator → Argument α → Comparison} {content : FieldValue}

/-! ## Comparisons with an argument -/

namespace Comparison

/-- The comparisons whose argument has values: those of texts, of numbers and of instants. -/
inductive TakesArgument : {α : Type} → (Operator → Argument α → Comparison) → Prop
  /-- Comparisons of texts. -/
  | string : TakesArgument Comparison.string
  /-- Comparisons of numbers. -/
  | number : TakesArgument Comparison.number
  /-- Comparisons of instants. -/
  | date : TakesArgument Comparison.date

/-- Every legal comparison of texts is valid. -/
theorem valid_string_iff {texts : Argument String} :
    (string operator texts).Valid ↔ FieldType.string.allows operator = true := by
  simp [Valid, type, Comparison.operator, orderedSize?, nonFinite?]

/-- A legal comparison of numbers is valid if they are finite, and the two bounds of a range. -/
theorem valid_number_iff {numbers : Argument Binary64} :
    (number operator numbers).Valid
      ↔ FieldType.number.allows operator = true
        ∧ (operator.isRange = true → numbers.values.length = 2)
        ∧ ∀ number ∈ numbers.values, number.isFinite = true := by
  simp [Valid, type, Comparison.operator, orderedSize?, nonFinite?, Argument.size]

/-- A legal comparison of instants is valid if they are the two bounds of a range. -/
theorem valid_date_iff {instants : Argument Instant} :
    (date operator instants).Valid
      ↔ FieldType.date.allows operator = true
        ∧ (operator.isRange = true → instants.values.length = 2) := by
  simp [Valid, type, Comparison.operator, orderedSize?, nonFinite?, Argument.size]

end Comparison

/-! ## Operators that ask about one value at a time -/

/-- The operators that ask about one value at a time. -/
def Operator.isElementwise : Operator → Bool
  | equal | notEqual | greater | greaterEqual | less | lessEqual | matching | notMatching => true
  | _ => false

/-- No range asks about one value at a time. -/
theorem Operator.isRange_of_isElementwise (elementwise : operator.isElementwise = true) :
    operator.isRange = false := by
  cases operator with
  | between | outside => cases elementwise
  | _ => rfl

/-- A question about one value at a time is valid exactly if it is valid for each value. -/
theorem Comparison.TakesArgument.valid_iff_forall (kind : TakesArgument compare)
    (elementwise : operator.isElementwise = true) (nonempty : argument.values ≠ []) :
    (compare operator argument).Valid
      ↔ ∀ value ∈ argument.values, (compare operator (.one value)).Valid := by
  have range := Operator.isRange_of_isElementwise elementwise
  -- whether the operator is legal does not depend on the values, of which there is one at least
  obtain ⟨first, member⟩ := List.exists_mem_of_ne_nil _ nonempty
  cases kind with
  | string =>
      simp only [valid_string_iff]
      exact ⟨fun legal _ _ => legal, fun each => each first member⟩
  | number =>
      simp only [valid_number_iff, range, Bool.false_eq_true, false_implies, true_and,
        Argument.values_one, List.forall_mem_singleton]
      exact ⟨fun ⟨legal, finite⟩ value isValue => ⟨legal, finite value isValue⟩, fun each =>
        ⟨(each first member).1, fun value isValue => (each value isValue).2⟩⟩
  | date =>
      simp only [valid_date_iff, range, Bool.false_eq_true, false_implies, and_true]
      exact ⟨fun legal _ _ => legal, fun each => each first member⟩

/-! ## Criteria of comparisons -/

/-- The type that a field value is of. -/
def FieldValue.type : FieldValue → FieldType
  | null => .null
  | string _ => .string
  | number _ => .number
  | date _ => .date
  | boolean _ => .boolean

namespace Criterion

/-- The criterion is the one of the comparison of the field. -/
def IsFor (criterion : Criterion engine) (field : String) (comparison : Comparison) : Prop :=
  ∃ clause, Clause.ofComparison field comparison = .ok clause
    ∧ compile engine clause = .ok criterion

/-- The criterion of a comparison has its field, the comparison and the patterns of its texts. -/
theorem isFor_iff :
    criterion.IsFor field comparison
      ↔ criterion.clause.field = field ∧ criterion.clause.comparison = comparison
        ∧ comparison.patternTexts.mapM (compilePattern engine) = .ok criterion.patterns := by
  simp only [IsFor, Clause.ofComparison_eq_ok_iff, compile_eq_ok_iff]
  constructor
  · rintro ⟨clause, ⟨rfl, rfl⟩, rfl, found⟩
    exact ⟨rfl, rfl, found⟩
  · rintro ⟨rfl, rfl, found⟩
    exact ⟨criterion.clause, ⟨rfl, rfl⟩, rfl, found⟩

namespace IsFor

/-- It is compiled from its own clause. -/
theorem compile_eq (isFor : criterion.IsFor field comparison) :
    compile engine criterion.clause = .ok criterion := by
  obtain ⟨-, rfl, found⟩ := isFor_iff.1 isFor
  exact compile_eq_ok_iff.2 ⟨rfl, found⟩

/-- A value of another type than the declared one satisfies no comparison but one of null. -/
theorem holds_of_type_ne (isFor : criterion.IsFor field comparison)
    (about : comparison.type ≠ .null) (mismatch : content.type ≠ comparison.type) :
    criterion.holds content = false := by
  unfold holds
  rw [(isFor_iff.1 isFor).2.1]
  cases comparison <;> cases content <;>
    first | rfl | exact absurd rfl about | exact absurd rfl mismatch

/-- A comparison of texts asks about a text. -/
theorem holds_string {texts : Argument String}
    (isFor : criterion.IsFor field (.string operator texts)) (text : String) :
    criterion.holds (.string text) = holdsForText criterion.patterns operator texts text := by
  unfold holds
  rw [(isFor_iff.1 isFor).2.1]

/-- A comparison of numbers asks for the order of a number. -/
theorem holds_number {numbers : Argument Binary64}
    (isFor : criterion.IsFor field (.number operator numbers)) (number : Binary64) :
    criterion.holds (.number number) = operator.holdsInOrder numbers number.compare? := by
  unfold holds
  rw [(isFor_iff.1 isFor).2.1]

/-- A comparison of instants asks for the order of an instant. -/
theorem holds_date {instants : Argument Instant}
    (isFor : criterion.IsFor field (.date operator instants)) (instant : Instant) :
    criterion.holds (.date instant)
      = operator.holdsInOrder instants fun bound => some (instant.compareTo bound) := by
  unfold holds
  rw [(isFor_iff.1 isFor).2.1]

/-- The operator is legal for texts. -/
theorem allows_string {texts : Argument String}
    (isFor : criterion.IsFor field (.string operator texts)) :
    FieldType.string.allows operator = true :=
  Comparison.valid_string_iff.1 ((isFor_iff.1 isFor).2.1 ▸ criterion.clause.valid)

end IsFor

/-- A clause without patterns has a criterion. -/
theorem compile_of_patternTexts_eq_nil {clause : Clause}
    (none : clause.comparison.patternTexts = []) : compile engine clause = .ok ⟨clause, []⟩ := by
  rw [compile_eq_ok_iff, none]
  exact ⟨rfl, rfl⟩

/-- A text has a compiled pattern exactly if the engine has a pattern for it. -/
theorem compilePattern_eq_ok_iff {text : String} {pattern : engine.Pattern} :
    compilePattern engine text = .ok pattern ↔ engine.compile? text = some pattern := by
  unfold compilePattern
  cases engine.compile? text <;> simp

/-- There is a criterion exactly if the comparison is valid and its texts have patterns. -/
theorem exists_isFor_iff :
    (∃ criterion : Criterion engine, criterion.IsFor field comparison)
      ↔ comparison.Valid
        ∧ ∀ text ∈ comparison.patternTexts, ∃ pattern, engine.compile? text = some pattern := by
  simp only [isFor_iff, ← compilePattern_eq_ok_iff, ← exists_mapM_eq_ok_iff]
  constructor
  · rintro ⟨criterion, rfl, rfl, found⟩
    exact ⟨criterion.clause.valid, criterion.patterns, found⟩
  · rintro ⟨valid, patterns, found⟩
    exact ⟨⟨⟨field, comparison, valid⟩, patterns⟩, rfl, rfl, found⟩

end Criterion

/-- The texts of a group of patterns are the values, one by one. -/
theorem Comparison.TakesArgument.mem_patternTexts_iff (kind : TakesArgument compare)
    {text : String} :
    text ∈ (compare operator argument).patternTexts
      ↔ ∃ value ∈ argument.values, text ∈ (compare operator (.one value)).patternTexts := by
  cases kind with
  | string => cases operator <;> simp [patternTexts]
  | number => simp [patternTexts]
  | date => simp [patternTexts]

/-- A question about one value at a time has a criterion exactly if it has one for each value. -/
theorem Criterion.exists_isFor_iff_forall (kind : Comparison.TakesArgument compare)
    (elementwise : operator.isElementwise = true) (nonempty : argument.values ≠ []) :
    (∃ criterion : Criterion engine, criterion.IsFor field (compare operator argument))
      ↔ ∀ value ∈ argument.values,
        ∃ single : Criterion engine, single.IsFor field (compare operator (.one value)) := by
  rw [exists_isFor_iff, kind.valid_iff_forall elementwise nonempty]
  simp only [exists_isFor_iff]
  constructor
  · rintro ⟨valid, texts⟩ value member
    exact ⟨valid value member, fun text own =>
      texts text (kind.mem_patternTexts_iff.2 ⟨value, member, own⟩)⟩
  · intro each
    refine ⟨fun value member => (each value member).1, fun text isText => ?_⟩
    obtain ⟨value, member, own⟩ := kind.mem_patternTexts_iff.1 isText
    exact (each value member).2 text own

/-! ## Answers -/

/-- Two lists with the same answers, member by member, have the same combined answer. -/
theorem Connective.combine_eq_of_forall₂ (connective : Connective) {β : Type} {test : α → Bool}
    {probe : β → Bool} {values : List α} {others : List β}
    (same : List.Forall₂ (fun value other => test value = probe other) values others) :
    connective.combine test values = connective.combine probe others := by
  induction same with
  | nil => cases connective <;> rfl
  | cons head tail induction =>
      cases connective with
      | all =>
          rw [combine_all, combine_all] at induction ⊢
          rw [List.all_cons, List.all_cons, head, induction]
      | any =>
          rw [combine_any, combine_any] at induction ⊢
          rw [List.any_cons, List.any_cons, head, induction]

/-- Negative answers only are a negative answer, if there are any. -/
theorem Argument.combine_false (nonempty : argument.values ≠ []) :
    argument.combine (fun _ => false) = false := by
  obtain ⟨first, member⟩ := List.exists_mem_of_ne_nil _ nonempty
  rw [combine]
  cases argument.connective with
  | all => exact List.all_eq_false.2 ⟨first, member, Bool.false_ne_true⟩
  | any => exact List.any_eq_false.2 fun _ _ => Bool.false_ne_true

namespace Criterion

/-- Patterns give one answer for each of the texts that they are compiled from. -/
theorem combine_patterns {texts : Argument String} {patterns : List engine.Pattern}
    (found : texts.values.mapM (compilePattern engine) = .ok patterns)
    (probe : engine.Pattern → Bool) :
    texts.connective.combine probe patterns
      = texts.combine fun text => (engine.compile? text).any probe := by
  refine (texts.connective.combine_eq_of_forall₂ ?_).symm
  refine (mapM_eq_ok_iff_forall₂.1 found).imp fun text pattern made => ?_
  rw [compilePattern_eq_ok_iff.1 made, Option.any_some]

/-- The answers for single values of which every criterion of the operator combines those for the
values of its argument. -/
def Answers (engine : PatternEngine) (compare : Operator → Argument α → Comparison)
    (operator : Operator) (content : FieldValue) (answer : α → Bool) : Prop :=
  ∀ (field : String) (argument : Argument α) (criterion : Criterion engine),
    argument.values ≠ [] → criterion.IsFor field (compare operator argument) →
      criterion.holds content = argument.combine answer

/-- For a field value of another type every answer is negative. -/
theorem answers_of_type_ne (about : ∀ argument, (compare operator argument).type ≠ .null)
    (mismatch : ∀ argument, content.type ≠ (compare operator argument).type) :
    Answers engine compare operator content fun _ => false := by
  intro field argument criterion nonempty isFor
  rw [Argument.combine_false nonempty]
  exact isFor.holds_of_type_ne (about argument) (mismatch argument)

/-- The answer about a text for one value. -/
def textAnswer (engine : PatternEngine) (operator : Operator) (text value : String) : Bool :=
  match operator with
  | .matching | .notMatching =>
      (engine.compile? value).any fun pattern => engine.isMatch pattern text != operator.isNegated
  | _ => (text == value) != operator.isNegated

/-- A criterion about texts combines the answers for its values. -/
theorem answers_string (elementwise : operator.isElementwise = true) (text : String) :
    Answers engine .string operator (.string text) (textAnswer engine operator text) := by
  intro field argument criterion _ isFor
  have legal := isFor.allows_string
  rw [isFor.holds_string]
  cases operator with
  | equal | notEqual => rfl
  | matching | notMatching => exact combine_patterns (isFor_iff.1 isFor).2.2 _
  | between | outside | oneOf | noneOf => cases elementwise
  | greater | greaterEqual | less | lessEqual | isNull | isNotNull => cases legal

/-- Without a range or a set an order is asked for each value. -/
theorem holdsInOrder_of_isElementwise (elementwise : operator.isElementwise = true)
    (order? : α → Option Ordering) :
    operator.holdsInOrder argument order?
      = argument.combine fun value => (order? value).any operator.accepts := by
  cases operator with
  | between | outside | oneOf | noneOf | isNull | isNotNull => cases elementwise
  | _ => rfl

/-- A question about one value at a time has an answer for each value, and its criterion combines
those for the values of its argument. -/
theorem exists_answer (engine : PatternEngine) (kind : Comparison.TakesArgument compare)
    (elementwise : operator.isElementwise = true) (content : FieldValue) :
    ∃ answer, Answers engine compare operator content answer := by
  cases kind with
  | string =>
      cases content with
      | string text => exact ⟨_, answers_string elementwise text⟩
      | _ => exact ⟨_, answers_of_type_ne (fun _ => nofun) fun _ => nofun⟩
  | number =>
      cases content with
      | number value =>
          refine ⟨fun bound => (value.compare? bound).any operator.accepts, ?_⟩
          intro field argument criterion _ isFor
          rw [isFor.holds_number]
          exact holdsInOrder_of_isElementwise elementwise value.compare?
      | _ => exact ⟨_, answers_of_type_ne (fun _ => nofun) fun _ => nofun⟩
  | date =>
      cases content with
      | date instant =>
          refine ⟨fun bound => operator.accepts (instant.compareTo bound), ?_⟩
          intro field argument criterion _ isFor
          rw [isFor.holds_date]
          exact holdsInOrder_of_isElementwise elementwise _
      | _ => exact ⟨_, answers_of_type_ne (fun _ => nofun) fun _ => nofun⟩

/-- The criterion of a single value gives the answer for it. -/
theorem Answers.single_iff {answer : α → Bool} {value : α}
    (answers : Answers engine compare operator content answer)
    (made : ∃ single : Criterion engine, single.IsFor field (compare operator (.one value))) :
    (∃ single : Criterion engine, single.IsFor field (compare operator (.one value))
        ∧ single.holds content = true)
      ↔ answer value = true := by
  have same (single : Criterion engine) (own : single.IsFor field (compare operator (.one value))) :
      single.holds content = answer value := by
    rw [answers field (.one value) single (List.cons_ne_nil _ _) own, Argument.combine_one]
  constructor
  · rintro ⟨single, own, holds⟩
    rwa [same single own] at holds
  · intro positive
    obtain ⟨single, own⟩ := made
    exact ⟨single, own, by rwa [same single own]⟩

/-! ## Groups -/

section Groups

variable {values others : List α} {delimiter : Delimiter} {smaller larger : Criterion engine}
  (kind : Comparison.TakesArgument compare) (elementwise : operator.isElementwise = true)
  (nonempty : values ≠ [])
include kind elementwise nonempty

/-- A group of values has a criterion exactly if each of its values has one. -/
theorem exists_isFor_group_iff :
    (∃ group : Criterion engine, group.IsFor field (compare operator (.group values delimiter)))
      ↔ ∀ value ∈ values,
        ∃ single : Criterion engine, single.IsFor field (compare operator (.one value)) := by
  have some : (Argument.group values delimiter).values ≠ [] := nonempty
  exact exists_isFor_iff_forall kind elementwise some

/-- A comma group holds exactly if each of its values holds. -/
theorem holds_comma_iff
    (isFor : criterion.IsFor field (compare operator (.group values .comma))) :
    criterion.holds content = true
      ↔ ∀ value ∈ values, ∃ single : Criterion engine,
        single.IsFor field (compare operator (.one value)) ∧ single.holds content = true := by
  obtain ⟨answer, answers⟩ := exists_answer engine kind elementwise content
  have singles := (exists_isFor_group_iff kind elementwise nonempty).1 ⟨criterion, isFor⟩
  rw [answers field (.group values .comma) criterion nonempty isFor]
  change values.all answer = true ↔ _
  rw [List.all_eq_true]
  exact forall₂_congr fun value member => (answers.single_iff (singles value member)).symm

/-- A pipe group holds exactly if at least one of its values holds. -/
theorem holds_pipe_iff
    (isFor : criterion.IsFor field (compare operator (.group values .pipe))) :
    criterion.holds content = true
      ↔ ∃ value ∈ values, ∃ single : Criterion engine,
        single.IsFor field (compare operator (.one value)) ∧ single.holds content = true := by
  obtain ⟨answer, answers⟩ := exists_answer engine kind elementwise content
  have singles := (exists_isFor_group_iff kind elementwise nonempty).1 ⟨criterion, isFor⟩
  rw [answers field (.group values .pipe) criterion nonempty isFor]
  change values.any answer = true ↔ _
  rw [List.any_eq_true]
  exact exists_congr fun value => and_congr_right fun member =>
    (answers.single_iff (singles value member)).symm

/-- A comma group of more values holds only if the one of fewer values does. -/
theorem holds_of_holds_comma (fewer : values ⊆ others)
    (isFor : smaller.IsFor field (compare operator (.group values .comma)))
    (also : larger.IsFor field (compare operator (.group others .comma)))
    (holds : larger.holds content = true) : smaller.holds content = true := by
  have more : others ≠ [] := fun none => nonempty (List.subset_nil.1 (none ▸ fewer))
  have all := (holds_comma_iff kind elementwise more also).1 holds
  rw [holds_comma_iff kind elementwise nonempty isFor]
  exact fun value member => all value (fewer member)

/-- A pipe group of more values holds whenever the one of fewer values does. -/
theorem holds_pipe_of_holds (fewer : values ⊆ others)
    (isFor : smaller.IsFor field (compare operator (.group values .pipe)))
    (also : larger.IsFor field (compare operator (.group others .pipe)))
    (holds : smaller.holds content = true) : larger.holds content = true := by
  obtain ⟨value, member, single⟩ := (holds_pipe_iff kind elementwise nonempty isFor).1 holds
  rw [holds_pipe_iff kind elementwise (List.ne_nil_of_mem (fewer member)) also]
  exact ⟨value, fewer member, single⟩

/-- Groups with the same values, in any order and any number of times, hold together. -/
theorem holds_congr_group (same : ∀ value, value ∈ values ↔ value ∈ others)
    (isFor : smaller.IsFor field (compare operator (.group values delimiter)))
    (also : larger.IsFor field (compare operator (.group others delimiter))) :
    smaller.holds content = larger.holds content := by
  have forward : values ⊆ others := fun value => (same value).1
  have backward : others ⊆ values := fun value => (same value).2
  have others_ne : others ≠ [] := fun none => nonempty (List.subset_nil.1 (none ▸ forward))
  rw [Bool.eq_iff_iff]
  cases delimiter with
  | comma =>
      exact ⟨holds_of_holds_comma kind elementwise others_ne backward also isFor,
        holds_of_holds_comma kind elementwise nonempty forward isFor also⟩
  | pipe =>
      exact ⟨holds_pipe_of_holds kind elementwise nonempty forward isFor also,
        holds_pipe_of_holds kind elementwise others_ne backward also isFor⟩

end Groups

/-- **A group joins its values.** Let an operator ask about one value at a time, and take some
values. The group of them can be asked for exactly if each single value can, and it has a criterion
exactly if each of these has one. On every field value a comma group holds exactly if each of the
single values holds, and a pipe group exactly if one of them does. So a value that is added to a
group never makes a comma group hold that did not hold, nor a pipe group fail that held, and groups
of the same values, in any order and any number of times, have criteria together and hold
together. -/
theorem group_joins_values (engine : PatternEngine) (field : String) {α : Type}
    {compare : Operator → Argument α → Comparison} (kind : Comparison.TakesArgument compare)
    (operator : Operator) (elementwise : operator.isElementwise = true) (values : List α)
    (nonempty : values ≠ []) :
    (∀ delimiter,
      ((∃ clause,
          Clause.ofComparison field (compare operator (.group values delimiter)) = .ok clause)
        ↔ ∀ value ∈ values,
          ∃ clause, Clause.ofComparison field (compare operator (.one value)) = .ok clause)
      ∧ ((∃ group : Criterion engine,
          group.IsFor field (compare operator (.group values delimiter)))
        ↔ ∀ value ∈ values,
          ∃ single : Criterion engine, single.IsFor field (compare operator (.one value))))
    ∧ (∀ group : Criterion engine, group.IsFor field (compare operator (.group values .comma)) →
      ∀ content, group.holds content = true
        ↔ ∀ value ∈ values, ∃ single : Criterion engine,
          single.IsFor field (compare operator (.one value)) ∧ single.holds content = true)
    ∧ (∀ group : Criterion engine, group.IsFor field (compare operator (.group values .pipe)) →
      ∀ content, group.holds content = true
        ↔ ∃ value ∈ values, ∃ single : Criterion engine,
          single.IsFor field (compare operator (.one value)) ∧ single.holds content = true)
    ∧ (∀ others : List α, values ⊆ others → ∀ (smaller larger : Criterion engine) (content),
      (smaller.IsFor field (compare operator (.group values .comma)) →
        larger.IsFor field (compare operator (.group others .comma)) →
        larger.holds content = true → smaller.holds content = true)
      ∧ (smaller.IsFor field (compare operator (.group values .pipe)) →
        larger.IsFor field (compare operator (.group others .pipe)) →
        smaller.holds content = true → larger.holds content = true))
    ∧ ∀ others : List α, (∀ value, value ∈ values ↔ value ∈ others) → ∀ delimiter,
      ((∃ first : Criterion engine, first.IsFor field (compare operator (.group values delimiter)))
        ↔ ∃ second : Criterion engine,
          second.IsFor field (compare operator (.group others delimiter)))
      ∧ ∀ first second : Criterion engine,
        first.IsFor field (compare operator (.group values delimiter)) →
        second.IsFor field (compare operator (.group others delimiter)) →
        ∀ content, first.holds content = second.holds content := by
  refine ⟨fun delimiter => ⟨?_, exists_isFor_group_iff kind elementwise nonempty⟩,
    fun group isFor content => holds_comma_iff kind elementwise nonempty isFor,
    fun group isFor content => holds_pipe_iff kind elementwise nonempty isFor, ?_, ?_⟩
  · have some : (Argument.group values delimiter).values ≠ [] := nonempty
    simp only [Clause.exists_ofComparison_eq_ok_iff, ← Comparison.valid_iff_wellFormed]
    exact kind.valid_iff_forall elementwise some
  · intro others fewer smaller larger content
    exact ⟨holds_of_holds_comma kind elementwise nonempty fewer,
      holds_pipe_of_holds kind elementwise nonempty fewer⟩
  · intro others same delimiter
    have others_ne : others ≠ [] := by
      rintro rfl
      obtain ⟨value, member⟩ := List.exists_mem_of_ne_nil _ nonempty
      exact List.not_mem_nil ((same value).1 member)
    refine ⟨?_, fun first second isFor also content =>
      holds_congr_group kind elementwise nonempty same isFor also⟩
    rw [exists_isFor_group_iff kind elementwise nonempty,
      exists_isFor_group_iff kind elementwise others_ne]
    exact forall_congr' fun value => imp_congr_left (same value)

/-- Two patterns that a text has to match, asked one by one, and again in another order. -/
theorem group_joins_values_patterns :
    ∃ first second : Criterion regularExpressions,
      first.IsFor "f" (.string .matching (.group ["a", "b"] .comma))
      ∧ second.IsFor "f" (.string .matching (.group ["b", "a", "a"] .comma))
      ∧ (first.holds (.string "ac") = true
        ↔ ∀ value ∈ ["a", "b"], ∃ single : Criterion regularExpressions,
          single.IsFor "f" (.string .matching (.one value)) ∧ single.holds (.string "ac") = true)
      ∧ ∀ content, first.holds content = second.holds content := by
  have joined :=
    group_joins_values regularExpressions "f" .string .matching rfl ["a", "b"] (by simp)
  have isFor : ∃ first : Criterion regularExpressions,
      first.IsFor "f" (.string .matching (.group ["a", "b"] .comma)) := ⟨_, _, rfl, rfl⟩
  have also : ∃ second : Criterion regularExpressions,
      second.IsFor "f" (.string .matching (.group ["b", "a", "a"] .comma)) := ⟨_, _, rfl, rfl⟩
  obtain ⟨first, isFor⟩ := isFor
  obtain ⟨second, also⟩ := also
  have same : ∀ value, value ∈ ["a", "b"] ↔ value ∈ ["b", "a", "a"] := by
    intro value
    simp [or_comm]
  exact ⟨first, second, isFor, also, joined.2.1 first isFor (.string "ac"),
    (joined.2.2.2.2 _ same .comma).2 first second isFor also⟩

end Criterion

end RecordFilter
