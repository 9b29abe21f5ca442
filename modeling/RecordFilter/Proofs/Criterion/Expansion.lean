import RecordFilter.Proofs.Criterion.Elementwise
import RecordFilter.Proofs.Filter.Conjunction

/-! # Sets and ranges in single questions

The operators that take their argument as a whole can be spelled out by those that ask about one
value at a time: a set is asked for by equality with each of its values, and a range by the order to
each of its bounds.

* `Operator.spelledOut?`, `Operator.bounds?`: the operators that sets and ranges are spelled out by.
* `Criterion.exists_order`: without patterns a criterion asks for an order.
* `Criterion.holds_of_spelledOut?`, `Criterion.holds_of_bounds?`: sets and ranges spelled out.
* `Criterion.select_between`: a range as two clauses.
* `Criterion.sets_and_ranges_spelled_out`: all of this together. -/

namespace RecordFilter

universe u

variable {α : Type} {engine : PatternEngine} {field : String} {content : FieldValue}
  {operator single first second : Operator} {argument : Argument α} {lower upper : α}
  {compare : Operator → Argument α → Comparison} {delimiter : Delimiter} {connective : Connective}

/-! ## Operators -/

namespace Operator

/-- The operators whose values are patterns. -/
def takesPatterns : Operator → Bool
  | matching | notMatching => true
  | _ => false

/-- What a set operator asks about each value, and the delimiter that joins the answers. -/
def spelledOut? : Operator → Option (Operator × Delimiter)
  | oneOf => some (equal, .pipe)
  | noneOf => some (notEqual, .comma)
  | _ => none

/-- What a range operator asks about the lower and about the upper bound, and how the answers
combine. -/
def bounds? : Operator → Option (Operator × Operator × Connective)
  | between => some (greater, less, .all)
  | outside => some (less, greater, .any)
  | _ => none

/-- Neither a set operator nor what it is spelled out by takes patterns. -/
theorem takesPatterns_of_spelledOut? (spelled : operator.spelledOut? = some (single, delimiter)) :
    operator.takesPatterns = false ∧ single.takesPatterns = false := by
  cases operator with
  | oneOf | noneOf =>
      cases spelled
      exact ⟨rfl, rfl⟩
  | _ => cases spelled

/-- Neither a range operator nor what it is spelled out by takes patterns. -/
theorem takesPatterns_of_bounds? (bounds : operator.bounds? = some (first, second, connective)) :
    operator.takesPatterns = false ∧ first.takesPatterns = false
      ∧ second.takesPatterns = false := by
  cases operator with
  | between | outside =>
      cases bounds
      exact ⟨rfl, rfl, rfl⟩
  | _ => cases bounds

/-- An outcome that passes only as the expected one is the expected one. -/
theorem any_beq_eq (outcome? : Option Ordering) (expected : Ordering) :
    outcome?.any (· == expected) = (outcome? == some expected) := by
  cases outcome? <;> rfl

/-- In any order, a set operator asks each value as it is spelled out. -/
theorem holdsInOrder_of_spelledOut? (spelled : operator.spelledOut? = some (single, delimiter))
    (order? : α → Option Ordering) :
    operator.holdsInOrder argument order?
      = single.holdsInOrder (.group argument.values delimiter) order? := by
  cases operator with
  | oneOf =>
      cases spelled
      change (argument.values.any fun value => order? value == some .eq)
        = argument.values.any fun value => (order? value).any (· == .eq)
      simp only [any_beq_eq]
  | noneOf =>
      cases spelled
      rfl
  | _ => cases spelled

/-- In any order, a single value is asked whether the operator accepts its outcome. -/
theorem holdsInOrder_one (elementwise : operator.isElementwise = true) (value : α)
    (order? : α → Option Ordering) :
    operator.holdsInOrder (.one value) order? = (order? value).any operator.accepts := by
  rw [Criterion.holdsInOrder_of_isElementwise elementwise, Argument.combine_one]

/-- In any order, a range operator asks its two bounds as it is spelled out. -/
theorem holdsInOrder_of_bounds? (bounds : operator.bounds? = some (first, second, connective))
    (order? : α → Option Ordering) :
    operator.holdsInOrder (.group [lower, upper] delimiter) order?
      = connective.combine id
        [first.holdsInOrder (.one lower) order?, second.holdsInOrder (.one upper) order?] := by
  cases operator with
  | between =>
      cases bounds
      rw [holdsInOrder_one rfl, holdsInOrder_one rfl]
      change _ = ((order? lower).any (· == .gt) && ((order? upper).any (· == .lt) && true))
      rw [Bool.and_true, any_beq_eq, any_beq_eq]
      rfl
  | outside =>
      cases bounds
      rw [holdsInOrder_one rfl, holdsInOrder_one rfl]
      change _ = ((order? lower).any (· == .lt) || ((order? upper).any (· == .gt) || false))
      rw [Bool.or_false, any_beq_eq, any_beq_eq]
      rfl
  | _ => cases bounds

end Operator

/-! ## Questions for an order -/

namespace Criterion

/-- Without patterns, a text is asked as if for its order. -/
theorem holdsForText_eq_holdsInOrder {patterns : List engine.Pattern} {texts : Argument String}
    (legal : FieldType.string.allows operator = true) (plain : operator.takesPatterns = false)
    (text : String) :
    holdsForText patterns operator texts text
      = operator.holdsInOrder texts fun value => some (Ord.compare text value) := by
  have same (value : String) : (Ord.compare text value == .eq) = (text == value) := by
    rw [Bool.eq_iff_iff, beq_iff_eq, beq_iff_eq]
    exact Std.LawfulEqOrd.compare_eq_iff_eq
  have differs (value : String) : (Ord.compare text value != .eq) = (text != value) :=
    congrArg not (same value)
  cases operator with
  | equal =>
      change (texts.combine fun value => (text == value) != false)
        = texts.combine fun value => Ord.compare text value == .eq
      simp only [same, Bool.bne_false]
  | notEqual =>
      change (texts.combine fun value => (text == value) != true)
        = texts.combine fun value => Ord.compare text value != .eq
      simp only [differs, Bool.bne_true]
      rfl
  | oneOf =>
      change (texts.values.contains text != false)
        = texts.values.any fun value => Ord.compare text value == .eq
      simp only [same, Bool.bne_false, List.contains_eq_any_beq]
  | noneOf =>
      change (texts.values.contains text != true)
        = texts.values.all fun value => Ord.compare text value != .eq
      simp only [differs, Bool.bne_true, List.contains_eq_any_beq, List.not_any_eq_all_not]
      rfl
  | matching | notMatching => cases plain
  | between | outside | greater | greaterEqual | less | lessEqual | isNull | isNotNull =>
      cases legal

/-- Without patterns, every criterion of comparisons of one kind asks for one order of the field
value, unless the field value is of another type. -/
theorem exists_order (engine : PatternEngine) (kind : Comparison.TakesArgument compare)
    (content : FieldValue) :
    ∃ (typed : Bool) (order? : α → Option Ordering),
      ∀ (field : String) (operator : Operator) (argument : Argument α)
        (criterion : Criterion engine), operator.takesPatterns = false →
        criterion.IsFor field (compare operator argument) →
        criterion.holds content = (typed && operator.holdsInOrder argument order?) := by
  cases kind with
  | string =>
      cases content with
      | string text =>
          refine ⟨true, fun value => some (Ord.compare text value), ?_⟩
          intro field operator texts criterion plain isFor
          rw [isFor.holds_string, Bool.true_and]
          exact holdsForText_eq_holdsInOrder isFor.allows_string plain text
      | _ => exact ⟨false, fun _ => none, fun _ _ _ _ _ isFor => isFor.holds_of_type_ne nofun nofun⟩
  | number =>
      cases content with
      | number number =>
          exact ⟨true, number.compare?, fun _ _ _ _ _ isFor => isFor.holds_number number⟩
      | _ => exact ⟨false, fun _ => none, fun _ _ _ _ _ isFor => isFor.holds_of_type_ne nofun nofun⟩
  | date =>
      cases content with
      | date instant =>
          exact ⟨true, _, fun _ _ _ _ _ isFor => isFor.holds_date instant⟩
      | _ => exact ⟨false, fun _ => none, fun _ _ _ _ _ isFor => isFor.holds_of_type_ne nofun nofun⟩

end Criterion

/-! ## Validity -/

namespace Comparison

/-- No patterns are compiled but for the operators that take them. -/
theorem TakesArgument.patternTexts_eq_nil (kind : TakesArgument compare)
    (plain : operator.takesPatterns = false) : (compare operator argument).patternTexts = [] := by
  cases kind with
  | string =>
      cases operator with
      | matching | notMatching => cases plain
      | _ => rfl
  | number | date => rfl

/-- A set is valid exactly if it is valid spelled out. -/
theorem TakesArgument.valid_iff_of_spelledOut? (kind : TakesArgument compare)
    (spelled : operator.spelledOut? = some (single, delimiter)) :
    (compare operator argument).Valid
      ↔ (compare single (.group argument.values delimiter)).Valid := by
  cases operator with
  | oneOf | noneOf =>
      cases spelled
      cases kind with
      | string => rw [valid_string_iff, valid_string_iff]; rfl
      | number => rw [valid_number_iff, valid_number_iff]; rfl
      | date => rw [valid_date_iff, valid_date_iff]; rfl
  | _ => cases spelled

/-- A range of two bounds is valid exactly if each of them is valid spelled out. -/
theorem TakesArgument.valid_iff_of_bounds? (kind : TakesArgument compare)
    (bounds : operator.bounds? = some (first, second, connective)) :
    (compare operator (.group [lower, upper] delimiter)).Valid
      ↔ (compare first (.one lower)).Valid ∧ (compare second (.one upper)).Valid := by
  cases operator with
  | between | outside =>
      cases bounds
      cases kind with
      | string => simp [valid_string_iff, FieldType.allows]
      | number => simp [valid_number_iff, FieldType.allows, Operator.isRange]
      | date => simp [valid_date_iff, FieldType.allows, Operator.isRange]
  | _ => cases bounds

end Comparison

/-! ## Criteria -/

/-- A condition on two answers is a condition on their combination. -/
theorem Connective.and_combine (connective : Connective) (condition left right : Bool) :
    (condition && connective.combine id [left, right])
      = connective.combine id [condition && left, condition && right] := by
  cases connective <;> cases condition <;> cases left <;> rfl

/-- Compiled criteria are the filter of their clauses. -/
theorem Filter.compile_clauses {criteria : List (Criterion engine)}
    (each : ∀ criterion ∈ criteria, Criterion.compile engine criterion.clause = .ok criterion) :
    Filter.compile engine (criteria.map Criterion.clause) = .ok ⟨criteria⟩ := by
  rw [Filter.compile_eq_ok_iff, mapM_eq_ok_iff_forall₂, List.forall₂_map_left_iff]
  exact List.forall₂_same.2 each

namespace Criterion

section Kinds

variable {range set group above below : Criterion engine}
  (kind : Comparison.TakesArgument compare)
include kind

/-- Without patterns there is a criterion exactly for a valid comparison. -/
theorem exists_isFor_iff_valid (plain : operator.takesPatterns = false) :
    (∃ criterion : Criterion engine, criterion.IsFor field (compare operator argument))
      ↔ (compare operator argument).Valid := by
  rw [exists_isFor_iff, kind.patternTexts_eq_nil plain]
  exact and_iff_left fun _ member => absurd member List.not_mem_nil

/-- A set has a criterion exactly if it has one spelled out. -/
theorem exists_isFor_iff_of_spelledOut?
    (spelled : operator.spelledOut? = some (single, delimiter)) :
    (∃ set : Criterion engine, set.IsFor field (compare operator argument))
      ↔ ∃ group : Criterion engine,
        group.IsFor field (compare single (.group argument.values delimiter)) := by
  obtain ⟨whole, part⟩ := Operator.takesPatterns_of_spelledOut? spelled
  rw [exists_isFor_iff_valid kind whole, exists_isFor_iff_valid kind part]
  exact kind.valid_iff_of_spelledOut? spelled

/-- A set holds exactly if it holds spelled out. -/
theorem holds_of_spelledOut? (spelled : operator.spelledOut? = some (single, delimiter))
    (isFor : set.IsFor field (compare operator argument))
    (also : group.IsFor field (compare single (.group argument.values delimiter))) :
    set.holds content = group.holds content := by
  obtain ⟨whole, part⟩ := Operator.takesPatterns_of_spelledOut? spelled
  obtain ⟨typed, order?, asks⟩ := exists_order engine kind content
  rw [asks _ _ _ set whole isFor, asks _ _ _ group part also,
    Operator.holdsInOrder_of_spelledOut? spelled]

/-- A range of two bounds has a criterion exactly if each of them has one spelled out. -/
theorem exists_isFor_iff_of_bounds?
    (bounds : operator.bounds? = some (first, second, connective)) :
    (∃ range : Criterion engine,
        range.IsFor field (compare operator (.group [lower, upper] delimiter)))
      ↔ (∃ above : Criterion engine, above.IsFor field (compare first (.one lower)))
        ∧ ∃ below : Criterion engine, below.IsFor field (compare second (.one upper)) := by
  obtain ⟨whole, left, right⟩ := Operator.takesPatterns_of_bounds? bounds
  rw [exists_isFor_iff_valid kind whole, exists_isFor_iff_valid kind left,
    exists_isFor_iff_valid kind right]
  exact kind.valid_iff_of_bounds? bounds

/-- A range combines the answers for its bounds. -/
theorem holds_of_bounds? (bounds : operator.bounds? = some (first, second, connective))
    (isFor : range.IsFor field (compare operator (.group [lower, upper] delimiter)))
    (left : above.IsFor field (compare first (.one lower)))
    (right : below.IsFor field (compare second (.one upper))) :
    range.holds content = connective.combine id [above.holds content, below.holds content] := by
  obtain ⟨whole, lowerPlain, upperPlain⟩ := Operator.takesPatterns_of_bounds? bounds
  obtain ⟨typed, order?, asks⟩ := exists_order engine kind content
  rw [asks _ _ _ range whole isFor, asks _ _ _ above lowerPlain left,
    asks _ _ _ below upperPlain right, Operator.holdsInOrder_of_bounds? bounds,
    Connective.and_combine]

/-- A range selects what the clauses of its two bounds select together. -/
theorem select_between
    (isFor : range.IsFor field (compare .between (.group [lower, upper] delimiter)))
    (left : above.IsFor field (compare .greater (.one lower)))
    (right : below.IsFor field (compare .less (.one upper))) {ι : Type u}
    (read : ι → String → FieldValue) (items : List ι) :
    ∃ whole pair : Filter engine, Filter.compile engine [range.clause] = .ok whole
      ∧ Filter.compile engine [above.clause, below.clause] = .ok pair
      ∧ whole.select read items = pair.select read items := by
  refine ⟨⟨[range]⟩, ⟨[above, below]⟩, ?_, ?_, ?_⟩
  · exact Filter.compile_clauses (List.forall_mem_singleton.2 isFor.compile_eq)
  · exact Filter.compile_clauses
      (List.forall_mem_cons.2 ⟨left.compile_eq, List.forall_mem_singleton.2 right.compile_eq⟩)
  · refine List.filter_congr fun item _ => ?_
    change (range.holds (read item range.clause.field) && true)
      = (above.holds (read item above.clause.field)
        && (below.holds (read item below.clause.field) && true))
    rw [(isFor_iff.1 isFor).1, (isFor_iff.1 left).1, (isFor_iff.1 right).1, Bool.and_true]
    exact holds_of_bounds? kind rfl isFor left right

end Kinds

/-- **Sets and ranges can be spelled out.** Take comparisons of texts, of numbers or of instants.
Whatever the shape of its argument, a set operator has a criterion exactly if the question about the
single values has one, which is equality in a pipe group for the operator that asks for a member,
and inequality in a comma group for its negation, and on every field value the two criteria hold
together. Whatever the delimiter of its group, a range has a criterion exactly if the questions
about its bounds have one. On every field value the inner range holds exactly if the field is above
the lower bound and below the upper one, and the outer range exactly if it is below the lower bound
or above the upper one. So the clause of the inner range selects the same items as the two clauses
of its bounds together. -/
theorem sets_and_ranges_spelled_out (engine : PatternEngine) (field : String) {α : Type}
    {compare : Operator → Argument α → Comparison} (kind : Comparison.TakesArgument compare) :
    (∀ argument : Argument α,
      (((∃ set : Criterion engine, set.IsFor field (compare .oneOf argument))
          ↔ ∃ group : Criterion engine,
            group.IsFor field (compare .equal (.group argument.values .pipe)))
        ∧ ∀ set group : Criterion engine, set.IsFor field (compare .oneOf argument) →
          group.IsFor field (compare .equal (.group argument.values .pipe)) →
          ∀ content, set.holds content = group.holds content)
      ∧ ((∃ set : Criterion engine, set.IsFor field (compare .noneOf argument))
          ↔ ∃ group : Criterion engine,
            group.IsFor field (compare .notEqual (.group argument.values .comma)))
        ∧ ∀ set group : Criterion engine, set.IsFor field (compare .noneOf argument) →
          group.IsFor field (compare .notEqual (.group argument.values .comma)) →
          ∀ content, set.holds content = group.holds content)
    ∧ ∀ (lower upper : α) (delimiter : Delimiter),
      (((∃ range : Criterion engine,
            range.IsFor field (compare .between (.group [lower, upper] delimiter)))
          ↔ (∃ above : Criterion engine, above.IsFor field (compare .greater (.one lower)))
            ∧ ∃ below : Criterion engine, below.IsFor field (compare .less (.one upper)))
        ∧ ∀ range above below : Criterion engine,
          range.IsFor field (compare .between (.group [lower, upper] delimiter)) →
          above.IsFor field (compare .greater (.one lower)) →
          below.IsFor field (compare .less (.one upper)) →
          (∀ content, range.holds content = (above.holds content && below.holds content))
          ∧ ∀ {ι : Type u} (read : ι → String → FieldValue) (items : List ι),
            ∃ whole pair : Filter engine, Filter.compile engine [range.clause] = .ok whole
              ∧ Filter.compile engine [above.clause, below.clause] = .ok pair
              ∧ whole.select read items = pair.select read items)
      ∧ ((∃ range : Criterion engine,
            range.IsFor field (compare .outside (.group [lower, upper] delimiter)))
          ↔ (∃ below : Criterion engine, below.IsFor field (compare .less (.one lower)))
            ∧ ∃ above : Criterion engine, above.IsFor field (compare .greater (.one upper)))
        ∧ ∀ range below above : Criterion engine,
          range.IsFor field (compare .outside (.group [lower, upper] delimiter)) →
          below.IsFor field (compare .less (.one lower)) →
          above.IsFor field (compare .greater (.one upper)) →
          ∀ content, range.holds content = (below.holds content || above.holds content) := by
  refine ⟨fun argument => ⟨⟨exists_isFor_iff_of_spelledOut? kind rfl, ?_⟩,
      exists_isFor_iff_of_spelledOut? kind rfl, ?_⟩,
    fun lower upper delimiter => ⟨⟨exists_isFor_iff_of_bounds? kind rfl, ?_⟩,
      exists_isFor_iff_of_bounds? kind rfl, ?_⟩⟩
  · exact fun set group isFor also content => holds_of_spelledOut? kind rfl isFor also
  · exact fun set group isFor also content => holds_of_spelledOut? kind rfl isFor also
  · intro range above below isFor left right
    refine ⟨fun content => ?_, fun read items => select_between kind isFor left right read items⟩
    rw [holds_of_bounds? kind rfl isFor left right, Connective.combine_all]
    exact congrArg (above.holds content && ·) (Bool.and_true _)
  · intro range below above isFor left right content
    rw [holds_of_bounds? kind rfl isFor left right, Connective.combine_any]
    exact congrArg (below.holds content || ·) (Bool.or_false _)

/-- A pair of numbers that a number has to differ from, and the same pair as the bounds of a range,
with the delimiter of the other kind each. Neither holds for a pattern that is not a number. -/
theorem sets_and_ranges_spelled_out_numbers :
    ∃ set group range above below : Criterion regularExpressions,
      set.IsFor "n" (.number .noneOf (.group [.zero, ⟨false, 0x3ff8000000000000, by decide⟩] .pipe))
      ∧ group.IsFor "n"
        (.number .notEqual (.group [.zero, ⟨false, 0x3ff8000000000000, by decide⟩] .comma))
      ∧ range.IsFor "n"
        (.number .between (.group [.zero, ⟨false, 0x3ff8000000000000, by decide⟩] .pipe))
      ∧ above.IsFor "n" (.number .greater (.one .zero))
      ∧ below.IsFor "n" (.number .less (.one ⟨false, 0x3ff8000000000000, by decide⟩))
      ∧ (∀ content, set.holds content = group.holds content)
      ∧ (∀ content, range.holds content = (above.holds content && below.holds content))
      ∧ set.holds (.number .nan) = false ∧ range.holds (.number .nan) = false := by
  have spelled := sets_and_ranges_spelled_out.{0} regularExpressions "n" .number
  obtain ⟨set, isSet⟩ : ∃ set : Criterion regularExpressions,
      set.IsFor "n" (.number .noneOf
        (.group [.zero, ⟨false, 0x3ff8000000000000, by decide⟩] .pipe)) := ⟨_, _, rfl, rfl⟩
  obtain ⟨range, isRange⟩ : ∃ range : Criterion regularExpressions,
      range.IsFor "n" (.number .between
        (.group [.zero, ⟨false, 0x3ff8000000000000, by decide⟩] .pipe)) := ⟨_, _, rfl, rfl⟩
  obtain ⟨group, isGroup⟩ := (spelled.1 _).2.1.1 ⟨set, isSet⟩
  obtain ⟨⟨above, isAbove⟩, below, isBelow⟩ := (spelled.2 _ _ .pipe).1.1.1 ⟨range, isRange⟩
  have differs := (spelled.1 _).2.2 set group isSet isGroup
  have within := ((spelled.2 _ _ .pipe).1.2 range above below isRange isAbove isBelow).1
  refine ⟨set, group, range, above, below, isSet, isGroup, isRange, isAbove, isBelow, differs,
    within, ?_, ?_⟩
  · rw [isSet.holds_number]
    decide
  · rw [isRange.holds_number]
    decide

end Criterion

end RecordFilter
