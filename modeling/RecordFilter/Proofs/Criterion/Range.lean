import Mathlib.Data.Int.Order.Basic
import Mathlib.Data.Nat.Basic
import Mathlib.Order.Compare
import RecordFilter.Proofs.Criterion.Incomparable

/-! # Ranges on a line

Numbers lie on a line, and so do instants, leap seconds included. The two bounds of a range cut the
line into what lies between them, what lies outside them, and the bounds themselves, which neither
range operator holds for. Bounds in the wrong order leave nothing between them.

* `Instant.rank`: the place of an instant on the line.
* `OnLine`: points that compare as their places on a line do.
* `Comparison.ByOrder`: the comparisons by an order, and what they are about. Their points are on a
  line (`Comparison.ByOrder.exists_onLine`).
* `Criterion.holds_between_iff`, `Criterion.holds_outside_iff`: ranges in terms of places.
* `Criterion.ranges_cut_the_line`: all of this together. -/

namespace RecordFilter

variable {α : Type} {engine : PatternEngine} {criterion : Criterion engine} {field : String}
  {operator : Operator} {argument : Argument α} {delimiter : Delimiter}
  {lower upper point : α} {content : FieldValue}

/-! ## The line of the instants -/

namespace Instant

/-- The place of an instant: every second has room for the nanoseconds of a leap second. -/
def rank (instant : Instant) : Int := 2 * nanosPerSecond * instant.second + instant.nano

/-- An earlier second is an earlier place, as nanoseconds do not reach beyond it. -/
theorem rank_lt_of_second_lt {left right : Instant} (before : left.second < right.second) :
    left.rank < right.rank := by
  have room := left.nano_lt
  unfold rank
  unfold nanosPerSecond at room ⊢
  omega

/-- Instants compare as their places do. -/
theorem compareTo_eq_compare_rank (left right : Instant) :
    left.compareTo right = compare left.rank right.rank := by
  unfold compareTo
  rcases lt_trichotomy left.second right.second with before | same | after
  · have earlier := rank_lt_of_second_lt before
    rw [compare_lt_iff_lt.2 before, compare_lt_iff_lt.2 earlier]
    rfl
  · -- within one second the nanoseconds decide
    rw [compare_eq_iff_eq.2 same]
    show compare left.nano right.nano = _
    rcases lt_trichotomy left.nano right.nano with before | equal | after
    · have earlier : left.rank < right.rank := by
        rw [rank, rank, same]
        omega
      rw [compare_lt_iff_lt.2 before, compare_lt_iff_lt.2 earlier]
    · have together : left.rank = right.rank := by
        rw [rank, rank, same, equal]
      rw [compare_eq_iff_eq.2 equal, compare_eq_iff_eq.2 together]
    · have later : right.rank < left.rank := by
        rw [rank, rank, same]
        omega
      rw [compare_gt_iff_gt.2 after, compare_gt_iff_gt.2 later]
  · have later := rank_lt_of_second_lt after
    rw [compare_gt_iff_gt.2 after, compare_gt_iff_gt.2 later]
    rfl

end Instant

/-! ## Lines -/

/-- The points compare as their places on the line of the integers do. -/
def OnLine (order? : α → α → Option Ordering) (IsPoint : α → Prop) (rank : α → Int) : Prop :=
  ∀ left right, IsPoint left → IsPoint right →
    order? left right = some (compare (rank left) (rank right))

section Lines

variable {order? : α → α → Option Ordering} {IsPoint : α → Prop} {rank : α → Int}
  {left right : α} (line : OnLine order? IsPoint rank) (first : IsPoint left)
  (second : IsPoint right)
include line first second

/-- One point is below another one exactly if its place is. -/
theorem OnLine.lt_iff : order? left right = some .lt ↔ rank left < rank right := by
  rw [line left right first second, Option.some_inj, compare_lt_iff_lt]

/-- Two points are equal exactly if they are at the same place. -/
theorem OnLine.eq_iff : order? left right = some .eq ↔ rank left = rank right := by
  rw [line left right first second, Option.some_inj, compare_eq_iff_eq]

/-- One point is above another one exactly if its place is. -/
theorem OnLine.gt_iff : order? left right = some .gt ↔ rank right < rank left := by
  rw [line left right first second, Option.some_inj, compare_gt_iff_gt]

/-- One point is not above another one exactly if its place is not. -/
theorem OnLine.le_iff : order? left right ≠ some .gt ↔ rank left ≤ rank right := by
  rw [ne_eq, line.gt_iff first second, not_lt]

end Lines

/-! ## Comparisons by an order -/

/-- The comparisons by an order, with the field values that they are about, the order, the values
that can be bounds, and the points of the line. -/
inductive Comparison.ByOrder : {α : Type} → (Operator → Argument α → Comparison) →
    (α → FieldValue) → (α → α → Option Ordering) → (α → Prop) → (α → Prop) → Prop
  /-- The bounds of numbers are finite, and the points are all numbers, infinite ones included. -/
  | number : ByOrder .number .number Binary64.compare? (fun bound => bound.isFinite = true)
      (fun point => point.isNaN = false)
  /-- All instants are bounds and points. -/
  | date : ByOrder .date .date (fun left right => some (left.compareTo right)) (fun _ => True)
      (fun _ => True)

variable {question : Operator → Argument α → Comparison} {place : α → FieldValue}
  {order? : α → α → Option Ordering} {IsBound IsPoint : α → Prop} {rank : α → Int}

namespace Comparison.ByOrder

/-- The bounds are points. -/
theorem isPoint_of_isBound (kind : ByOrder question place order? IsBound IsPoint)
    (bound : IsBound point) : IsPoint point := by
  cases kind with
  | number => exact Binary64.isNaN_of_isFinite bound
  | date => trivial

/-- The points are on a line. -/
theorem exists_onLine (kind : ByOrder question place order? IsBound IsPoint) :
    ∃ rank : α → Int, OnLine order? IsPoint rank := by
  cases kind with
  | number => exact ⟨Binary64.key, fun _ _ first second => Binary64.compare?_eq_some first second⟩
  | date =>
      refine ⟨Instant.rank, fun left right _ _ => ?_⟩
      exact congrArg some (Instant.compareTo_eq_compare_rank left right)

/-- A criterion asks for the order of what it is about. -/
theorem holds_eq (kind : ByOrder question place order? IsBound IsPoint)
    (isFor : criterion.IsFor field (question operator argument)) (point : α) :
    criterion.holds (place point) = operator.holdsInOrder argument (order? point) := by
  cases kind with
  | number => exact isFor.holds_number point
  | date => exact isFor.holds_date point

/-- A range of two bounds has a criterion. -/
theorem exists_isFor (kind : ByOrder question place order? IsBound IsPoint)
    (range : operator.isRange = true) (first : IsBound lower) (second : IsBound upper) :
    ∃ criterion : Criterion engine,
      criterion.IsFor field (question operator (.group [lower, upper] delimiter)) := by
  cases operator with
  | between | outside =>
      cases kind with
      | number =>
          rw [Criterion.exists_isFor_iff_valid .number rfl, Comparison.valid_number_iff]
          refine ⟨rfl, fun _ => rfl, ?_⟩
          rw [Argument.values_group, List.forall_mem_cons, List.forall_mem_singleton]
          exact ⟨first, second⟩
      | date =>
          rw [Criterion.exists_isFor_iff_valid .date rfl, Comparison.valid_date_iff]
          exact ⟨rfl, fun _ => rfl⟩
  | _ => cases range

/-- A range holds only for points of the line. -/
theorem exists_point_of_holds (kind : ByOrder question place order? IsBound IsPoint)
    (range : operator.isRange = true)
    (isFor : criterion.IsFor field (question operator argument))
    (holds : criterion.holds content = true) : ∃ point, IsPoint point ∧ content = place point := by
  have refused (other : criterion.holds content = false) :
      ∃ point, IsPoint point ∧ content = place point := by
    rw [other] at holds
    cases holds
  cases kind with
  | number =>
      cases content with
      | number number =>
          cases improper : number.isNaN with
          | false => exact ⟨number, improper, rfl⟩
          | true =>
              -- a range asks something, so it does not hold for what is not a number
              have vacuous := (Criterion.holds_iff_vacuous_of_isNaN isFor improper).1 holds
              cases vacuous with
              | noneOf empty => cases range
              | comma elementwise =>
                  rw [Operator.isRange_of_isElementwise elementwise] at range
                  cases range
      | _ => exact refused (isFor.holds_of_type_ne nofun nofun)
  | date =>
      cases content with
      | date instant => exact ⟨instant, trivial, rfl⟩
      | _ => exact refused (isFor.holds_of_type_ne nofun nofun)

end Comparison.ByOrder

/-! ## Ranges -/

namespace Criterion

section Ranges

variable (kind : Comparison.ByOrder question place order? IsBound IsPoint)
include kind

/-- The inner range holds exactly at the places between its bounds. -/
theorem holds_between_iff (line : OnLine order? IsPoint rank) (first : IsBound lower)
    (second : IsBound upper)
    (isFor : criterion.IsFor field (question .between (.group [lower, upper] delimiter)))
    (isPoint : IsPoint point) :
    criterion.holds (place point) = true ↔ rank lower < rank point ∧ rank point < rank upper := by
  rw [kind.holds_eq isFor]
  show (order? point lower == some .gt && order? point upper == some .lt) = true ↔ _
  rw [Bool.and_eq_true, beq_iff_eq, beq_iff_eq,
    line.gt_iff isPoint (kind.isPoint_of_isBound first),
    line.lt_iff isPoint (kind.isPoint_of_isBound second)]

/-- The outer range holds exactly at the places before its lower bound or after its upper one. -/
theorem holds_outside_iff (line : OnLine order? IsPoint rank) (first : IsBound lower)
    (second : IsBound upper)
    (isFor : criterion.IsFor field (question .outside (.group [lower, upper] delimiter)))
    (isPoint : IsPoint point) :
    criterion.holds (place point) = true ↔ rank point < rank lower ∨ rank upper < rank point := by
  rw [kind.holds_eq isFor]
  show (order? point lower == some .lt || order? point upper == some .gt) = true ↔ _
  rw [Bool.or_eq_true, beq_iff_eq, beq_iff_eq,
    line.lt_iff isPoint (kind.isPoint_of_isBound first),
    line.gt_iff isPoint (kind.isPoint_of_isBound second)]

variable {inside outside widerInside widerOutside : Criterion engine}
  {widerLower widerUpper : α} {widerDelimiter other : Delimiter} (first : IsBound lower)
  (second : IsBound upper)
include first second

/-- Bounds in the right order cut the line into three parts. -/
theorem one_part_of_bounds (sorted : order? lower upper ≠ some .gt)
    (isInside : inside.IsFor field (question .between (.group [lower, upper] delimiter)))
    (isOutside : outside.IsFor field (question .outside (.group [lower, upper] other)))
    (isPoint : IsPoint point) :
    (inside.holds (place point) = true ∨ outside.holds (place point) = true
        ∨ order? point lower = some .eq ∨ order? point upper = some .eq)
      ∧ ¬ (inside.holds (place point) = true ∧ outside.holds (place point) = true)
      ∧ ¬ (inside.holds (place point) = true
        ∧ (order? point lower = some .eq ∨ order? point upper = some .eq))
      ∧ ¬ (outside.holds (place point) = true
        ∧ (order? point lower = some .eq ∨ order? point upper = some .eq)) := by
  obtain ⟨rank, line⟩ := kind.exists_onLine
  have lowerPoint := kind.isPoint_of_isBound first
  have upperPoint := kind.isPoint_of_isBound second
  rw [line.le_iff lowerPoint upperPoint] at sorted
  rw [holds_between_iff kind line first second isInside isPoint,
    holds_outside_iff kind line first second isOutside isPoint, line.eq_iff isPoint lowerPoint,
    line.eq_iff isPoint upperPoint]
  omega

/-- Bounds in the wrong order have nothing between them and everything outside. -/
theorem holds_of_reversed (reversed : order? lower upper = some .gt)
    (isInside : inside.IsFor field (question .between (.group [lower, upper] delimiter)))
    (isOutside : outside.IsFor field (question .outside (.group [lower, upper] other)))
    (isPoint : IsPoint point) :
    inside.holds (place point) = false ∧ outside.holds (place point) = true := by
  obtain ⟨rank, line⟩ := kind.exists_onLine
  rw [line.gt_iff (kind.isPoint_of_isBound first) (kind.isPoint_of_isBound second)] at reversed
  rw [Bool.eq_false_iff, ne_eq, holds_between_iff kind line first second isInside isPoint,
    holds_outside_iff kind line first second isOutside isPoint]
  omega

/-- Equal bounds have nothing between them. -/
theorem not_holds_of_equal (equal : order? lower upper = some .eq)
    (isInside : inside.IsFor field (question .between (.group [lower, upper] delimiter)))
    (isPoint : IsPoint point) : inside.holds (place point) = false := by
  obtain ⟨rank, line⟩ := kind.exists_onLine
  rw [line.eq_iff (kind.isPoint_of_isBound first) (kind.isPoint_of_isBound second)] at equal
  rw [Bool.eq_false_iff, ne_eq, holds_between_iff kind line first second isInside isPoint]
  omega

section Wider

variable (widerFirst : IsBound widerLower) (widerSecond : IsBound widerUpper)
  (below : order? widerLower lower ≠ some .gt) (above : order? upper widerUpper ≠ some .gt)
include widerFirst widerSecond below above

/-- Wider bounds keep what lies between them. -/
theorem holds_between_of_wider
    (isInside : inside.IsFor field (question .between (.group [lower, upper] delimiter)))
    (isWider : widerInside.IsFor field
      (question .between (.group [widerLower, widerUpper] widerDelimiter)))
    (holds : inside.holds content = true) : widerInside.holds content = true := by
  obtain ⟨rank, line⟩ := kind.exists_onLine
  obtain ⟨point, isPoint, rfl⟩ := kind.exists_point_of_holds rfl isInside holds
  rw [line.le_iff (kind.isPoint_of_isBound widerFirst) (kind.isPoint_of_isBound first)] at below
  rw [line.le_iff (kind.isPoint_of_isBound second) (kind.isPoint_of_isBound widerSecond)] at above
  rw [holds_between_iff kind line first second isInside isPoint] at holds
  rw [holds_between_iff kind line widerFirst widerSecond isWider isPoint]
  omega

/-- Wider bounds leave no more outside. -/
theorem holds_outside_of_wider
    (isOutside : outside.IsFor field (question .outside (.group [lower, upper] delimiter)))
    (isWider : widerOutside.IsFor field
      (question .outside (.group [widerLower, widerUpper] widerDelimiter)))
    (holds : widerOutside.holds content = true) : outside.holds content = true := by
  obtain ⟨rank, line⟩ := kind.exists_onLine
  obtain ⟨point, isPoint, rfl⟩ := kind.exists_point_of_holds rfl isWider holds
  rw [line.le_iff (kind.isPoint_of_isBound widerFirst) (kind.isPoint_of_isBound first)] at below
  rw [line.le_iff (kind.isPoint_of_isBound second) (kind.isPoint_of_isBound widerSecond)] at above
  rw [holds_outside_iff kind line widerFirst widerSecond isWider isPoint] at holds
  rw [holds_outside_iff kind line first second isOutside isPoint]
  omega

end Wider

end Ranges

/-- **The bounds of a range cut the line.** Take two bounds, finite numbers or instants, in a group
with either delimiter. Both range operators have a criterion. If the lower bound is not above the
upper one, then for every point of the line, be it a number or an instant, exactly one of these is
true: the inner range holds, the outer one holds, or the point is equal to a bound. So neither of
them holds for a bound, and between equal bounds there is nothing. If the lower bound is above the
upper one, then the inner range holds for no point and the outer one for every point. Bounds further
apart never take a field value away from the inner range, and never give the outer one another. -/
theorem ranges_cut_the_line (engine : PatternEngine) (field : String) {α : Type}
    {question : Operator → Argument α → Comparison} {place : α → FieldValue}
    {order? : α → α → Option Ordering} {IsBound IsPoint : α → Prop}
    (kind : Comparison.ByOrder question place order? IsBound IsPoint) (lower upper : α)
    (first : IsBound lower) (second : IsBound upper) :
    (∀ operator : Operator, operator.isRange = true → ∀ delimiter,
      ∃ criterion : Criterion engine,
        criterion.IsFor field (question operator (.group [lower, upper] delimiter)))
    ∧ ∀ (delimiter other : Delimiter) (inside outside : Criterion engine),
      inside.IsFor field (question .between (.group [lower, upper] delimiter)) →
      outside.IsFor field (question .outside (.group [lower, upper] other)) →
      (order? lower upper ≠ some .gt →
        (∀ point, IsPoint point →
          (inside.holds (place point) = true ∨ outside.holds (place point) = true
              ∨ order? point lower = some .eq ∨ order? point upper = some .eq)
            ∧ ¬ (inside.holds (place point) = true ∧ outside.holds (place point) = true)
            ∧ ¬ (inside.holds (place point) = true
              ∧ (order? point lower = some .eq ∨ order? point upper = some .eq))
            ∧ ¬ (outside.holds (place point) = true
              ∧ (order? point lower = some .eq ∨ order? point upper = some .eq)))
        ∧ (∀ bound ∈ [lower, upper],
          inside.holds (place bound) = false ∧ outside.holds (place bound) = false)
        ∧ (order? lower upper = some .eq → ∀ point, IsPoint point →
          inside.holds (place point) = false))
      ∧ (order? lower upper = some .gt → ∀ point, IsPoint point →
        inside.holds (place point) = false ∧ outside.holds (place point) = true)
      ∧ ∀ (widerLower widerUpper : α) (widerDelimiter widerOther : Delimiter)
          (widerInside widerOutside : Criterion engine),
        IsBound widerLower → IsBound widerUpper → order? widerLower lower ≠ some .gt →
        order? upper widerUpper ≠ some .gt →
        widerInside.IsFor field
          (question .between (.group [widerLower, widerUpper] widerDelimiter)) →
        widerOutside.IsFor field
          (question .outside (.group [widerLower, widerUpper] widerOther)) →
        ∀ content, (inside.holds content = true → widerInside.holds content = true)
          ∧ (widerOutside.holds content = true → outside.holds content = true) := by
  refine ⟨fun operator range delimiter => kind.exists_isFor range first second, ?_⟩
  intro delimiter other inside outside isInside isOutside
  refine ⟨fun sorted => ⟨fun point isPoint => ?_, ?_, fun equal point isPoint => ?_⟩,
    fun reversed point isPoint => ?_, ?_⟩
  · exact one_part_of_bounds kind first second sorted isInside isOutside isPoint
  · intro bound member
    have isBound : IsBound bound := by
      rcases List.mem_pair.1 member with rfl | rfl
      · exact first
      · exact second
    have isPoint := kind.isPoint_of_isBound isBound
    -- the bound is equal to itself, so it is in neither of the two other parts
    obtain ⟨rank, line⟩ := kind.exists_onLine
    have itself : order? bound lower = some .eq ∨ order? bound upper = some .eq := by
      rcases List.mem_pair.1 member with rfl | rfl
      · exact .inl ((line.eq_iff isPoint isPoint).2 rfl)
      · exact .inr ((line.eq_iff isPoint isPoint).2 rfl)
    obtain ⟨-, -, notInside, notOutside⟩ :=
      one_part_of_bounds kind first second sorted isInside isOutside isPoint
    constructor
    · exact Bool.eq_false_iff.2 fun holds => notInside ⟨holds, itself⟩
    · exact Bool.eq_false_iff.2 fun holds => notOutside ⟨holds, itself⟩
  · exact not_holds_of_equal kind first second equal isInside isPoint
  · exact holds_of_reversed kind first second reversed isInside isOutside isPoint
  · intro widerLower widerUpper _ _ widerInside widerOutside widerFirst widerSecond below above
      isWiderInside isWiderOutside content
    constructor
    · exact holds_between_of_wider kind first second widerFirst widerSecond below above isInside
        isWiderInside
    · exact holds_outside_of_wider kind first second widerFirst widerSecond below above isOutside
        isWiderOutside

/-- A leap second between its neighbours, and the infinity outside bounds in the wrong order. -/
theorem ranges_cut_the_line_leap_second_and_infinity :
    (∃ inside outside : Criterion regularExpressions,
      inside.IsFor "d" (.date .between
        (.group [⟨59, 0, by decide⟩, ⟨60, 0, by decide⟩] .pipe))
      ∧ outside.IsFor "d" (.date .outside
        (.group [⟨59, 0, by decide⟩, ⟨60, 0, by decide⟩] .comma))
      ∧ inside.holds (.date ⟨59, 1000000000, by decide⟩) = true
      ∧ outside.holds (.date ⟨59, 1000000000, by decide⟩) = false)
    ∧ ∃ inside outside : Criterion regularExpressions,
      inside.IsFor "n"
        (.number .between (.group [⟨false, 0x3ff8000000000000, by decide⟩, .zero] .comma))
      ∧ outside.IsFor "n"
        (.number .outside (.group [⟨false, 0x3ff8000000000000, by decide⟩, .zero] .comma))
      ∧ inside.holds (.number ⟨false, Binary64.infinity, by decide⟩) = false
      ∧ outside.holds (.number ⟨false, Binary64.infinity, by decide⟩) = true := by
  constructor
  · obtain ⟨made, cut⟩ := ranges_cut_the_line regularExpressions "d" .date
      ⟨59, 0, by decide⟩ ⟨60, 0, by decide⟩ trivial trivial
    obtain ⟨inside, isInside⟩ := made .between rfl .pipe
    obtain ⟨outside, isOutside⟩ := made .outside rfl .comma
    have within : inside.holds (.date ⟨59, 1000000000, by decide⟩) = true := by
      rw [isInside.holds_date]
      decide
    obtain ⟨parts, -⟩ := (cut _ _ inside outside isInside isOutside).1 (by decide)
    obtain ⟨-, apart, -⟩ := parts ⟨59, 1000000000, by decide⟩ trivial
    exact ⟨inside, outside, isInside, isOutside, within,
      Bool.eq_false_iff.2 fun holds => apart ⟨within, holds⟩⟩
  · obtain ⟨made, cut⟩ := ranges_cut_the_line regularExpressions "n" .number
      ⟨false, 0x3ff8000000000000, by decide⟩ .zero rfl rfl
    obtain ⟨inside, isInside⟩ := made .between rfl .comma
    obtain ⟨outside, isOutside⟩ := made .outside rfl .comma
    have reversed := (cut _ _ inside outside isInside isOutside).2.1 (by decide)
    exact ⟨inside, outside, isInside, isOutside,
      reversed ⟨false, Binary64.infinity, by decide⟩ rfl⟩

end Criterion

end RecordFilter
