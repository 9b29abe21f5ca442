import Mathlib.Algebra.Group.Int.Defs
import RecordFilter.Proofs.Criterion.Expansion
import RecordFilter.Proofs.Number.Numeral
import RecordFilter.Proofs.Number.Order

/-! # Integers in fields and in clauses

An integer comes to a comparison on two ways. In a field it is made a number as it is, and in a
clause its digits are read. Both round to the nearest number, so an integer of a field compares with
one of a clause as their numbers do, whose order never contradicts the order of the integers. Up to
`2 ^ 53` nothing is rounded, and the comparison is that of the integers.

* `IntegerText`: the plain texts of an integer.
* `Binary64.exists_ofText?_eq_some`: such a text is read as the number nearest to the integer.
* `Operator.Relates`: what a comparison says about two integers.
* `Criterion.holds_ofInt_iff`: a criterion asks for the order of the nearest numbers.
* `Criterion.integers_compare_consistently`: all of this together. -/

namespace RecordFilter

variable {engine : PatternEngine} {criterion : Criterion engine} {field text : String}
  {operator : Operator} {chars : List Char} {number : Binary64} {left right value constant : Int}

/-! ## Texts of integers -/

/-- The plain texts of an integer: digits, which may begin with zeros, and a sign or none. -/
inductive IntegerText : List Char → Int → Prop
  /-- Digits alone. -/
  | unsigned {run : List Char} (nonempty : run ≠ [])
      (isDigit : ∀ char ∈ run, char.isDigit = true) : IntegerText run (digitsValue run)
  /-- Digits after a plus sign. -/
  | plus {run : List Char} (nonempty : run ≠ [])
      (isDigit : ∀ char ∈ run, char.isDigit = true) : IntegerText ('+' :: run) (digitsValue run)
  /-- Digits after a minus sign. -/
  | minus {run : List Char} (nonempty : run ≠ [])
      (isDigit : ∀ char ∈ run, char.isDigit = true) : IntegerText ('-' :: run) (-digitsValue run)

/-- Every integer has such a text. -/
theorem integerText_signedDigits (value : Int) :
    IntegerText (Decimal.signedDigits (decide (value < 0)) value.natAbs) value := by
  have isDigit : ∀ char ∈ digits value.natAbs, char.isDigit = true :=
    fun _ => isDigit_of_mem_digits
  by_cases negative : value < 0
  · have text := IntegerText.minus (digits_ne_nil value.natAbs) isDigit
    rw [digitsValue_digits] at text
    have same : -(value.natAbs : Int) = value := by omega
    rw [same] at text
    rwa [decide_eq_true negative]
  · have text := IntegerText.unsigned (digits_ne_nil value.natAbs) isDigit
    rw [digitsValue_digits] at text
    have same : (value.natAbs : Int) = value := by omega
    rw [same] at text
    rwa [decide_eq_false negative]

/-- Such a text is a numeral without a fraction and without a power of ten. Zero may have any
sign. -/
theorem IntegerText.exists_numeral (plain : IntegerText chars value) :
    ∃ negative, Numeral chars ⟨negative, value.natAbs, 0⟩
      ∧ value = if negative then -(value.natAbs : Int) else value.natAbs := by
  have numeral {signChars run : List Char} {negative : Bool} (isSign : SignText signChars negative)
      (nonempty : run ≠ []) (isDigit : ∀ char ∈ run, char.isDigit = true) :
      Numeral (signChars ++ run) ⟨negative, digitsValue run, 0⟩ := by
    have whole := Numeral.mk isSign (.whole nonempty isDigit) .none
    rwa [List.append_nil] at whole
  cases plain with
  | unsigned nonempty isDigit =>
      rw [Int.natAbs_natCast]
      exact ⟨false, numeral .none nonempty isDigit, rfl⟩
  | plus nonempty isDigit =>
      rw [Int.natAbs_natCast]
      exact ⟨false, numeral .plus nonempty isDigit, rfl⟩
  | minus nonempty isDigit =>
      rw [Int.natAbs_neg, Int.natAbs_natCast]
      exact ⟨true, numeral .minus nonempty isDigit, rfl⟩

namespace Binary64

/-- Nothing is the nearest magnitude to zero. -/
theorem nearest_zero : nearest 0 1 = 0 :=
  nearest_eq_of_exact (by decide) Nat.one_pos (by rw [Nat.zero_mul]; rfl)

/-- Without a power of ten, the nearest magnitude is that of the coefficient. -/
theorem nearestDecimal_zero (coefficient : Nat) :
    nearestDecimal coefficient 0 = nearest coefficient 1 := by
  unfold nearestDecimal
  split
  · next zero => rw [zero, nearest_zero]
  · rw [if_neg (by omega), if_neg (by omega)]
    show nearest (coefficient * tenPow 0) (tenPow 0) = _
    rw [tenPow_zero, Nat.mul_one]

/-- Integers of 64 bits do not reach the infinity. -/
theorem nearest_lt_infinity {coefficient : Nat} (small : coefficient ≤ 2 ^ 64) :
    nearest coefficient 1 < infinity := by
  have one : 1 < twoPow 53 := by decide
  have most := (units_nearest_of_short one 64 (by decide)).1
  rw [Nat.one_mul] at most
  exact Nat.lt_of_le_of_lt (nearest_mono Nat.one_pos small) most

/-- The text of an integer is read as the number nearest to it, up to the sign of zero. -/
theorem exists_ofText?_eq_some (plain : IntegerText text.toList constant)
    (small : constant.natAbs ≤ 2 ^ 64) :
    ∃ number, ofText? text = some number ∧ number.isFinite = true
      ∧ number.key = (ofInt constant).key := by
  obtain ⟨negative, numeral, signed⟩ := plain.exists_numeral
  have magnitude : (ofDecimal ⟨negative, constant.natAbs, 0⟩).magnitude
      = nearest constant.natAbs 1 := nearestDecimal_zero _
  have finite : (ofDecimal ⟨negative, constant.natAbs, 0⟩).isFinite = true := by
    rw [isFinite, magnitude]
    exact decide_eq_true (nearest_lt_infinity small)
  refine ⟨ofDecimal ⟨negative, constant.natAbs, 0⟩,
    ofText?_eq_some_iff.2 ⟨_, numeral, rfl, finite⟩, finite, ?_⟩
  · rw [key, magnitude]
    show (if negative = true then -(nearest constant.natAbs 1 : Int) else nearest constant.natAbs 1)
      = if decide (constant < 0) = true then -(nearest constant.natAbs 1 : Int)
        else nearest constant.natAbs 1
    by_cases zero : constant = 0
    · rw [zero, Int.natAbs_zero, nearest_zero]
      cases negative <;> rfl
    · -- apart from zero the sign is that of the integer
      have same : negative = decide (constant < 0) := by
        cases negative with
        | true => exact (decide_eq_true (by rw [if_pos rfl] at signed; omega)).symm
        | false => exact (decide_eq_false (by rw [if_neg Bool.false_ne_true] at signed; omega)).symm
      rw [same]

end Binary64

/-! ## Comparisons of integers -/

namespace Operator

/-- The operators that compare two numbers. -/
def comparisons : List Operator := [equal, notEqual, greater, greaterEqual, less, lessEqual]

/-- What a comparison says about two integers. -/
def Relates : Operator → Int → Int → Prop
  | equal, left, right => left = right
  | notEqual, left, right => left ≠ right
  | greater, left, right => right < left
  | greaterEqual, left, right => right ≤ left
  | less, left, right => left < right
  | lessEqual, left, right => left ≤ right
  | _, _, _ => False

/-- The outcomes that an operator accepts are those of the integers it relates. -/
theorem accepts_compare_iff (operator : Operator) (left right : Int) :
    operator.accepts (compare left right) = true ↔ operator.Relates left right := by
  have below : compare left right = .lt ↔ left < right := compare_lt_iff_lt
  have equal : compare left right = .eq ↔ left = right := compare_eq_iff_eq
  have above : compare left right = .gt ↔ right < left := compare_gt_iff_gt
  cases operator with
  | equal => rw [accepts, beq_iff_eq, equal, Relates]
  | notEqual => rw [accepts, bne_iff_ne, ne_eq, equal, Relates]
  | greater => rw [accepts, beq_iff_eq, above, Relates]
  | greaterEqual => rw [accepts, bne_iff_ne, ne_eq, below, Relates, Int.not_lt]
  | less => rw [accepts, beq_iff_eq, below, Relates]
  | lessEqual => rw [accepts, bne_iff_ne, ne_eq, above, Relates, Int.not_lt]
  | _ => exact ⟨nofun, nofun⟩

/-- Integers in the same order are related alike. -/
theorem relates_iff_of_same_order {first second : Int} (below : left < right ↔ first < second)
    (above : right < left ↔ second < first) :
    operator.Relates left right ↔ operator.Relates first second := by
  cases operator with
  | equal | notEqual | greater | greaterEqual | less | lessEqual =>
      simp only [Relates]
      omega
  | _ => exact Iff.rfl

/-- A comparison of two numbers asks about one value. -/
theorem isElementwise_of_mem_comparisons (member : operator ∈ comparisons) :
    operator.isElementwise = true := by
  revert member
  cases operator <;> decide

/-- A comparison of two numbers is legal for numbers. -/
theorem allows_of_mem_comparisons (member : operator ∈ comparisons) :
    FieldType.number.allows operator = true := by
  revert member
  cases operator <;> decide

end Operator

/-- Up to `2 ^ 53` the nearest numbers are in the order of the integers. -/
theorem Binary64.key_ofInt_lt_iff (first : left.natAbs ≤ 2 ^ 53) (second : right.natAbs ≤ 2 ^ 53) :
    (ofInt left).key < (ofInt right).key ↔ left < right := by
  refine ⟨fun less => ?_, fun less => key_ofInt_lt less first second⟩
  exact Int.not_le.1 fun turned => Int.not_le.2 less (key_ofInt_mono turned)

/-! ## Criteria -/

namespace Criterion

/-- The criterion is made from a clause as written: it is typed, and then compiled. -/
def IsReadFrom (criterion : Criterion engine) (raw : RawClause) : Prop :=
  ∃ clause, Clause.ofRaw raw = .ok clause ∧ compile engine clause = .ok criterion

/-- A clause about a number as written makes the criterion of the number it reads as. -/
theorem isReadFrom_number_iff (reads : Binary64.ofText? text = some number) :
    criterion.IsReadFrom ⟨⟨.number, field, operator⟩, .one text⟩
      ↔ criterion.IsFor field (.number operator (.one number)) := by
  have made (clause : Clause) :
      Clause.ofRaw ⟨⟨.number, field, operator⟩, .one text⟩ = .ok clause
        ↔ Clause.ofComparison field (.number operator (.one number)) = .ok clause := by
    have read : RawClause.readValues Binary64.ofText? ⟨⟨.number, field, operator⟩, .one text⟩
        = .ok (.one number) := RawClause.readValues_eq_ok_iff.2 (.one reads)
    show (RawClause.readValues Binary64.ofText? ⟨⟨.number, field, operator⟩, .one text⟩ >>=
      fun argument => Clause.ofComparison field (.number operator argument)) = .ok clause ↔ _
    rw [read]
    exact Iff.rfl
  simp only [IsReadFrom, IsFor, made]

/-- A clause that compares with an integer has a criterion. -/
theorem exists_isReadFrom (plain : IntegerText text.toList constant)
    (small : constant.natAbs ≤ 2 ^ 64) (member : operator ∈ Operator.comparisons) :
    ∃ criterion : Criterion engine,
      criterion.IsReadFrom ⟨⟨.number, field, operator⟩, .one text⟩ := by
  obtain ⟨number, reads, finite, -⟩ := Binary64.exists_ofText?_eq_some plain small
  have range :=
    Operator.isRange_of_isElementwise (Operator.isElementwise_of_mem_comparisons member)
  simp only [isReadFrom_number_iff reads]
  refine exists_isFor_iff.2 ⟨Comparison.valid_number_iff.2 ⟨?_, fun isRange => ?_, ?_⟩, nofun⟩
  · exact Operator.allows_of_mem_comparisons member
  · rw [range] at isRange
    cases isRange
  · rw [Argument.values_one, List.forall_mem_singleton]
    exact finite

/-- A comparison with an integer relates the numbers nearest to it and to an integer of a field. -/
theorem holds_ofInt_iff (plain : IntegerText text.toList constant)
    (small : constant.natAbs ≤ 2 ^ 64) (member : operator ∈ Operator.comparisons)
    (isRead : criterion.IsReadFrom ⟨⟨.number, field, operator⟩, .one text⟩) (value : Int) :
    criterion.holds (.ofInt value) = true
      ↔ operator.Relates (Binary64.ofInt value).key (Binary64.ofInt constant).key := by
  obtain ⟨number, reads, finite, same⟩ := Binary64.exists_ofText?_eq_some plain small
  have isFor := (isReadFrom_number_iff reads).1 isRead
  have elementwise := Operator.isElementwise_of_mem_comparisons member
  have ordered := Binary64.compare?_eq_some (Binary64.isNaN_ofInt value)
    (Binary64.isNaN_of_isFinite finite)
  rw [FieldValue.ofInt, isFor.holds_number, Operator.holdsInOrder_one elementwise, ordered,
    Option.any_some, same]
  exact Operator.accepts_compare_iff operator _ _

/-- **Integers in fields and in clauses compare consistently.** Take an integer within the ranges of
signed and unsigned numbers of 64 bits, written as a plain text. Every comparison with it has a
criterion. An integer of a field satisfies the criterion of equality with itself. It is found below
or above the integer of the clause only if it is, and it is always found to be not above or not
below if it is not. If neither integer is above `2 ^ 53` in absolute value, then each comparison
holds exactly if it is true of the integers. -/
theorem integers_compare_consistently (engine : PatternEngine) (field : String) {text : String}
    {constant : Int} (plain : IntegerText text.toList constant) (least : -2 ^ 63 ≤ constant)
    (most : constant < 2 ^ 64) :
    (∀ operator ∈ Operator.comparisons, ∃ criterion : Criterion engine,
      criterion.IsReadFrom ⟨⟨.number, field, operator⟩, .one text⟩)
    ∧ ∀ (operator : Operator) (criterion : Criterion engine),
      criterion.IsReadFrom ⟨⟨.number, field, operator⟩, .one text⟩ →
      (operator = .equal → criterion.holds (.ofInt constant) = true)
      ∧ ∀ value : Int,
        (operator = .less → criterion.holds (.ofInt value) = true → value < constant)
        ∧ (operator = .greater → criterion.holds (.ofInt value) = true → constant < value)
        ∧ (operator = .lessEqual → value ≤ constant → criterion.holds (.ofInt value) = true)
        ∧ (operator = .greaterEqual → constant ≤ value → criterion.holds (.ofInt value) = true)
        ∧ (operator ∈ Operator.comparisons → value.natAbs ≤ 2 ^ 53 → constant.natAbs ≤ 2 ^ 53 →
          (criterion.holds (.ofInt value) = true ↔ operator.Relates value constant)) := by
  have small : constant.natAbs ≤ 2 ^ 64 := by omega
  refine ⟨fun operator member => exists_isReadFrom plain small member, ?_⟩
  intro operator criterion isRead
  have answers (member : operator ∈ Operator.comparisons) (value : Int) :=
    holds_ofInt_iff plain small member isRead value
  refine ⟨?_, fun value => ⟨?_, ?_, ?_, ?_, ?_⟩⟩
  · rintro rfl
    rw [answers (by decide)]
    rfl
  · rintro rfl holds
    rw [answers (by decide)] at holds
    exact Int.not_le.1 fun turned => Int.not_le.2 holds (Binary64.key_ofInt_mono turned)
  · rintro rfl holds
    rw [answers (by decide)] at holds
    exact Int.not_le.1 fun turned => Int.not_le.2 holds (Binary64.key_ofInt_mono turned)
  · rintro rfl le
    rw [answers (by decide)]
    exact Binary64.key_ofInt_mono le
  · rintro rfl le
    rw [answers (by decide)]
    exact Binary64.key_ofInt_mono le
  · intro member first second
    rw [answers member]
    exact Operator.relates_iff_of_same_order (Binary64.key_ofInt_lt_iff first second)
      (Binary64.key_ofInt_lt_iff second first)

/-- The integer after `2 ^ 53` is equal to itself, and `2 ^ 53` is not above it. -/
theorem integers_compare_consistently_rounded :
    ∃ equal atMost : Criterion regularExpressions,
      equal.IsReadFrom ⟨⟨.number, "n", .equal⟩, .one "9007199254740993"⟩
      ∧ atMost.IsReadFrom ⟨⟨.number, "n", .lessEqual⟩, .one "9007199254740993"⟩
      ∧ equal.holds (.ofInt 9007199254740993) = true
      ∧ atMost.holds (.ofInt 9007199254740992) = true := by
  have plain : IntegerText "9007199254740993".toList 9007199254740993 :=
    integerText_signedDigits 9007199254740993
  obtain ⟨made, consistent⟩ := integers_compare_consistently regularExpressions "n" plain
    (by decide) (by decide)
  obtain ⟨equal, isEqual⟩ := made .equal (by decide)
  obtain ⟨atMost, isAtMost⟩ := made .lessEqual (by decide)
  have itself := (consistent .equal equal isEqual).1 rfl
  obtain ⟨-, -, below, -⟩ := (consistent .lessEqual atMost isAtMost).2 9007199254740992
  exact ⟨equal, atMost, isEqual, isAtMost, itself, below rfl (by decide)⟩

end Criterion

end RecordFilter
