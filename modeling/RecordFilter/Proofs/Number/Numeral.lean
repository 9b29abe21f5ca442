import RecordFilter.Proofs.Number.Grammar
import RecordFilter.Proofs.Number.Rounding

/-! # Numerals of numbers

Which characters a numeral has, and that every finite number has a numeral.

* `Numeral.digitsAnd`: a numeral consists of digits, signs, points and exponent marks.
* `Decimal.text`: a numeral of a decimal number, which is read back (`Decimal.ofText?_text`).
* `Binary64.expansion`: the decimal number that a finite number is equal to, so its numeral is read
  as the number (`Binary64.ofText?_expansion`). -/

namespace RecordFilter

variable {chars : List Char} {negative : Bool} {coefficient places : Nat} {exponent : Int}
  {decimal : Decimal}

/-! ## Characters of a numeral -/

/-- The characters of a numeral besides digits. -/
def numeralMarks : List Char := ['+', '-', '.', 'e', 'E']

/-- A sign is one of the marks. -/
theorem SignText.digitsAnd (isSign : SignText chars negative) : DigitsAnd numeralMarks chars := by
  cases isSign with
  | none => exact .nil
  | plus => exact DigitsAnd.nil.cons (by decide)
  | minus => exact DigitsAnd.nil.cons (by decide)

/-- So is the point among digits. -/
theorem CoefficientText.digitsAnd (isCoefficient : CoefficientText chars coefficient places) :
    DigitsAnd numeralMarks chars := by
  cases isCoefficient with
  | whole some isDigit => exact .of_isDigit isDigit
  | point some isWhole isFraction =>
      exact (DigitsAnd.of_isDigit isWhole).append <|
        (DigitsAnd.of_isDigit isFraction).cons (by decide)

/-- So is the letter of a power of ten. -/
theorem PowerText.digitsAnd (isPower : PowerText chars exponent) :
    DigitsAnd numeralMarks chars := by
  cases isPower with
  | none => exact .nil
  | power isMark isSign some isDigit =>
      refine (isSign.digitsAnd.append (.of_isDigit isDigit)).cons ?_
      rcases isMark with rfl | rfl <;> decide

/-- A numeral has only digits, signs, points and exponent marks. -/
theorem Numeral.digitsAnd (numeral : Numeral chars decimal) : DigitsAnd numeralMarks chars := by
  cases numeral with
  | mk isSign isCoefficient isPower =>
      exact isSign.digitsAnd.append (isCoefficient.digitsAnd.append isPower.digitsAnd)

namespace Decimal

/-! ## Numerals of decimal numbers -/

/-- A minus sign if there is one. -/
def signChars (negative : Bool) : List Char := if negative then ['-'] else []

theorem signText_signChars (negative : Bool) : SignText (signChars negative) negative := by
  cases negative with
  | true => exact .minus
  | false => exact .none

/-- A sign if there is one, and the digits of a number. -/
def signedDigits (negative : Bool) (value : Nat) : List Char :=
  signChars negative ++ digits value

/-- A numeral of a decimal number: the coefficient and the power of ten. -/
def text (decimal : Decimal) : String :=
  String.ofList <| signedDigits decimal.negative decimal.coefficient
    ++ 'e' :: signedDigits (decide (decimal.exponent < 0)) decimal.exponent.natAbs

/-- Its end is the power of ten. -/
theorem powerText_signedDigits (exponent : Int) :
    PowerText ('e' :: signedDigits (decide (exponent < 0)) exponent.natAbs) exponent := by
  have power := PowerText.power (.inl rfl) (signText_signChars (decide (exponent < 0)))
    (digits_ne_nil exponent.natAbs) fun _ => isDigit_of_mem_digits
  rw [digitsValue_digits] at power
  have signed : (if decide (exponent < 0) = true then -(exponent.natAbs : Int)
      else exponent.natAbs) = exponent := by
    simp only [decide_eq_true_eq]
    split <;> omega
  rwa [signed] at power

/-- It is a numeral of the number. -/
theorem numeral_text (decimal : Decimal) : Numeral decimal.text.toList decimal := by
  obtain ⟨negative, coefficient, exponent⟩ := decimal
  have digits := CoefficientText.whole (digits_ne_nil coefficient) fun _ => isDigit_of_mem_digits
  rw [digitsValue_digits] at digits
  have numeral := Numeral.mk (signText_signChars negative) digits (powerText_signedDigits exponent)
  rw [text, String.toList_ofList, signedDigits, List.append_assoc]
  rwa [Int.natCast_zero, Int.sub_zero] at numeral

/-- The numeral of a decimal number is read back. -/
theorem ofText?_text (decimal : Decimal) : ofText? decimal.text = some decimal :=
  ofText?_eq_some_iff.2 decimal.numeral_text

end Decimal

/-! ## Numerals of numbers -/

namespace Binary64

/-- Only zero has no units. -/
theorem units_pos {magnitude : Nat} (positive : 0 < magnitude) : 0 < units magnitude := by
  unfold units
  split
  · exact positive
  · exact Nat.mul_pos (Nat.add_pos_left (twoPow_pos 52) _) (twoPow_pos _)

/-- The places after the point of a unit, `2 ^ -1074`. It is not unfolded, as powers of this size
are not to be computed. -/
@[irreducible]
def unitPlaces : Nat := 1074

theorem unitPlaces_eq : unitPlaces = 1074 := by
  rw [unitPlaces]

theorem five_pow_mul_twoPow (exponent : Nat) : 5 ^ exponent * twoPow exponent = tenPow exponent :=
  (Nat.mul_pow 5 2 exponent).symm

/-- The decimal number that a finite number is equal to. A unit is `5 ^ 1074 * 10 ^ -1074`. -/
def expansion (number : Binary64) : Decimal :=
  ⟨number.negative, units number.magnitude * 5 ^ unitPlaces, -unitPlaces⟩

/-- The magnitude nearest to the expansion is the magnitude itself. -/
theorem nearestDecimal_units {magnitude : Nat} (finite : magnitude < infinity) :
    nearestDecimal (units magnitude * 5 ^ unitPlaces) (-unitPlaces) = magnitude := by
  by_cases zero : magnitude = 0
  · rw [zero]
    exact if_pos (Nat.zero_mul _)
  · have places := unitPlaces_eq
    have positive : 0 < units magnitude := units_pos (Nat.pos_of_ne_zero zero)
    have nonzero : units magnitude * 5 ^ unitPlaces ≠ 0 :=
      Nat.ne_of_gt (Nat.mul_pos positive (Nat.pow_pos (by decide)))
    -- the coefficient has so many bits that the number is not below all others
    have wide : unitPlaces ≤ (units magnitude * 5 ^ unitPlaces).log2 := by
      rw [Nat.le_log2 nonzero]
      calc 2 ^ unitPlaces ≤ 5 ^ unitPlaces := Nat.pow_le_pow_left (by decide) unitPlaces
        _ ≤ units magnitude * 5 ^ unitPlaces := Nat.le_mul_of_pos_left _ positive
    have small : ¬ 309 ≤ -(unitPlaces : Int) := by omega
    have large : ¬ -(unitPlaces : Int) + (units magnitude * 5 ^ unitPlaces).log2 + 1 ≤ -325 := by
      omega
    have up : (-(unitPlaces : Int)).toNat = 0 := by omega
    have down : (- -(unitPlaces : Int)).toNat = unitPlaces := by omega
    rw [nearestDecimal, if_neg nonzero, if_neg small, if_neg large, up, down]
    refine nearest_eq_of_exact finite (tenPow_pos _) ?_
    rw [← places, tenPow_zero, Nat.mul_one, Nat.mul_assoc, five_pow_mul_twoPow]

/-- **Every finite number has a numeral.** -/
theorem ofText?_expansion {number : Binary64} (finite : number.isFinite = true) :
    ofText? number.expansion.text = some number := by
  have magnitude := nearestDecimal_units (of_decide_eq_true finite)
  rw [ofText?, Decimal.ofText?_text, Option.map_some]
  have same : ofDecimal number.expansion = number := by
    obtain ⟨negative, _, _⟩ := number
    simp only [ofDecimal, expansion, mk.injEq, true_and]
    exact magnitude
  rw [same]
  exact Option.filter_some_pos finite

/-- A text that stands for a number has the characters of a numeral. -/
theorem digitsAnd_of_ofText? {text : String} {number : Binary64}
    (found : ofText? text = some number) : DigitsAnd numeralMarks text.toList := by
  obtain ⟨decimal, numeral, -, -⟩ := ofText?_eq_some_iff.1 found
  exact numeral.digitsAnd

/-- The empty text stands for no number. -/
theorem ofText?_empty : ofText? "" = none := rfl

end Binary64

end RecordFilter
