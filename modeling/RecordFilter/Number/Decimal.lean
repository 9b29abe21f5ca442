import RecordFilter.Number.Digits
import RecordFilter.Number.Rounding

/-! # Decimal numerals

Reading numbers from text: an optional sign, digits with at most one point among or around them,
and an optional power of ten. Digits are those of ASCII, and nothing may stand around the numeral.

* `Decimal.ofText?`: the exact value of a numeral.
* `Binary64.ofDecimal`: the nearest number.
* `Binary64.ofText?`: the number that a text stands for, if it is finite. -/

namespace RecordFilter

/-- An exact decimal number: the coefficient times a power of ten, with a sign. -/
structure Decimal where
  /-- Whether a minus sign was written. -/
  negative : Bool
  /-- All digits, without the point. -/
  coefficient : Nat
  /-- The power of ten that the coefficient is multiplied with. -/
  exponent : Int
  deriving DecidableEq, Repr

namespace Decimal

/-- The power of ten at the end of a numeral. -/
def exponent? : List Char → Option Int
  | [] => some 0
  | mark :: rest =>
      let (negative, digits) := takeSign rest
      if (mark = 'e' ∨ mark = 'E') ∧ digits ≠ [] ∧ digits.all Char.isDigit then
        some (if negative then -(digitsValue digits : Int) else digitsValue digits)
      else none

/-- Take the digits after a point off a text. -/
def takeFraction : List Char → List Char × List Char
  | '.' :: rest => rest.span Char.isDigit
  | rest => ([], rest)

/-- The exact value of a numeral. -/
def ofText? (text : String) : Option Decimal :=
  let (negative, unsigned) := takeSign text.toList
  let (whole, afterWhole) := unsigned.span Char.isDigit
  let (fraction, afterFraction) := takeFraction afterWhole
  if whole = [] ∧ fraction = [] then none
  else
    (exponent? afterFraction).map fun exponent =>
      ⟨negative, digitsValue (whole ++ fraction), exponent - fraction.length⟩

end Decimal

namespace Binary64

/-- The magnitude nearest to a coefficient times a power of ten. From `10 ^ 309` on this is the
infinity, and below `10 ^ -325` it is zero, so powers beyond these bounds are not computed. -/
def nearestDecimal (coefficient : Nat) (exponent : Int) : Nat :=
  if coefficient = 0 then 0
  else if 309 ≤ exponent then infinity
  else if exponent + coefficient.log2 + 1 ≤ -325 then 0
  else nearest (coefficient * tenPow exponent.toNat) (tenPow (-exponent).toNat)

/-- The nearest magnitude is not above the infinity. -/
theorem nearestDecimal_le (coefficient : Nat) (exponent : Int) :
    nearestDecimal coefficient exponent ≤ infinity := by
  unfold nearestDecimal
  split
  · exact Nat.zero_le _
  · split
    · exact Nat.le_refl _
    · split
      · exact Nat.zero_le _
      · exact nearest_le _ _

/-- The number nearest to a decimal number. -/
def ofDecimal (decimal : Decimal) : Binary64 where
  negative := decimal.negative
  magnitude := nearestDecimal decimal.coefficient decimal.exponent
  magnitude_lt := Nat.lt_of_le_of_lt (nearestDecimal_le _ _) (by decide)

/-- The finite number that a text stands for. -/
def ofText? (text : String) : Option Binary64 :=
  ((Decimal.ofText? text).map ofDecimal).filter isFinite

/-- Only finite numbers are read. -/
theorem isFinite_of_ofText? {text : String} {number : Binary64}
    (found : ofText? text = some number) : number.isFinite = true := by
  simp only [ofText?, Option.filter_eq_some_iff] at found
  exact found.2

end Binary64

end RecordFilter
