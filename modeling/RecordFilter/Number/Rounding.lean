import RecordFilter.Number.Binary64

/-! # Rounding to binary floating point

Exact quotients of natural numbers rounded to the nearest number of the 64-bit binary format, a
tie going to the neighbour whose last bit is zero.

* `twoPow`: the scale of binary numbers.
* `roundHalfEven`: the natural number nearest to a quotient.
* `Binary64.nearest`: the magnitude nearest to a quotient.
* `Binary64.ofInt`, `Binary64.ofBinary32`: integers and numbers of the 32-bit format. -/

namespace RecordFilter

/-- A power of two. -/
def twoPow (exponent : Nat) : Nat := Nat.pow 2 exponent

@[simp] theorem twoPow_zero : twoPow 0 = 1 := rfl

theorem twoPow_succ (exponent : Nat) : twoPow (exponent + 1) = twoPow exponent * 2 := rfl

theorem twoPow_pos (exponent : Nat) : 0 < twoPow exponent := by
  induction exponent with
  | zero => decide
  | succ exponent induction =>
      rw [twoPow_succ]
      omega

/-- The natural number nearest to a quotient; a tie goes to the even neighbour. -/
def roundHalfEven (numerator denominator : Nat) : Nat :=
  let quotient := numerator / denominator
  let remainder := numerator % denominator
  if 2 * remainder < denominator then quotient
  else if denominator < 2 * remainder then quotient + 1
  else quotient + quotient % 2

/-- A quotient without remainder is its own rounding. -/
theorem roundHalfEven_mul (value : Nat) {denominator : Nat} (positive : 0 < denominator) :
    roundHalfEven (value * denominator) denominator = value := by
  simp [roundHalfEven, Nat.mul_div_cancel _ positive, positive]

/-- A natural number is its own rounding. -/
@[simp] theorem roundHalfEven_one (value : Nat) : roundHalfEven value 1 = value := by
  simpa using roundHalfEven_mul value Nat.one_pos

namespace Binary64

/-- The magnitude nearest to a quotient.

The quotient is counted in units of the least subnormal number, `2 ^ -1074`. As many low bits are
dropped as leave 53 of them, and the rest is rounded. A number with 53 bits after dropping `s` of
them has the magnitude `s * 2 ^ 52` plus those bits, and a number of fewer bits is its own
magnitude. Rounding up to the next power of two carries into the exponent, and everything above
the largest finite number goes to the infinity. -/
def nearest (numerator denominator : Nat) : Nat :=
  let units := numerator * twoPow 1074
  let dropped := (units / denominator).log2 - 52
  min (dropped * twoPow 52 + roundHalfEven units (denominator * twoPow dropped)) infinity

/-- The nearest magnitude is not above the infinity. -/
theorem nearest_le (numerator denominator : Nat) : nearest numerator denominator ≤ infinity :=
  Nat.min_le_right _ _

/-- The number of the given sign nearest to a quotient. -/
def ofRatio (negative : Bool) (numerator denominator : Nat) : Binary64 where
  negative := negative
  magnitude := nearest numerator denominator
  magnitude_lt := Nat.lt_of_le_of_lt (nearest_le numerator denominator) (by decide)

/-- The number nearest to an integer. -/
def ofInt (value : Int) : Binary64 :=
  ofRatio (value < 0) value.natAbs 1

/-- The value of a bit pattern of the 32-bit format, which the 64-bit format holds exactly. -/
def ofBinary32 (bits : Nat) : Binary64 :=
  let negative := bits / twoPow 31 % 2 == 1
  let exponent := bits / twoPow 23 % twoPow 8
  let fraction := bits % twoPow 23
  if exponent = 255 then
    if fraction = 0 then ⟨negative, infinity, by decide⟩ else nan
  else if exponent = 0 then ofRatio negative fraction (twoPow 149)
  else ofRatio negative ((twoPow 23 + fraction) * twoPow exponent) (twoPow 150)

end Binary64

end RecordFilter
