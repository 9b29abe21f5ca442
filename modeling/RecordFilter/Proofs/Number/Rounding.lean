import RecordFilter.Number.Rounding

/-! # Numbers that need no rounding

A quotient that is the value of a finite magnitude is rounded to that magnitude.

* `Binary64.units`: the value of a magnitude, counted in units of the least subnormal number.
* `Binary64.nearest_eq_of_exact`: rounding such a value. -/

namespace RecordFilter

theorem twoPow_add (left right : Nat) : twoPow (left + right) = twoPow left * twoPow right :=
  Nat.pow_add 2 left right

/-- Shifted by some places, the logarithm grows by their number. -/
theorem log2_mul_twoPow {value places : Nat} (width : Nat) (least : twoPow width ≤ value)
    (less : value < twoPow (width + 1)) : (value * twoPow places).log2 = width + places := by
  have positive := twoPow_pos places
  have nonzero : value * twoPow places ≠ 0 :=
    Nat.mul_ne_zero (Nat.ne_of_gt (Nat.lt_of_lt_of_le (twoPow_pos width) least))
      (Nat.ne_of_gt positive)
  rw [Nat.log2_eq_iff nonzero]
  constructor
  · calc 2 ^ (width + places) = twoPow width * twoPow places := twoPow_add width places
      _ ≤ value * twoPow places := Nat.mul_le_mul_right _ least
  · calc value * twoPow places < twoPow (width + 1) * twoPow places :=
        Nat.mul_lt_mul_of_pos_right less positive
      _ = twoPow (width + 1 + places) := (twoPow_add (width + 1) places).symm
      _ = 2 ^ (width + places + 1) := by rw [Nat.add_right_comm]; rfl

namespace Binary64

/-- The value of a finite magnitude in units of the least subnormal number: a subnormal magnitude
counts them, and a normal one has a leading bit above its 52 low bits. -/
def units (magnitude : Nat) : Nat :=
  if magnitude < twoPow 52 then magnitude
  else (twoPow 52 + magnitude % twoPow 52) * twoPow (magnitude / twoPow 52 - 1)

/-- **A value that needs no rounding stays as it is.** -/
theorem nearest_eq_of_exact {magnitude numerator denominator : Nat} (finite : magnitude < infinity)
    (positive : 0 < denominator)
    (exact : numerator * twoPow 1074 = units magnitude * denominator) :
    nearest numerator denominator = magnitude := by
  have quotient : units magnitude * denominator / denominator = units magnitude :=
    Nat.mul_div_cancel _ positive
  simp only [nearest, exact, quotient]
  by_cases subnormal : magnitude < twoPow 52
  · -- 52 bits at most, so none is dropped
    have value : units magnitude = magnitude := if_pos subnormal
    have short : magnitude.log2 - 52 = 0 := by
      by_cases zero : magnitude = 0
      · rw [zero]
        rfl
      · have fewer : magnitude.log2 < 52 := (Nat.log2_lt zero).2 subnormal
        omega
    rw [value, short, twoPow_zero, Nat.mul_one, roundHalfEven_mul _ positive, Nat.zero_mul,
      Nat.zero_add, Nat.min_eq_left (Nat.le_of_lt finite)]
  · -- 53 bits and some zeros, which are dropped
    obtain ⟨shift, isShift⟩ : ∃ shift, magnitude / twoPow 52 = shift + 1 :=
      Nat.exists_eq_add_of_le' ((Nat.one_le_div_iff (twoPow_pos 52)).2 (Nat.le_of_not_lt subnormal))
    have value : units magnitude = (twoPow 52 + magnitude % twoPow 52) * twoPow shift := by
      rw [units, if_neg subnormal, isShift, Nat.add_sub_cancel]
    have low : magnitude % twoPow 52 < twoPow 52 := Nat.mod_lt _ (twoPow_pos 52)
    have width : (units magnitude).log2 = 52 + shift := by
      rw [value]
      have double : twoPow (52 + 1) = twoPow 52 * 2 := twoPow_succ 52
      exact log2_mul_twoPow 52 (Nat.le_add_right _ _) (by omega)
    have split : twoPow 52 * (shift + 1) + magnitude % twoPow 52 = magnitude := by
      rw [← isShift]
      exact Nat.div_add_mod magnitude (twoPow 52)
    have rounded : roundHalfEven (units magnitude * denominator) (denominator * twoPow shift)
        = twoPow 52 + magnitude % twoPow 52 := by
      rw [value, Nat.mul_assoc, Nat.mul_comm (twoPow shift)]
      exact roundHalfEven_mul _ (Nat.mul_pos positive (twoPow_pos shift))
    have whole : shift * twoPow 52 + (twoPow 52 + magnitude % twoPow 52) = magnitude := by
      rw [← Nat.add_assoc, ← Nat.succ_mul, Nat.mul_comm, Nat.succ_eq_add_one, split]
    rw [width, Nat.add_sub_cancel_left, rounded, whole, Nat.min_eq_left (Nat.le_of_lt finite)]

end Binary64

end RecordFilter
