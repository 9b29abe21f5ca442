import Mathlib.Data.Nat.Log
import RecordFilter.Proofs.Number.Rounding

/-! # Rounding keeps the order

A larger quotient is never rounded to a smaller magnitude, so rounding may make different numbers
equal but does not turn them around. A natural number of 53 bits, and such a number with zeros after
it, is not rounded at all.

* `roundHalfEven_mono`: the nearest natural numbers, because a rounding is off by half at most.
* `Binary64.nearest_mono`: the nearest magnitudes.
* `units_nearest_of_short`: natural numbers that need no rounding.
* `Binary64.key_ofInt_mono`, `Binary64.key_ofInt_lt`: the order of integers. -/

namespace RecordFilter

variable {numerator larger denominator value other shift : Nat} {left right : Int}

/-! ## Nearest natural numbers -/

/-- A quotient is rounded down if its remainder is at most half of the denominator, and up if it is
at least that. -/
theorem roundHalfEven_cases (numerator denominator : Nat) :
    (roundHalfEven numerator denominator = numerator / denominator
        ∧ 2 * (numerator % denominator) ≤ denominator)
      ∨ (roundHalfEven numerator denominator = numerator / denominator + 1
        ∧ denominator ≤ 2 * (numerator % denominator)) := by
  simp only [roundHalfEven]
  split
  · next low => exact .inl ⟨rfl, Nat.le_of_lt low⟩
  · next notLow =>
      split
      · next high => exact .inr ⟨rfl, Nat.le_of_lt high⟩
      · next notHigh =>
          -- a tie, which goes to the even neighbour
          rcases Nat.mod_two_eq_zero_or_one (numerator / denominator) with even | odd
          · rw [even]
            exact .inl ⟨rfl, Nat.le_of_not_lt notHigh⟩
          · rw [odd]
            exact .inr ⟨rfl, Nat.le_of_not_lt notLow⟩

/-- A rounded quotient is at most half a unit above the quotient. -/
theorem two_mul_roundHalfEven_le (numerator denominator : Nat) :
    2 * (roundHalfEven numerator denominator * denominator) ≤ 2 * numerator + denominator := by
  have whole := Nat.div_add_mod' numerator denominator
  rcases roundHalfEven_cases numerator denominator with ⟨down, -⟩ | ⟨up, high⟩
  · rw [down]
    omega
  · rw [up, Nat.succ_mul (numerator / denominator)]
    omega

/-- A rounded quotient is at most half a unit below the quotient. -/
theorem le_two_mul_roundHalfEven (numerator : Nat) (positive : 0 < denominator) :
    2 * numerator ≤ 2 * (roundHalfEven numerator denominator * denominator) + denominator := by
  have whole := Nat.div_add_mod' numerator denominator
  rcases roundHalfEven_cases numerator denominator with ⟨down, low⟩ | ⟨up, -⟩
  · rw [down]
    omega
  · rw [up, Nat.succ_mul (numerator / denominator)]
    have inside := Nat.mod_lt numerator positive
    omega

/-- A larger quotient is not rounded to less. -/
theorem roundHalfEven_mono (positive : 0 < denominator) (le : numerator ≤ larger) :
    roundHalfEven numerator denominator ≤ roundHalfEven larger denominator := by
  refine Nat.le_of_not_lt fun turned => ?_
  have above := two_mul_roundHalfEven_le numerator denominator
  have below := le_two_mul_roundHalfEven larger positive
  have step : (roundHalfEven larger denominator + 1) * denominator
      ≤ roundHalfEven numerator denominator * denominator := Nat.mul_le_mul_right _ turned
  rw [Nat.succ_mul] at step
  -- two halves of a unit leave room for one number only
  have same : numerator = larger := by omega
  rw [same] at turned
  exact Nat.lt_irrefl _ turned

namespace Binary64

/-! ## Nearest magnitudes -/

/-- The number of low bits of a quotient that are dropped, so that 53 bits are left. -/
def dropped (numerator denominator : Nat) : Nat := (numerator / denominator).log2 - 52

/-- The bits that are left of a quotient, rounded. -/
def kept (numerator denominator : Nat) : Nat :=
  roundHalfEven numerator (denominator * twoPow (dropped numerator denominator))

/-- The nearest magnitude is made of the bits that are left and the number of those dropped. -/
theorem nearest_eq (numerator denominator : Nat) :
    nearest numerator denominator
      = min (dropped (numerator * twoPow 1074) denominator * twoPow 52
          + kept (numerator * twoPow 1074) denominator) infinity := rfl

/-- Of a larger quotient no fewer bits are dropped. -/
theorem dropped_mono (denominator : Nat) (le : numerator ≤ larger) :
    dropped numerator denominator ≤ dropped larger denominator := by
  have quotients : numerator / denominator ≤ larger / denominator := Nat.div_le_div_right le
  have bits : (numerator / denominator).log2 ≤ (larger / denominator).log2 := by
    rw [Nat.log2_eq_log_two, Nat.log2_eq_log_two]
    exact Nat.log_mono_right quotients
  exact Nat.sub_le_sub_right bits 52

/-- At most 53 bits are left, or the number after all of those. -/
theorem kept_le (positive : 0 < denominator) : kept numerator denominator ≤ twoPow 53 := by
  have unit : 0 < denominator * twoPow (dropped numerator denominator) :=
    Nat.mul_pos positive (twoPow_pos _)
  have few : (numerator / denominator).log2 + 1 ≤ 53 + dropped numerator denominator := by
    unfold dropped
    omega
  have quotient : numerator / denominator < twoPow (53 + dropped numerator denominator) :=
    Nat.lt_of_lt_of_le Nat.lt_log2_self (Nat.pow_le_pow_right Nat.two_pos few)
  have bound : numerator ≤ twoPow 53 * (denominator * twoPow (dropped numerator denominator)) := by
    rw [Nat.div_lt_iff_lt_mul positive, twoPow_add, Nat.mul_assoc,
      Nat.mul_comm (twoPow (dropped numerator denominator))] at quotient
    exact Nat.le_of_lt quotient
  calc kept numerator denominator
      ≤ roundHalfEven (twoPow 53 * (denominator * twoPow (dropped numerator denominator)))
          (denominator * twoPow (dropped numerator denominator)) := roundHalfEven_mono unit bound
    _ = twoPow 53 := roundHalfEven_mul _ unit

/-- If bits are dropped, then 53 bits are left. -/
theorem le_kept (positive : 0 < denominator) (dropping : 0 < dropped numerator denominator) :
    twoPow 52 ≤ kept numerator denominator := by
  have unit : 0 < denominator * twoPow (dropped numerator denominator) :=
    Nat.mul_pos positive (twoPow_pos _)
  have all : 52 + dropped numerator denominator = (numerator / denominator).log2 := by
    unfold dropped at dropping ⊢
    omega
  have nonzero : numerator / denominator ≠ 0 := by
    intro zero
    rw [zero, Nat.log2_zero] at all
    omega
  have quotient : twoPow (52 + dropped numerator denominator) ≤ numerator / denominator := by
    rw [all]
    exact Nat.log2_self_le nonzero
  have bound : twoPow 52 * (denominator * twoPow (dropped numerator denominator)) ≤ numerator := by
    rwa [Nat.le_div_iff_mul_le positive, twoPow_add, Nat.mul_assoc,
      Nat.mul_comm (twoPow (dropped numerator denominator))] at quotient
  calc twoPow 52
      = roundHalfEven (twoPow 52 * (denominator * twoPow (dropped numerator denominator)))
          (denominator * twoPow (dropped numerator denominator)) := (roundHalfEven_mul _ unit).symm
    _ ≤ kept numerator denominator := roundHalfEven_mono unit bound

/-- **A larger quotient is not rounded to a smaller magnitude.** -/
theorem nearest_mono (positive : 0 < denominator) (le : numerator ≤ larger) :
    nearest numerator denominator ≤ nearest larger denominator := by
  rw [nearest_eq, nearest_eq]
  have scaled : numerator * twoPow 1074 ≤ larger * twoPow 1074 := Nat.mul_le_mul_right _ le
  generalize numerator * twoPow 1074 = units at scaled ⊢
  generalize larger * twoPow 1074 = more at scaled ⊢
  refine Nat.le_min.2 ⟨Nat.le_trans (Nat.min_le_left _ _) ?_, Nat.min_le_right _ _⟩
  rcases Nat.eq_or_lt_of_le (dropped_mono denominator scaled) with same | fewer
  · -- the same bits are left, so their rounding decides
    unfold kept
    rw [same]
    have unit : 0 < denominator * twoPow (dropped more denominator) :=
      Nat.mul_pos positive (twoPow_pos _)
    exact Nat.add_le_add_left (roundHalfEven_mono unit scaled) _
  · -- the smaller one reaches the next power of two at most
    have most : kept units denominator ≤ twoPow 53 := kept_le positive
    have least := le_kept positive (Nat.zero_lt_of_lt fewer)
    have double : twoPow 53 = twoPow 52 * 2 := twoPow_succ 52
    have places : (dropped units denominator + 1) * twoPow 52
        ≤ dropped more denominator * twoPow 52 := Nat.mul_le_mul_right _ fewer
    rw [Nat.succ_mul] at places
    omega

/-! ## Natural numbers that need no rounding -/

/-- The value of a magnitude of a normal number, given by its exponent and its low bits. -/
theorem units_normal (exponent : Nat) {low : Nat} (fits : low < twoPow 52) :
    units ((exponent + 1) * twoPow 52 + low)
      = (twoPow 52 + low) * twoPow exponent := by
  have positive := twoPow_pos 52
  have normal : ¬ (exponent + 1) * twoPow 52 + low < twoPow 52 := by
    rw [Nat.succ_mul]
    omega
  have high : ((exponent + 1) * twoPow 52 + low) / twoPow 52 = exponent + 1 := by
    rw [Nat.mul_comm, Nat.mul_add_div positive, Nat.div_eq_of_lt fits, Nat.add_zero]
  have rest : ((exponent + 1) * twoPow 52 + low) % twoPow 52 = low := by
    rw [Nat.mul_comm, Nat.mul_add_mod, Nat.mod_eq_of_lt fits]
  rw [units, if_neg normal, high, rest, Nat.add_sub_cancel]

/-- A natural number of at most 53 bits with zeros after it is the value of a finite magnitude. -/
theorem exists_units_eq (short : value < twoPow 53) (bounded : shift ≤ 971) :
    ∃ magnitude < infinity,
      units magnitude = value * twoPow shift * twoPow 1074 := by
  rcases Nat.eq_zero_or_pos value with rfl | positive
  · refine ⟨0, by decide, ?_⟩
    rw [Nat.zero_mul, Nat.zero_mul]
    exact if_pos (twoPow_pos 52)
  · -- the leading bit is moved to the place 52
    have bits : value.log2 ≤ 52 :=
      Nat.le_of_lt_succ ((Nat.log2_lt (Nat.ne_of_gt positive)).2 short)
    have least : twoPow 52 ≤ value * twoPow (52 - value.log2) := by
      calc twoPow 52 = twoPow value.log2 * twoPow (52 - value.log2) := by
            rw [← twoPow_add, Nat.add_sub_cancel' bits]
        _ ≤ value * twoPow (52 - value.log2) :=
            Nat.mul_le_mul_right _ (Nat.log2_self_le (Nat.ne_of_gt positive))
    have most : value * twoPow (52 - value.log2) < twoPow 52 * 2 := by
      calc value * twoPow (52 - value.log2)
          < twoPow (value.log2 + 1) * twoPow (52 - value.log2) :=
            Nat.mul_lt_mul_of_pos_right Nat.lt_log2_self (twoPow_pos _)
        _ = twoPow 52 * 2 := by
            rw [← twoPow_add, ← twoPow_succ]
            congr 1
            omega
    obtain ⟨low, split⟩ := Nat.exists_eq_add_of_le least
    have fits : low < twoPow 52 := by omega
    refine ⟨(value.log2 + 1022 + shift + 1) * twoPow 52 + low, ?_, ?_⟩
    · have top : infinity = 2047 * twoPow 52 := by decide
      have places : (value.log2 + 1022 + shift + 1 + 1) * twoPow 52 ≤ 2047 * twoPow 52 :=
        Nat.mul_le_mul_right _ (by omega)
      rw [Nat.succ_mul] at places
      omega
    · rw [units_normal _ fits, ← split, Nat.mul_assoc, Nat.mul_assoc, ← twoPow_add, ← twoPow_add]
      congr 2
      omega

/-- **A natural number of at most 53 bits with zeros after it needs no rounding.** -/
theorem units_nearest_of_short (short : value < twoPow 53) (shift : Nat) (bounded : shift ≤ 971) :
    nearest (value * twoPow shift) 1 < infinity
      ∧ units (nearest (value * twoPow shift) 1)
        = value * twoPow shift * twoPow 1074 := by
  obtain ⟨magnitude, finite, exact⟩ := exists_units_eq short bounded
  have same : nearest (value * twoPow shift) 1 = magnitude :=
    nearest_eq_of_exact finite Nat.one_pos (by rw [exact, Nat.mul_one])
  rw [same]
  exact ⟨finite, exact⟩

/-- The natural numbers up to `2 ^ 53` need no rounding. -/
theorem units_nearest_of_le (small : value ≤ twoPow 53) :
    units (nearest value 1) = value * twoPow 1074 := by
  rcases Nat.lt_or_eq_of_le small with short | rfl
  · have exact := (units_nearest_of_short short 0 (by decide)).2
    rwa [twoPow_zero, Nat.mul_one] at exact
  · have one : 1 < twoPow 53 := by decide
    have exact := (units_nearest_of_short one 53 (by decide)).2
    rwa [Nat.one_mul] at exact

/-- Different natural numbers up to `2 ^ 53` have different magnitudes, in the same order. -/
theorem nearest_lt (lt : value < other) (small : other ≤ twoPow 53) :
    nearest value 1 < nearest other 1 := by
  refine Nat.lt_of_le_of_ne (nearest_mono Nat.one_pos (Nat.le_of_lt lt)) fun same => ?_
  have first := units_nearest_of_le (Nat.le_trans (Nat.le_of_lt lt) small)
  have second := units_nearest_of_le small
  rw [same, second] at first
  have equal := Nat.eq_of_mul_eq_mul_right (twoPow_pos 1074) first
  exact Nat.ne_of_lt lt equal.symm

/-! ## Integers -/

/-- The nearest number to an integer is a number. -/
theorem isNaN_ofInt (value : Int) : (ofInt value).isNaN = false :=
  decide_eq_false (Nat.not_lt.2 (nearest_le _ _))

/-- A larger integer does not become a smaller number. -/
theorem key_ofInt_mono (le : left ≤ right) : (ofInt left).key ≤ (ofInt right).key := by
  unfold key ofInt ofRatio
  by_cases negative : right < 0
  · have also : left < 0 := by omega
    have reflected : right.natAbs ≤ left.natAbs := by omega
    have magnitudes := nearest_mono Nat.one_pos reflected
    simp only [negative, also, decide_true, if_true]
    omega
  · by_cases below : left < 0
    · simp only [negative, below, decide_true, decide_false, Bool.false_eq_true, if_true, if_false]
      omega
    · have absolute : left.natAbs ≤ right.natAbs := by omega
      have magnitudes := nearest_mono Nat.one_pos absolute
      simp only [negative, below, decide_false, Bool.false_eq_true, if_false]
      omega

/-- Integers of at most `2 ^ 53` in absolute value keep their strict order. -/
theorem key_ofInt_lt (lt : left < right) (first : left.natAbs ≤ twoPow 53)
    (second : right.natAbs ≤ twoPow 53) : (ofInt left).key < (ofInt right).key := by
  unfold key ofInt ofRatio
  by_cases negative : right < 0
  · have also : left < 0 := by omega
    have reflected : right.natAbs < left.natAbs := by omega
    have magnitudes := nearest_lt reflected first
    simp only [negative, also, decide_true, if_true]
    omega
  · by_cases below : left < 0
    · -- the magnitude of the negative one is not zero
      have nonzero : 0 < left.natAbs := by omega
      have magnitudes := nearest_lt nonzero first
      simp only [negative, below, decide_true, decide_false, Bool.false_eq_true, if_true, if_false]
      omega
    · have absolute : left.natAbs < right.natAbs := by omega
      have magnitudes := nearest_lt absolute second
      simp only [negative, below, decide_false, Bool.false_eq_true, if_false]
      omega

end Binary64

end RecordFilter
