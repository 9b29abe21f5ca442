/-! # Binary floating-point numbers

Numbers of the 64-bit binary format, held as a sign and the remaining 63 bits read as a natural
number. That magnitude orders the numbers of one sign: zero, the subnormal and normal numbers, the
infinity, and above it the patterns that are not numbers.

* `Binary64.bits`, `Binary64.ofBits`: the bit pattern (`Binary64.ofBits_bits`).
* `Binary64.compare?`: the order of numbers; zeros of either sign are equal, and a pattern that is
  not a number compares with nothing. -/

namespace RecordFilter

/-- A bit pattern of the 64-bit binary format. -/
structure Binary64 where
  /-- The sign bit. -/
  negative : Bool
  /-- The bits below the sign. -/
  magnitude : Nat
  /-- There are 63 of them. -/
  magnitude_lt : magnitude < 0x8000000000000000
  deriving DecidableEq

namespace Binary64

/-! ## Bit patterns -/

/-- The value of the sign bit, `2 ^ 63`. -/
def signBit : Nat := 0x8000000000000000

/-- The bit pattern as a number below `2 ^ 64`. -/
def bits (number : Binary64) : Nat :=
  (if number.negative then signBit else 0) + number.magnitude

/-- The value with the low 64 bits of a number as its pattern. -/
def ofBits (bits : Nat) : Binary64 where
  negative := bits / signBit % 2 == 1
  magnitude := bits % signBit
  magnitude_lt := Nat.mod_lt _ (by decide)

/-- The pattern determines the value. -/
theorem ofBits_bits (number : Binary64) : ofBits number.bits = number := by
  obtain ⟨negative, magnitude, bound⟩ := number
  cases negative
  · simp only [ofBits, bits, signBit, mk.injEq]
    constructor
    · rw [beq_eq_false_iff_ne]
      simp only [Bool.false_eq_true, if_false]
      omega
    · simp only [Bool.false_eq_true, if_false]
      omega
  · simp only [ofBits, bits, signBit, mk.injEq]
    constructor
    · rw [beq_iff_eq]
      simp only [if_true]
      omega
    · simp only [if_true]
      omega

/-- The magnitude of the infinities. -/
def infinity : Nat := 0x7ff0000000000000

/-- Positive zero. -/
def zero : Binary64 := ⟨false, 0, by decide⟩

/-- A pattern that is not a number. -/
def nan : Binary64 := ⟨false, 0x7ff8000000000000, by decide⟩

/-! ## Classes -/

/-- Whether the pattern is not a number. -/
def isNaN (number : Binary64) : Bool := decide (infinity < number.magnitude)

/-- Whether the pattern is a number other than an infinity. -/
def isFinite (number : Binary64) : Bool := decide (number.magnitude < infinity)

/-! ## Order -/

/-- An integer that orders the numbers: the magnitude with its sign. -/
def key (number : Binary64) : Int :=
  if number.negative then -(number.magnitude : Int) else number.magnitude

/-- The order of two numbers. -/
def compare? (left right : Binary64) : Option Ordering :=
  if left.isNaN || right.isNaN then none else some (compare left.key right.key)

/-- Zeros of either sign are equal. -/
theorem compare?_zero_neg_zero : compare? zero (ofBits signBit) = some .eq := by
  decide

end Binary64

end RecordFilter
