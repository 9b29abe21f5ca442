/-! # Digits

Sequences of ASCII decimal digits as natural numbers, and back, and hexadecimal digits.

* `digitsValue`: the number that digits stand for.
* `digits`, `paddedDigits`: the digits of a number, without and with leading zeros. Both read back
  as the number (`digitsValue_digits`, `digitsValue_paddedDigits`).
* `takeDigits?`, `takeSign`: a run of digits or a sign at the start of a text.
* `tenPow`: the scale of decimal numbers.
* `hexDigit?`, `hexValue?`: hexadecimal digits of either case. -/

namespace RecordFilter

/-! ## Numbers and their digits -/

/-- The value of a sequence of decimal digits. -/
def digitsValue (digits : List Char) : Nat := Nat.ofDigitChars 10 digits 0

@[simp] theorem digitsValue_nil : digitsValue [] = 0 := rfl

/-- A leading zero adds nothing. -/
@[simp] theorem digitsValue_zero_cons (digits : List Char) :
    digitsValue ('0' :: digits) = digitsValue digits := by
  simp [digitsValue, Nat.ofDigitChars_cons]

/-- The digits of a number. -/
def digits (value : Nat) : List Char := Nat.toDigits 10 value

/-- The digits of a number stand for it. -/
@[simp] theorem digitsValue_digits (value : Nat) : digitsValue (digits value) = value :=
  Nat.ofDigitChars_toDigits (by decide) (by decide)

/-- Every character of a written number is a digit. -/
theorem isDigit_of_mem_digits {value : Nat} {char : Char} (member : char ∈ digits value) :
    char.isDigit = true :=
  Nat.isDigit_of_mem_toDigits (by decide) (by decide) member

/-- The digits of a number with zeros in front up to a width. -/
def paddedDigits (width value : Nat) : List Char :=
  List.replicate (width - (digits value).length) '0' ++ digits value

/-- Zeros in front keep the value. -/
@[simp] theorem digitsValue_paddedDigits (width value : Nat) :
    digitsValue (paddedDigits width value) = value := by
  unfold paddedDigits
  induction width - (digits value).length with
  | zero => simp
  | succ zeros induction => simpa [List.replicate_succ] using induction

/-- A written number is as wide as asked for, or wider. -/
theorem length_paddedDigits (width value : Nat) :
    (paddedDigits width value).length = max width (digits value).length := by
  simp only [paddedDigits, List.length_append, List.length_replicate]
  omega

/-! ## Reading -/

/-- Take a run of digits off a text, as long as possible up to a greatest length. The run must
have a least length. The answer is its value and the rest of the text. -/
def takeDigits? (least most : Nat) (text : List Char) : Option (Nat × List Char) :=
  let run := (text.take most).takeWhile Char.isDigit
  if run.length < least then none else some (digitsValue run, text.drop run.length)

/-- Take an optional sign off a text: whether it is a minus sign, and the rest. -/
def takeSign : List Char → Bool × List Char
  | '+' :: rest => (false, rest)
  | '-' :: rest => (true, rest)
  | rest => (false, rest)

/-! ## Powers of ten -/

/-- A power of ten. -/
def tenPow (exponent : Nat) : Nat := Nat.pow 10 exponent

@[simp] theorem tenPow_zero : tenPow 0 = 1 := rfl

theorem tenPow_succ (exponent : Nat) : tenPow (exponent + 1) = tenPow exponent * 10 := rfl

theorem tenPow_pos (exponent : Nat) : 0 < tenPow exponent := by
  induction exponent with
  | zero => decide
  | succ exponent induction =>
      rw [tenPow_succ]
      omega

/-! ## Hexadecimal digits -/

/-- The value of a hexadecimal digit. -/
def hexDigit? (char : Char) : Option Nat :=
  if char.isDigit then some (char.toNat - '0'.toNat)
  else if 'a' ≤ char ∧ char ≤ 'f' then some (char.toNat - 'a'.toNat + 10)
  else if 'A' ≤ char ∧ char ≤ 'F' then some (char.toNat - 'A'.toNat + 10)
  else none

/-- The number that hexadecimal digits stand for; no digits stand for zero. -/
def hexValue? (digits : List Char) : Option Nat :=
  digits.foldlM (fun value char => (hexDigit? char).map (16 * value + ·)) 0

@[simp] theorem hexValue?_nil : hexValue? [] = some 0 := rfl

/-- A single digit stands for its value. -/
@[simp] theorem hexValue?_singleton (char : Char) : hexValue? [char] = hexDigit? char := by
  cases digit : hexDigit? char <;> simp [hexValue?, digit]

end RecordFilter
