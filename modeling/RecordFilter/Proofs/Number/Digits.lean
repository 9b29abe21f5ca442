import Mathlib.Algebra.Group.Nat.Defs
import Mathlib.Data.List.TakeWhile
import RecordFilter.Number.Digits

/-! # Runs of digits

A number written with a fixed number of digits is taken off a text again, whatever follows.

* `length_paddedDigits_of_lt`: a number that fits is written with exactly that many digits.
* `takeDigits?_paddedDigits`: it is read back.
* `takeWhile_isDigit_append`, `dropWhile_isDigit_append`: digits before something else.
* `takeDigits?_append`: they are taken off, if there are neither too few nor too many.
* `NoDigitFirst`: texts that go on with something else.
* `DigitsAnd`: texts that consist of digits and of some other characters. -/

namespace RecordFilter

variable {width value least most : Nat} {char next : Char}
  {text run rest marks chars others : List Char}

/-- A number below a power of ten has as many digits at most. -/
theorem length_paddedDigits_of_lt (positive : 0 < width) (small : value < 10 ^ width) :
    (paddedDigits width value).length = width := by
  have fits : (digits value).length ≤ width :=
    (Nat.length_toDigits_le_iff (by decide) positive).2 small
  rw [length_paddedDigits]
  omega

/-- A number has at least one digit. -/
theorem digits_ne_nil (value : Nat) : digits value ≠ [] := Nat.toDigits_ne_nil

/-- Zeros in front of a number are digits as well. -/
theorem isDigit_of_mem_paddedDigits (member : char ∈ paddedDigits width value) :
    char.isDigit = true := by
  rcases List.mem_append.1 member with zero | digit
  · obtain rfl := List.eq_of_mem_replicate zero
    decide
  · exact isDigit_of_mem_digits digit

/-- Digits before a text that does not begin with one are taken off. -/
theorem takeWhile_isDigit_append (all : ∀ char ∈ run, char.isDigit = true)
    (ends : rest.takeWhile Char.isDigit = []) :
    (run ++ rest).takeWhile Char.isDigit = run := by
  rw [List.takeWhile_append_of_pos all, ends, List.append_nil]

/-- The text after such digits is left. -/
theorem dropWhile_isDigit_append (all : ∀ char ∈ run, char.isDigit = true)
    (ends : rest.takeWhile Char.isDigit = []) :
    (run ++ rest).dropWhile Char.isDigit = rest := by
  rw [List.dropWhile_append_of_pos all]
  have whole : rest.takeWhile Char.isDigit ++ rest.dropWhile Char.isDigit = rest :=
    List.takeWhile_append_dropWhile
  rwa [ends] at whole

/-- A number with a fixed number of digits is read back. -/
theorem takeDigits?_paddedDigits (positive : 0 < width) (small : value < 10 ^ width)
    (rest : List Char) :
    takeDigits? width width (paddedDigits width value ++ rest) = some (value, rest) := by
  have length := length_paddedDigits_of_lt positive small
  have front : (paddedDigits width value ++ rest).take width = paddedDigits width value :=
    List.take_left' length
  have run : (paddedDigits width value).takeWhile Char.isDigit = paddedDigits width value := by
    rw [List.takeWhile_eq_self_iff]
    exact fun _ => isDigit_of_mem_paddedDigits
  have left : (paddedDigits width value ++ rest).drop width = rest := List.drop_left' length
  simp only [takeDigits?, front, run, length, Nat.lt_irrefl, if_false, digitsValue_paddedDigits,
    left]

/-- Digits before another character are taken off, if their number is within the bounds. -/
theorem takeDigits?_append (all : ∀ char ∈ run, char.isDigit = true)
    (ends : next.isDigit = false) (enough : least ≤ run.length) (within : run.length ≤ most) :
    takeDigits? least most (run ++ next :: rest) = some (digitsValue run, next :: rest) := by
  -- the part that is looked at ends with the digits or with what is left of the rest
  have stops : ((next :: rest).take (most - run.length)).takeWhile Char.isDigit = [] := by
    cases most - run.length with
    | zero => rfl
    | succ more => rw [List.take_succ_cons, List.takeWhile_cons_of_neg (by simp [ends])]
  have front : (run ++ next :: rest).take most
      = run ++ (next :: rest).take (most - run.length) := by
    rw [List.take_append, List.take_of_length_le within]
  have digits : ((run ++ next :: rest).take most).takeWhile Char.isDigit = run := by
    rw [front, takeWhile_isDigit_append all stops]
  simp only [takeDigits?, digits, Nat.not_lt.2 enough, if_false, List.drop_left]

/-! ## Texts that do not begin with a digit -/

/-- The text does not begin with a digit. -/
def NoDigitFirst (text : List Char) : Prop := ∀ char ∈ text.head?, char.isDigit = false

/-- Then no digits can be taken off its front. -/
theorem NoDigitFirst.takeWhile_eq_nil (ends : NoDigitFirst text) :
    text.takeWhile Char.isDigit = [] := by
  cases text with
  | nil => rfl
  | cons char rest =>
      have other : char.isDigit = false := ends char rfl
      exact List.takeWhile_cons_of_neg (by simp [other])

/-- What is left when all digits are taken off does not begin with one. -/
theorem noDigitFirst_dropWhile (text : List Char) : NoDigitFirst (text.dropWhile Char.isDigit) := by
  intro char first
  have ends := List.head?_dropWhile_not Char.isDigit text
  rw [Option.mem_def.1 first] at ends
  exact ends

/-- A character that is no digit stands first. -/
theorem NoDigitFirst.cons (other : char.isDigit = false) : NoDigitFirst (char :: rest) := by
  rintro _ ⟨⟩
  exact other

/-! ## Texts of digits and marks -/

/-- Every character is a digit or one of the marks. -/
def DigitsAnd (marks chars : List Char) : Prop :=
  ∀ char ∈ chars, char.isDigit = true ∨ char ∈ marks

namespace DigitsAnd

theorem nil : DigitsAnd marks [] := fun _ member => absurd member List.not_mem_nil

theorem of_isDigit (all : ∀ char ∈ run, char.isDigit = true) : DigitsAnd marks run :=
  fun char member => .inl (all char member)

/-- A mark in front can be added. -/
theorem cons (mark : char ∈ marks) (rest : DigitsAnd marks chars) :
    DigitsAnd marks (char :: chars) := by
  intro other member
  rcases List.mem_cons.1 member with rfl | member
  · exact .inr mark
  · exact rest other member

theorem append (first : DigitsAnd marks chars) (second : DigitsAnd marks others) :
    DigitsAnd marks (chars ++ others) := by
  intro char member
  rcases List.mem_append.1 member with member | member
  · exact first char member
  · exact second char member

theorem paddedDigits (width value : Nat) : DigitsAnd marks (paddedDigits width value) :=
  of_isDigit fun _ => isDigit_of_mem_paddedDigits

end DigitsAnd

end RecordFilter
