import RecordFilter.Argument

/-! # Symbols of a query text

What a character means when no backslash stands before it.

* `Symbol.ofChar`: the role of a character. Every role but `plain` belongs to named characters
  (`Symbol.ofChar_eq_separator_iff` and its companions). -/

namespace RecordFilter.QueryText

/-- The role of an unescaped character. -/
inductive Symbol
  /-- A backslash: the next character is literal. -/
  | escape
  /-- A colon: the header part is complete. -/
  | colon
  /-- A comma or a vertical bar. -/
  | separator (delimiter : Delimiter)
  /-- An opening bracket of either shape. -/
  | opening
  /-- A closing bracket. -/
  | closing (delimiter : Delimiter)
  /-- Any other character stands for itself. -/
  | plain
  deriving DecidableEq, Repr

/-- The role of a character. -/
def Symbol.ofChar : Char → Symbol
  | '\\' => escape
  | ':' => colon
  | ',' => separator .comma
  | '|' => separator .pipe
  | '[' => opening
  | '(' => opening
  | ']' => closing .comma
  | ')' => closing .pipe
  | _ => plain

/-- A separator has the role of separating. -/
@[simp] theorem Symbol.ofChar_char (delimiter : Delimiter) :
    Symbol.ofChar delimiter.char = separator delimiter := by
  cases delimiter <;> rfl

/-- A closing bracket has the role of closing. -/
@[simp] theorem Symbol.ofChar_closing (delimiter : Delimiter) :
    Symbol.ofChar delimiter.closing = closing delimiter := by
  cases delimiter <;> rfl

/-- Only the backslash escapes. -/
theorem Symbol.ofChar_eq_escape_iff {char : Char} : Symbol.ofChar char = escape ↔ char = '\\' := by
  unfold Symbol.ofChar
  split <;> simp_all

/-- Only the colon ends a header part. -/
theorem Symbol.ofChar_eq_colon_iff {char : Char} : Symbol.ofChar char = colon ↔ char = ':' := by
  unfold Symbol.ofChar
  split <;> simp_all

/-- Only the two delimiters separate. -/
theorem Symbol.ofChar_eq_separator_iff {char : Char} {delimiter : Delimiter} :
    Symbol.ofChar char = separator delimiter ↔ char = delimiter.char := by
  unfold Symbol.ofChar
  cases delimiter <;> split <;> simp_all [Delimiter.char]

/-- Only the two opening brackets open. -/
theorem Symbol.ofChar_eq_opening_iff {char : Char} :
    Symbol.ofChar char = opening ↔ char = '[' ∨ char = '(' := by
  unfold Symbol.ofChar
  split <;> simp_all

/-- Only the two closing brackets close. -/
theorem Symbol.ofChar_eq_closing_iff {char : Char} {delimiter : Delimiter} :
    Symbol.ofChar char = closing delimiter ↔ char = delimiter.closing := by
  unfold Symbol.ofChar
  cases delimiter <;> split <;> simp_all [Delimiter.closing]

end RecordFilter.QueryText
