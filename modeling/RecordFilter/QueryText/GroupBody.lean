import RecordFilter.Argument

/-! # The text inside a group

The text between the brackets of a group can be cut into values only when the closing bracket is
known, because that bracket chooses the delimiter. Until then every unescaped separator is kept as
such.

* `GroupUnit`: one character of the text, or one unescaped separator.
* `GroupUnit.split`: cut at the separators of the chosen delimiter; the other separator is literal.
  There is one more value than there are such separators (`GroupUnit.length_split`). -/

namespace RecordFilter.QueryText

/-- One unit of the text inside a group. -/
inductive GroupUnit
  /-- A literal character, escaped or not. -/
  | literal (char : Char)
  /-- An unescaped separator. -/
  | separator (delimiter : Delimiter)
  deriving DecidableEq, Repr

namespace GroupUnit

/-- The character that the unit was written as, without its backslash. -/
def char : GroupUnit → Char
  | literal char => char
  | separator delimiter => delimiter.char

/-- Cut a text into values at the separators of the delimiter. -/
def split (delimiter : Delimiter) : List GroupUnit → List (List Char)
  | [] => [[]]
  | unit :: rest =>
      if unit = separator delimiter then [] :: split delimiter rest
      else (split delimiter rest).modifyHead (unit.char :: ·)

@[simp] theorem split_nil (delimiter : Delimiter) : split delimiter [] = [[]] := rfl

theorem split_cons (delimiter : Delimiter) (unit : GroupUnit) (rest : List GroupUnit) :
    split delimiter (unit :: rest)
      = if unit = separator delimiter then [] :: split delimiter rest
        else (split delimiter rest).modifyHead (unit.char :: ·) := rfl

/-- There is one more value than there are separators of the delimiter. -/
theorem length_split (delimiter : Delimiter) (units : List GroupUnit) :
    (split delimiter units).length = units.count (separator delimiter) + 1 := by
  induction units with
  | nil => rfl
  | cons unit rest induction =>
      rw [split_cons]
      by_cases cut : unit = separator delimiter
      · simp [cut, induction]
      · simp [cut, induction]

/-- A group has at least one value. -/
theorem split_ne_nil (delimiter : Delimiter) (units : List GroupUnit) :
    split delimiter units ≠ [] := by
  intro none
  simpa [none] using length_split delimiter units

end GroupUnit

end RecordFilter.QueryText
