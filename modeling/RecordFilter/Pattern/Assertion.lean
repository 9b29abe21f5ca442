import RecordFilter.Unicode.DerivedProperty

/-! # Assertions

Conditions on the place between two characters.

* `Place`: a place with its neighbours.
* `WordCondition`: conditions on the words beside a place.
* `Assertion.holds`: whether a condition holds at a place. -/

namespace RecordFilter.Pattern

/-! ## Places -/

/-- A place in a text, with its neighbours. -/
structure Place where
  /-- The character before it, if any. -/
  before : Option Char
  /-- The character after it, if any. -/
  after : Option Char
  deriving DecidableEq

/-! ## Words -/

/-- A condition on the words beside a place. -/
inductive WordCondition
  /-- A word on exactly one side. -/
  | boundary
  /-- A word on both sides or on none. -/
  | noBoundary
  /-- A word on the right only. -/
  | wordStart
  /-- A word on the left only. -/
  | wordEnd
  /-- No word on the left. -/
  | noWordBefore
  /-- No word on the right. -/
  | noWordAfter
  deriving DecidableEq

/-- Whether the condition holds, given whether there is a word on the left and on the right. -/
def WordCondition.holds (before after : Bool) : WordCondition → Bool
  | boundary => before != after
  | noBoundary => before == after
  | wordStart => !before && after
  | wordEnd => before && !after
  | noWordBefore => !before
  | noWordAfter => !after

/-- A boundary is what is not the lack of one. -/
theorem WordCondition.holds_noBoundary (before after : Bool) :
    noBoundary.holds before after = !boundary.holds before after := by
  cases before <;> cases after <;> rfl

/-! ## Assertions -/

/-- A condition on a place. -/
inductive Assertion
  /-- The start of the text. -/
  | textStart
  /-- The end of the text. -/
  | textEnd
  /-- The start of a line, where a line feed ends a line. -/
  | lineStart
  /-- The end of a line, where a line feed ends a line. -/
  | lineEnd
  /-- The start of a line, where a carriage return, a line feed or both end a line. -/
  | returnLineStart
  /-- The end of a line, where a carriage return, a line feed or both end a line. -/
  | returnLineEnd
  /-- A condition on words, of ASCII characters only or of all. -/
  | word (ascii : Bool) (condition : WordCondition)
  deriving DecidableEq

/-- Whether the condition holds at a place. -/
def Assertion.holds (place : Place) : Assertion → Bool
  | textStart => place.before.isNone
  | textEnd => place.after.isNone
  | lineStart => place.before.all (· == '\n')
  | lineEnd => place.after.all (· == '\n')
  | returnLineStart =>
      place.before.all fun char => char == '\n' || (char == '\r' && place.after != some '\n')
  | returnLineEnd =>
      place.after.all fun char => char == '\r' || (char == '\n' && place.before != some '\r')
  | word ascii condition =>
      let isWord := if ascii then isAsciiWordChar else isWordChar
      condition.holds (place.before.any isWord) (place.after.any isWord)

end RecordFilter.Pattern
