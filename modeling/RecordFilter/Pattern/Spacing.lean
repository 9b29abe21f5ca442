import RecordFilter.Unicode.DerivedProperty

/-! # Spacing in patterns

Where spacing is allowed, white space and comments may stand between the signs of a pattern. A
comment starts with a number sign and lasts to the end of its line.

* `skip`: drop spacing.
* `takeBraced?`: take the text up to a closing brace.
* `takeWhileSpaced`: take the first signs of a kind. -/

namespace RecordFilter.Pattern

/-- Drop white space and comments, at a place that may be inside a comment. -/
def dropSpacing (inComment : Bool) : List Char → List Char
  | [] => []
  | char :: rest =>
      if inComment then dropSpacing (char ≠ '\n') rest
      else if char = '#' then dropSpacing true rest
      else if isWhiteSpace char then dropSpacing false rest
      else char :: rest

/-- Drop spacing where it is allowed. -/
def skip (spaced : Bool) (text : List Char) : List Char :=
  if spaced then dropSpacing false text else text

/-- Where spacing is not allowed nothing is dropped. -/
@[simp] theorem skip_false (text : List Char) : skip false text = text := rfl

/-- Dropping makes a text no longer. -/
theorem length_dropSpacing_le (inComment : Bool) (text : List Char) :
    (dropSpacing inComment text).length ≤ text.length := by
  fun_induction dropSpacing inComment text with
  | case1 => simp
  | case2 char rest induction => exact Nat.le_succ_of_le induction
  | case3 inComment rest plain induction => exact Nat.le_succ_of_le induction
  | case4 inComment char rest plain noMark blank induction => exact Nat.le_succ_of_le induction
  | case5 => simp

/-- Dropping makes a text no longer. -/
theorem length_skip_le (spaced : Bool) (text : List Char) :
    (skip spaced text).length ≤ text.length := by
  unfold skip
  split
  · exact length_dropSpacing_le false text
  · exact Nat.le_refl _

/-- Take the signs up to a closing brace off a text, and the brace. -/
def takeBraced? (spaced : Bool) (text : List Char) : Option (List Char × List Char) :=
  match _skipped : skip spaced text with
  | [] => none
  | '\x7d' :: later => some ([], later)
  | char :: rest => (takeBraced? spaced rest).map fun (content, later) => (char :: content, later)
termination_by text.length
decreasing_by
  have shorter := length_skip_le spaced text
  simp only [_skipped, List.length_cons] at shorter
  omega

/-- Take the signs that pass a test off the start of a text, up to a number of them. -/
def takeWhileSpaced (spaced : Bool) (test : Char → Bool) :
    Nat → List Char → List Char × List Char
  | 0, text => ([], text)
  | most + 1, text =>
      match skip spaced text with
      | [] => ([], [])
      | char :: rest =>
          if test char then
            let (content, later) := takeWhileSpaced spaced test most rest
            (char :: content, later)
          else ([], char :: rest)

end RecordFilter.Pattern
