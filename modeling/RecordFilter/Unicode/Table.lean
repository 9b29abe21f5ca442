import RecordFilter.Number.Digits
import RecordFilter.Unicode.CharSet

/-! # Tables of characters

Two written forms for facts about many characters. Words are separated by white space, and numbers
are hexadecimal.

* `CharSet.ofGaps`: a set, as the lengths of the stretches outside and inside it in turn.
* `LabelledRun.ofText`: a label for every code point, as runs of a label and a length. -/

namespace RecordFilter

/-- The words of a text. -/
def tableWords (text : String) : List (List Char) :=
  (text.toList.splitOnP Char.isWhitespace).filter (· ≠ [])

/-- The number that a word stands for. -/
def tableNumber (word : List Char) : Nat := (hexValue? word).getD 0

/-! ## Gaps -/

/-- The ranges that start at a code point, from the lengths of the stretches before them and of
themselves. -/
def rangesOfGaps (start : Nat) : List Nat → List CodeRange
  | gap :: length :: rest =>
      ⟨start + gap, start + gap + length - 1⟩ :: rangesOfGaps (start + gap + length) rest
  | _ => []

/-- The set that the lengths of the stretches outside and inside it describe. -/
def CharSet.ofGaps (text : String) : CharSet :=
  ⟨(rangesOfGaps 0 ((tableWords text).map tableNumber)).toArray⟩

/-! ## Labelled runs -/

/-- The two parts of a word that joins them with a colon. -/
def splitWord (word : List Char) : String × List Char :=
  (String.ofList (word.takeWhile (· ≠ ':')), (word.dropWhile (· ≠ ':')).drop 1)

/-- A run of code points with the same label. -/
structure LabelledRun where
  /-- The label. -/
  label : String
  /-- The code points. -/
  range : CodeRange

namespace LabelledRun

/-- The runs that start at a code point, from their labels and lengths. -/
def ofLengths (start : Nat) : List (String × Nat) → List LabelledRun
  | [] => []
  | (label, length) :: rest =>
      ⟨label, ⟨start, start + length - 1⟩⟩ :: ofLengths (start + length) rest

/-- The runs that a text describes. -/
def ofText (text : String) : List LabelledRun :=
  ofLengths 0 <| (tableWords text).map fun word =>
    let (label, length) := splitWord word
    (label, tableNumber length)

end LabelledRun

/-- The characters whose label passes a test. -/
def CharSet.ofLabels (runs : List LabelledRun) (test : String → Bool) : CharSet :=
  .ofRanges ((runs.filter fun run => test run.label).map (·.range))

/-- Names with what they stand for, from words that join the two with a colon. -/
def namesOfText (text : String) : List (String × String) :=
  (tableWords text).map fun word =>
    let (name, meaning) := splitWord word
    (name, String.ofList meaning)

end RecordFilter
