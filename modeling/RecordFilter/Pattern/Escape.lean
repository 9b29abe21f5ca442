import RecordFilter.Number.Digits
import RecordFilter.Pattern.Flags
import RecordFilter.Pattern.Spacing
import RecordFilter.Unicode.PropertyName

/-! # Escapes

What a backslash introduces in a pattern.

* `Escape`: characters, sets and conditions.
* `takeEscape?`: take an escape off a text. -/

namespace RecordFilter.Pattern

/-- What a backslash introduces. -/
inductive Escape
  /-- A character, which may be written as a byte. -/
  | literal (char : Char) (isByte : Bool)
  /-- A set. -/
  | set (item : SetItem)
  /-- A condition on the text. -/
  | assertion (condition : Assertion)
  /-- A condition on words. -/
  | word (condition : WordCondition)
  deriving DecidableEq

/-! ## Code points -/

/-- The character with the given hexadecimal code point. -/
def charOfHex? (digits : List Char) : Option Char := do
  let point ← hexValue? digits
  if digits ≠ [] ∧ point.isValidChar then some (Char.ofNat point) else none

/-- Take a code point off a text: as many hexadecimal digits as given, or any number of them in
braces. Two digits without braces are a byte. -/
def takeHex? (spaced : Bool) (width : Nat) (text : List Char) : Option (Escape × List Char) :=
  match skip spaced text with
  | '\x7b' :: rest => do
      let (digits, later) ← takeBraced? spaced rest
      return (.literal (← charOfHex? digits) false, later)
  | _ => do
      let (digits, later) := takeWhileSpaced spaced (fun _ => true) width text
      if digits.length = width then return (.literal (← charOfHex? digits) (width == 2), later)
      else none

/-! ## Properties -/

/-- The texts before and after the first occurrence of a mark. -/
def splitAtFirst? (mark : List Char) : List Char → Option (List Char × List Char)
  | [] => none
  | char :: rest =>
      if mark.isPrefixOf (char :: rest) then some ([], (char :: rest).drop mark.length)
      else (splitAtFirst? mark rest).map fun (before, after) => (char :: before, after)

/-- The set that the name of a property stands for, or that a property and a value stand for. -/
def propertyChars? (name : List Char) : Option CharSet :=
  match splitAtFirst? ['!', '='] name <|> splitAtFirst? [':'] name <|> splitAtFirst? ['='] name with
  | some (property, value) => CharSet.ofPropertyValue? (looseName value) (looseName property)
  | none => CharSet.ofPropertyName? (looseName name)

/-- Take a property off a text: one letter, or a name in braces. -/
def takeProperty? (spaced negated : Bool) (text : List Char) : Option (Escape × List Char) := do
  let (name, later) ←
    match skip spaced text with
    | [] | '\\' :: _ => none
    | '\x7b' :: rest => takeBraced? spaced rest
    | letter :: rest => some ([letter], rest)
  return (.set (.property (← propertyChars? name) negated), later)

/-! ## Conditions on words -/

/-- The condition on words that is written in braces. -/
def wordCondition? : String → Option WordCondition
  | "start" => some .wordStart
  | "end" => some .wordEnd
  | "start-half" => some .noWordBefore
  | "end-half" => some .noWordAfter
  | _ => none

/-- Take what follows the escape of a word boundary. Braces around a letter or a hyphen name a more
special condition; any other braces are a repetition. -/
def takeWordBoundary? (spaced : Bool) (text : List Char) : Option (Escape × List Char) :=
  match text with
  | '\x7b' :: rest =>
      match skip spaced rest with
      | [] => none
      | first :: _ =>
          if first.isAlpha || first = '-' then do
            let (name, later) ← takeBraced? spaced rest
            return (.word (← wordCondition? (String.ofList name)), later)
          else some (.word .boundary, text)
  | _ => some (.word .boundary, text)

/-! ## Escapes -/

/-- Take an escape off a text, after its backslash. Punctuation stands for itself; letters have
meanings of their own or none, and digits have none. -/
def takeEscape? (spaced : Bool) : List Char → Option (Escape × List Char)
  | [] => none
  | 'x' :: rest => takeHex? spaced 2 rest
  | 'u' :: rest => takeHex? spaced 4 rest
  | 'U' :: rest => takeHex? spaced 8 rest
  | 'p' :: rest => takeProperty? spaced false rest
  | 'P' :: rest => takeProperty? spaced true rest
  | 'd' :: rest => some (.set (.shorthand .digit false), rest)
  | 'D' :: rest => some (.set (.shorthand .digit true), rest)
  | 's' :: rest => some (.set (.shorthand .space false), rest)
  | 'S' :: rest => some (.set (.shorthand .space true), rest)
  | 'w' :: rest => some (.set (.shorthand .word false), rest)
  | 'W' :: rest => some (.set (.shorthand .word true), rest)
  | 'a' :: rest => some (.literal '\x07' false, rest)
  | 'f' :: rest => some (.literal '\x0c' false, rest)
  | 't' :: rest => some (.literal '\t' false, rest)
  | 'n' :: rest => some (.literal '\n' false, rest)
  | 'r' :: rest => some (.literal '\r' false, rest)
  | 'v' :: rest => some (.literal '\x0b' false, rest)
  | 'A' :: rest => some (.assertion .textStart, rest)
  | 'z' :: rest => some (.assertion .textEnd, rest)
  | 'b' :: rest => takeWordBoundary? spaced rest
  | 'B' :: rest => some (.word .noBoundary, rest)
  | '<' :: rest => some (.word .wordStart, rest)
  | '>' :: rest => some (.word .wordEnd, rest)
  | char :: rest =>
      if char.toNat < 0x80 ∧ !char.isAlphanum then some (.literal char false, rest) else none

end RecordFilter.Pattern
