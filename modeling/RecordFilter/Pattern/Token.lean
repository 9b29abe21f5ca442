import RecordFilter.Number.Digits
import RecordFilter.Pattern.Escape

/-! # Tokens of patterns

The text of a pattern is cut into tokens. Brackets have a syntax of their own, and in some parts of
a pattern there may be spacing between the tokens and inside them.

* `Token`: what a pattern is written with.
* `Token.take?`: the first tokens of a text. -/

namespace RecordFilter.Pattern

/-! ## Tokens -/

/-- How two sets of characters combine inside a bracket. -/
inductive SetOperation
  /-- The common characters. -/
  | intersection
  /-- The characters of the first set only. -/
  | difference
  /-- The characters of exactly one set. -/
  | symmetricDifference
  deriving DecidableEq

/-- The kinds of groups. -/
inductive GroupKind
  /-- A group that has a number. -/
  | numbered
  /-- A group that has a number and a name. -/
  | named (name : String)
  /-- A group that has neither, but may change flags. -/
  | plain (change : FlagChange)
  deriving DecidableEq

/-- A token of a pattern. -/
inductive Token
  /-- A character that stands for itself, which may be written as a byte. -/
  | literal (char : Char) (isByte : Bool)
  /-- A set that is written as an escape. -/
  | set (item : SetItem)
  /-- Any character. -/
  | dot
  /-- A caret: the start of the text or of a line. -/
  | caret
  /-- A dollar sign: the end of the text or of a line. -/
  | dollar
  /-- A condition on the text. -/
  | assertion (condition : Assertion)
  /-- A condition on words. -/
  | word (condition : WordCondition)
  /-- A bar between alternatives. -/
  | bar
  /-- The start of a group. -/
  | openGroup (kind : GroupKind)
  /-- The end of a group. -/
  | closeGroup
  /-- A change of flags up to the end of the group. -/
  | flags (change : FlagChange)
  /-- A repetition of what stands before it, which may be marked to match as rarely as possible. -/
  | repetition (least : Nat) (most : Option Nat) (marked : Bool)
  /-- The start of a bracket. -/
  | openBracket (negated : Bool)
  /-- Characters of a bracket. -/
  | member (item : SetItem)
  /-- An operation on the sets to its left and right in a bracket. -/
  | operation (operation : SetOperation)
  /-- The end of a bracket. -/
  | closeBracket
  deriving DecidableEq

/-- The token of an escape outside brackets. -/
def Escape.token : Escape → Token
  | literal char isByte => .literal char isByte
  | set item => .set item
  | assertion condition => .assertion condition
  | word condition => .word condition

/-! ## Repetitions -/

/-- Take the mark off a text that asks for few repetitions. -/
def takeMark : List Char → Bool × List Char
  | '?' :: rest => (true, rest)
  | text => (false, text)

/-- A repetition with the mark at the start of a text. -/
def repetitionBefore (least : Nat) (most : Option Nat) (text : List Char) : Token × List Char :=
  let (marked, later) := takeMark text
  (.repetition least most marked, later)

/-- The count below `2 ^ 32` that a text is, with white space around it. -/
def count? (text : List Char) : Option Nat := do
  let (count, rest) ← takeDigits? 1 text.length (dropWhiteSpace text)
  if count < 0x100000000 ∧ dropWhiteSpace rest = [] then some count else none

/-- The bounds of a repetition: a count, a least count with a comma, or two counts. -/
def bounds? (content : List Char) : Option (Nat × Option Nat) :=
  match splitAtFirst? [','] content with
  | none => (count? content).map fun count => (count, some count)
  | some (least, []) => (count? least).map fun least => (least, none)
  | some (least, most) => do
      let least ← count? least
      let most ← count? most
      if least ≤ most then some (least, some most) else none

/-- Take a repetition with counts off a text, after the opening brace. -/
def takeCounts? (spaced : Bool) (text : List Char) : Option (Token × List Char) := do
  let (content, later) ← takeBraced? spaced text
  let (least, most) ← bounds? content
  return repetitionBefore least most (skip spaced later)

/-! ## Groups -/

/-- Whether a text is the name of a group: a letter or an underscore, and then letters, numeric
characters and a few marks. -/
def isGroupName : List Char → Bool
  | [] => false
  | first :: rest =>
      (first = '_' || isAlphabetic first)
        && rest.all fun char => "_.[]".contains char || isAlphanumeric char

/-- Take the name of a group off a text. -/
def takeGroupName? (text : List Char) : Option (Token × List Char) :=
  let name := text.takeWhile (· ≠ '>')
  match text.dropWhile (· ≠ '>') with
  | _ :: later =>
      if isGroupName name then some (.openGroup (.named (String.ofList name)), later) else none
  | [] => none

/-- The change of flags that a text describes: flags to set, and after a minus sign flags to clear.
No flag is named twice. -/
def flagChange? (text : List Char) : Option FlagChange :=
  if text.all ("imsUuRx-".contains ·) ∧ text.eraseDups = text ∧ text.getLast? ≠ some '-' then
    some ⟨text.takeWhile (· ≠ '-'), text.dropWhile (· ≠ '-')⟩
  else none

/-- Take the flags of a group, or a change of flags, off a text. -/
def takeFlags? (text : List Char) : Option (Token × List Char) := do
  let isFlag (char : Char) : Bool := char ≠ ':' && char ≠ ')'
  let change ← flagChange? (text.takeWhile isFlag)
  match text.dropWhile isFlag with
  | ':' :: later => some (.openGroup (.plain change), later)
  | _ :: later => if change = .none then none else some (.flags change, later)
  | [] => none

/-- Take the start of a group off a text, after the opening bracket. There are no groups that look
around without matching. -/
def takeGroup? : List Char → Option (Token × List Char)
  | '?' :: 'P' :: '<' :: rest => takeGroupName? rest
  | '?' :: '<' :: '=' :: _ | '?' :: '<' :: '!' :: _ => none
  | '?' :: '<' :: rest => takeGroupName? rest
  | '?' :: rest => takeFlags? rest
  | rest => some (.openGroup .numbered, rest)

/-! ## Brackets -/

/-- A character as a member of a bracket. -/
def SetItem.single (char : Char) : SetItem := .range char char

/-- Take the start of a bracket off a text, after the opening bracket. Minus signs at the start, or
one closing bracket, stand for themselves. -/
def takeBracket (spaced : Bool) (text : List Char) : List Token × List Char :=
  let (negated, text) :=
    match skip spaced text with
    | '^' :: rest => (true, rest)
    | rest => (false, rest)
  let (dashes, text) := takeWhileSpaced spaced (· = '-') text.length text
  let start := Token.openBracket negated :: dashes.map fun dash => .member (.single dash)
  match dashes, skip spaced text with
  | [], ']' :: rest => (start ++ [.member (.single ']')], rest)
  | _, rest => (start, rest)

/-- Take a named set off a text, after the opening bracket. -/
def takeNamedSet? : List Char → Option (SetItem × List Char)
  | ':' :: text =>
      let (negated, text) :=
        match text with
        | '^' :: rest => (true, rest)
        | _ => (false, text)
      match text.dropWhile (· ≠ ':') with
      | ':' :: ']' :: later =>
          (asciiSet? (String.ofList (text.takeWhile (· ≠ ':')))).map fun chars =>
            (.ascii chars negated, later)
      | _ => none
  | _ => none

/-- Take a character or an escape off a text. -/
def takeItem? (spaced : Bool) : List Char → Option (Escape × List Char)
  | [] => none
  | '\\' :: rest => takeEscape? spaced rest
  | char :: rest => some (.literal char false, rest)

/-- The sign after a minus sign. White space is passed over, and so is one number sign, but no
comment. -/
def signAhead? (numbered : Bool) : List Char → Option Char
  | [] => none
  | char :: rest =>
      if isWhiteSpace char then signAhead? numbered rest
      else if char = '#' ∧ !numbered then signAhead? true rest
      else some char

/-- Take the upper end of a range off a text, if a range goes on there: a minus sign does not begin
the upper end before a closing bracket or another minus sign. -/
def rangeEnd? (spaced : Bool) : List Char → Option (List Char)
  | '-' :: rest =>
      let sign := if spaced then signAhead? false rest else rest.head?
      if sign = some ']' ∨ sign = some '-' then none else some (skip spaced rest)
  | _ => none

/-- Take a member of a bracket off a text: a character, a set, or a range between two
characters. -/
def takeMember? (spaced : Bool) (text : List Char) : Option (SetItem × List Char) := do
  let (first, rest) ← takeItem? spaced text
  let rest := skip spaced rest
  match rangeEnd? spaced rest with
  | some rest =>
      match first, ← takeItem? spaced rest with
      | .literal low _, (.literal high _, later) =>
          if low ≤ high then some (.range low high, later) else none
      | _, _ => none
  | none =>
      match first with
      | .literal char _ => some (.single char, rest)
      | .set item => some (item, rest)
      | _ => none

/-! ## Cutting a text -/

namespace Token

/-- The first tokens of a text inside a bracket. -/
def takeInBracket? (spaced : Bool) : List Char → Option (List Token × List Char)
  | '[' :: rest =>
      match takeNamedSet? rest with
      | some (item, later) => some ([member item], later)
      | none => some (takeBracket spaced rest)
  | ']' :: rest => some ([closeBracket], rest)
  | '&' :: '&' :: rest => some ([operation .intersection], rest)
  | '-' :: '-' :: rest => some ([operation .difference], rest)
  | '~' :: '~' :: rest => some ([operation .symmetricDifference], rest)
  | text => (takeMember? spaced text).map fun (item, later) => ([member item], later)

/-- The first token of a text outside brackets that does not start a bracket. -/
def takePlain? (spaced : Bool) : List Char → Option (Token × List Char)
  | [] => none
  | '(' :: rest => takeGroup? (skip spaced rest)
  | ')' :: rest => some (closeGroup, rest)
  | '|' :: rest => some (bar, rest)
  | '?' :: rest => some (repetitionBefore 0 (some 1) rest)
  | '*' :: rest => some (repetitionBefore 0 none rest)
  | '+' :: rest => some (repetitionBefore 1 none rest)
  | '\x7b' :: rest => takeCounts? spaced rest
  | '.' :: rest => some (dot, rest)
  | '^' :: rest => some (caret, rest)
  | '$' :: rest => some (dollar, rest)
  | '\\' :: rest => (takeEscape? spaced rest).map fun (escape, later) => (escape.token, later)
  | char :: rest => some (literal char false, rest)

/-- The first tokens of a text without spacing in front. -/
def take? (inBracket spaced : Bool) (text : List Char) : Option (List Token × List Char) :=
  if inBracket then takeInBracket? spaced text
  else
    match text with
    | '[' :: rest => some (takeBracket spaced rest)
    | _ => (takePlain? spaced text).map fun (token, later) => ([token], later)

end Token

end RecordFilter.Pattern
