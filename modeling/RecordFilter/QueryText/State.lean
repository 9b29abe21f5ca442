import RecordFilter.Fault
import RecordFilter.QueryText.GroupBody
import RecordFilter.QueryText.Symbol
import RecordFilter.Clause.Basic
import RecordFilter.Whitelist

/-! # Reading a query text character by character

A query text is a sequence of clauses `type:field:operator:value`, separated by commas or vertical
bars. A value is plain text or a bracketed group, and a backslash takes the next character
literally.

* `Progress`: the header parts of the current clause that are settled.
* `Scope`: the place of the next character, outside a group or inside one, with the text read there.
* `State`: a scope, and whether the next character is escaped.
* `State.step`: the effect of one character; `State.finish`: the effect of the end of the text.

A completed clause leaves nothing behind: `Step.complete` carries no state, and reading goes on
from `State.initial`. -/

namespace RecordFilter.QueryText

/-! ## States -/

/-- The settled header parts of the current clause. -/
inductive Progress
  /-- Nothing is settled; the type comes next. -/
  | start
  /-- The type is settled; the field comes next. -/
  | typed (type : FieldType)
  /-- Type and field are settled; the operator comes next. -/
  | named (type : FieldType) (field : String)
  /-- The header is settled; the value comes next. -/
  | headed (header : Header)
  deriving DecidableEq, Repr

/-- The place of the next character. -/
inductive Scope
  /-- Outside a group: the text read since the last colon or clause. -/
  | outside (progress : Progress) (text : String)
  /-- Inside the group opened at a position: the units read so far. -/
  | group (header : Header) (opened : Nat) (body : Array GroupUnit)
  deriving DecidableEq, Repr

/-- A state between two characters. -/
structure State where
  /-- The place of the next character. -/
  scope : Scope
  /-- Whether a backslash has just been read. -/
  escaped : Bool
  deriving DecidableEq, Repr

/-- The state at the start of a text, and after every completed clause. -/
def State.initial : State := ⟨.outside .start "", false⟩

/-- The effect of one character. -/
inductive Step
  /-- Reading goes on in the given state. -/
  | reading (state : State)
  /-- A clause is complete, and reading goes on from the initial state. -/
  | complete (clause : RawClause)
  /-- The text is refused. -/
  | refused (fault : Fault)
  deriving DecidableEq, Repr

/-- Reading goes on, with the next character unescaped. -/
def Step.resume (scope : Scope) : Step := reading ⟨scope, false⟩

/-! ## Header parts -/

/-- The settled header, or the first part that is missing. -/
def Progress.header : Progress → Except HeaderPart Header
  | start => .error .type
  | typed _ => .error .field
  | named _ _ => .error .operator
  | headed header => .ok header

/-- A colon after the given text settles the next header part. -/
def Progress.settle (whitelist : Whitelist) (position : Nat) (text : String) :
    Progress → Except Fault Progress
  | start =>
      match FieldType.ofToken? text with
      | some type => .ok (typed type)
      | none => .error (.typeUnknown text)
  | typed type =>
      if text = "" then .error (.fieldEmpty position)
      else if whitelist.allows text then .ok (named type text)
      else .error (.fieldNotListed text)
  | named type field =>
      match Operator.ofToken? text with
      | some operator => .ok (headed ⟨type, field, operator⟩)
      | none => .error (.operatorUnknown text)
  | headed _ => .error (.strayColon position)

/-- A separator, or the end of the text, after some text. A value becomes a clause, and text that
stands where no field is settled belongs to no clause and is dropped. -/
def Progress.close (position : Nat) (text : String) : Progress → Step
  | start | typed _ => .reading .initial
  | named _ _ => .refused (.headerIncomplete .operator position)
  | headed header => .complete ⟨header, .one text⟩

/-! ## Steps -/

/-- Take a character literally. -/
def Scope.push (char : Char) : Scope → Scope
  | outside progress text => outside progress (text.push char)
  | group header opened body => group header opened (body.push (.literal char))

/-- The effect of an escaped character. Closing brackets cannot be escaped, and separators only
inside a group, where alone they would not end the value. -/
def Scope.escape (position : Nat) (char : Char) (scope : Scope) : Step :=
  match Symbol.ofChar char, scope with
  | .closing _, _ | .separator _, outside _ _ => .refused (.notEscapable char position)
  | _, _ => .resume (scope.push char)

/-- The effect of an unescaped character outside a group. Text before a group is dropped. -/
def stepOutside (whitelist : Whitelist) (position : Nat) (char : Char) (progress : Progress)
    (text : String) : Step :=
  match Symbol.ofChar char with
  | .escape => .reading ⟨.outside progress text, true⟩
  | .colon =>
      match progress.settle whitelist position text with
      | .ok next => .resume (.outside next "")
      | .error fault => .refused fault
  | .separator _ =>
      if text = "" then .resume (.outside progress text) else progress.close position text
  | .opening =>
      match progress.header with
      | .ok header => .resume (.group header position #[])
      | .error part => .refused (.headerIncomplete part position)
  | .closing delimiter => .refused (.nothingToClose delimiter position)
  | .plain => .resume ((Scope.outside progress text).push char)

/-- The effect of an unescaped character inside a group. -/
def stepInGroup (position : Nat) (char : Char) (header : Header) (opened : Nat)
    (body : Array GroupUnit) : Step :=
  match Symbol.ofChar char with
  | .escape => .reading ⟨.group header opened body, true⟩
  | .colon => .refused (.colonInsideGroup position)
  | .separator delimiter => .resume (.group header opened (body.push (.separator delimiter)))
  | .opening => .refused (.groupInsideGroup position)
  | .closing delimiter =>
      .complete
        ⟨header, .group ((GroupUnit.split delimiter body.toList).map String.ofList) delimiter⟩
  | .plain => .resume ((Scope.group header opened body).push char)

/-- The effect of the character at a position. -/
def State.step (whitelist : Whitelist) (position : Nat) (char : Char) (state : State) : Step :=
  if state.escaped then state.scope.escape position char
  else
    match state.scope with
    | .outside progress text => stepOutside whitelist position char progress text
    | .group header opened body => stepInGroup position char header opened body

/-- The effect of the end of a text with the given number of characters: no open escape or group
may be left, and text that is left is closed as by a separator. -/
def State.finish (size : Nat) (state : State) : Option (Except Fault RawClause) :=
  if state.escaped then some (.error .escapeAtEnd)
  else
    match state.scope with
    | .group _ opened _ => some (.error (.groupLeftOpen opened))
    | .outside progress text =>
        if text = "" then none
        else
          match progress.close size text with
          | .reading _ => none
          | .complete clause => some (.ok clause)
          | .refused fault => some (.error fault)

end RecordFilter.QueryText
