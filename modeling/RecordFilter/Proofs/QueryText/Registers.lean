import Mathlib.Data.List.ModifyLast
import RecordFilter.QueryText.State

/-! # Reading with registers

Reading as a machine that works on registers, one assignment after the other: the settled parts are
taken out of their register before it is known whether they can be used, and there is one buffer for
all text outside groups, which every clause has to leave empty.

* `Segment`, `splitSegments`: the text of a group, kept with the separators that it was written
  with, and cut when the closing bracket is known.
* `Registers`: what the machine remembers; `Change`: a change of the registers, or a fault.
* `Registers.step`, `Registers.finish`: the effect of one character, and of the end of the text.
* `Registers.itemsFrom`: everything that the machine finds.
* `Registers.after`: the registers after some characters, with the clauses found.
* `Defaults`: what the machine would use where a lookup found nothing. -/

namespace RecordFilter.QueryText

/-! ## The text of a group -/

/-- The text of a group after a separator, or after its opening bracket. -/
structure Segment where
  /-- The separator before the text. -/
  separator : Option Char
  /-- The text. -/
  text : String
  deriving DecidableEq, Repr

/-- One more character. -/
def Segment.push (char : Char) (segment : Segment) : Segment :=
  { segment with text := segment.text.push char }

/-- The values that are cut off, and the text of the value that goes on, with one more segment. The
separators that are not the delimiter belong to the text. -/
def Segment.cut (delimiter : Delimiter) (found : List String × String) (segment : Segment) :
    List String × String :=
  match segment.separator with
  | none => (found.1, found.2 ++ segment.text)
  | some char =>
      if char = delimiter.char then (found.1 ++ [found.2], segment.text)
      else (found.1, found.2.push char ++ segment.text)

/-- The values of a group that is closed for the delimiter. -/
def splitSegments (delimiter : Delimiter) (segments : List Segment) : List String :=
  let found := segments.foldl (Segment.cut delimiter) ([], "")
  found.1 ++ [found.2]

/-! ## Registers -/

/-- Where the machine stands. -/
inductive Place
  /-- Outside a group, with the header parts settled so far. -/
  | heading (progress : Progress)
  /-- Inside the group opened at a position. -/
  | group (header : Header) (opened : Nat) (segments : List Segment)
  deriving DecidableEq, Repr

namespace Place

/-- The first header part that is not settled. -/
def missing? : Place → Option HeaderPart
  | heading .start => some .type
  | heading (.typed _) => some .field
  | heading (.named _ _) => some .operator
  | heading (.headed _) | group _ _ _ => none

/-- The field that is stored. -/
def field? : Place → Option String
  | heading .start | heading (.typed _) => none
  | heading (.named _ field) => some field
  | heading (.headed header) | group header _ _ => some header.field

end Place

/-- The registers between two characters. -/
structure Registers where
  /-- Where the machine stands. -/
  place : Place
  /-- The text outside a group. -/
  buffer : String
  /-- Whether a backslash has just been read. -/
  escaped : Bool
  deriving DecidableEq, Repr

/-- What is used where a lookup finds nothing. -/
structure Defaults where
  /-- The fault of a bracket that closes no kind of group. -/
  closing : Char → Nat → Fault
  /-- The header part that is reported where none is missing. -/
  part : HeaderPart

/-- A change of the registers, with a result, or a fault. -/
abbrev Change := StateT Registers (Except Fault)

namespace Registers

/-- The registers at the start of a text. -/
def initial : Registers := ⟨.heading .start, "", false⟩

/-! ## Single registers -/

/-- Take the text out of the buffer. -/
def takeBuffer : Change String :=
  modifyGet fun registers => (registers.buffer, { registers with buffer := "" })

/-- Empty the buffer. -/
def clearBuffer : Change Unit :=
  modify fun registers => { registers with buffer := "" }

/-- Take the place out of its register, which then is the place at the start. -/
def takePlace : Change Place :=
  modifyGet fun registers => (registers.place, { registers with place := .heading .start })

/-- Set the place. -/
def setPlace (place : Place) : Change Unit :=
  modify fun registers => { registers with place }

/-- Set the escape mark. -/
def setEscaped (escaped : Bool) : Change Unit :=
  modify fun registers => { registers with escaped }

/-- Add a character to the last segment of the group, or to the buffer. -/
def push (char : Char) : Change Unit :=
  modify fun registers =>
    match registers.place with
    | .group header opened segments =>
        let longer := segments.modifyLast (Segment.push char)
        { registers with place := .group header opened longer }
    | .heading _ => { registers with buffer := registers.buffer.push char }

/-! ## Kinds of characters -/

/-- A character after a backslash. -/
def escapedChar (position : Nat) (char : Char) : Change Unit := do
  match char, (← get).place with
  | ',', .heading _ | '|', .heading _ => throw (.notEscapable char position)
  | ']', _ | ')', _ => throw (.notEscapable char position)
  | _, _ => push char

/-- A colon. -/
def colon (whitelist : Whitelist) (position : Nat) : Change Unit := do
  let text ← takeBuffer
  match ← takePlace with
  | .heading progress =>
      let next ← progress.settle whitelist position text
      setPlace (.heading next)
  | .group _ _ _ => throw (.colonInsideGroup position)

/-- A clause with the header and value. -/
def emit (header : Header) (value : Argument String) : Change RawClause := do
  clearBuffer
  return ⟨header, value⟩

/-- The end of a value that stands alone. Text before a settled field is dropped. -/
def finishValue (position : Nat) : Change (Option RawClause) := do
  match ← takePlace with
  | .heading (.headed header) =>
      let text ← takeBuffer
      let clause ← emit header (.one text)
      return some clause
  | .heading (.named _ _) => throw (.headerIncomplete .operator position)
  | _ =>
      clearBuffer
      return none

/-- A separator. -/
def separator (position : Nat) (char : Char) : Change (Option RawClause) := do
  let registers ← get
  match registers.place with
  | .group header opened segments =>
      setPlace (.group header opened (segments ++ [⟨some char, ""⟩]))
      return none
  | .heading _ => if registers.buffer = "" then return none else finishValue position

/-- An opening bracket. -/
def openGroup (defaults : Defaults) (position : Nat) : Change Unit := do
  match ← takePlace with
  | .heading (.headed header) =>
      clearBuffer
      setPlace (.group header position [⟨none, ""⟩])
  | .group _ _ _ => throw (.groupInsideGroup position)
  | other => throw (.headerIncomplete (other.missing?.getD defaults.part) position)

/-- A closing bracket. -/
def closeGroup (defaults : Defaults) (position : Nat) (char : Char) : Change RawClause := do
  match Delimiter.ofClosing? char with
  | none => throw (defaults.closing char position)
  | some delimiter =>
      match ← takePlace with
      | .group header _ segments =>
          emit header (.group (splitSegments delimiter segments) delimiter)
      | .heading _ => throw (.nothingToClose delimiter position)

/-! ## Steps -/

/-- The effect of the character at a position, with the clause that it completes. -/
def step (defaults : Defaults) (whitelist : Whitelist) (position : Nat) (char : Char) :
    Change (Option RawClause) := do
  if (← get).escaped then
    setEscaped false
    escapedChar position char
    return none
  else
    match char with
    | '\\' =>
        setEscaped true
        return none
    | ':' =>
        colon whitelist position
        return none
    | ',' | '|' => separator position char
    | '[' | '(' =>
        openGroup defaults position
        return none
    | ']' | ')' =>
        let clause ← closeGroup defaults position char
        return some clause
    | _ =>
        push char
        return none

/-- The effect of the end of a text with the given number of characters. -/
def finish (size : Nat) : Change (Option RawClause) := do
  let registers ← get
  if registers.escaped then throw .escapeAtEnd
  else
    match registers.place with
    | .group _ opened _ => throw (.groupLeftOpen opened)
    | .heading _ => if registers.buffer = "" then return none else finishValue size

/-! ## Runs -/

/-- What the machine finds from the registers on. -/
def itemsFrom (defaults : Defaults) (whitelist : Whitelist) (position : Nat)
    (registers : Registers) : List Char → List (Except Fault RawClause)
  | [] =>
      match (finish position).run registers with
      | .ok (clause?, _) => clause?.toList.map .ok
      | .error fault => [.error fault]
  | char :: rest =>
      match (step defaults whitelist position char).run registers with
      | .ok (clause?, next) =>
          clause?.toList.map .ok ++ itemsFrom defaults whitelist (position + 1) next rest
      | .error fault => [.error fault]

/-- What some characters at the start of a text come to: the clauses found, and the registers after
the last character. -/
def after (defaults : Defaults) (whitelist : Whitelist) (chars : List Char) :
    Except Fault (List RawClause × Registers) :=
  chars.zipIdx.foldlM
    (fun found read => do
      let (clause?, next) ← (step defaults whitelist read.2 read.1).run found.2
      return (found.1 ++ clause?.toList, next))
    ([], initial)

end Registers

end RecordFilter.QueryText
