import RecordFilter.Clause.Typing
import RecordFilter.QueryText.State

/-! # Clauses of a query text

Reading a whole query text, in one go or one clause at a time.

* `itemsFrom`, `items`: everything that reading finds, in order. Faults end the list.
* `readRaw`: the clauses of a text as they are written, or the fault it is refused for.
* `read`: the typed clauses of a text. Every clause is typed as soon as it is read, so of several
  faults in a text the leftmost counts.
* `Reader`, `Reader.next`: reading on demand. A reader that has met a fault or the end of its text
  stays silent. -/

namespace RecordFilter.QueryText

/-! ## All clauses at once -/

/-- What reading finds from a state on. -/
def itemsFrom (whitelist : Whitelist) (position : Nat) (state : State) :
    List Char → List (Except Fault RawClause)
  | [] => (state.finish position).toList
  | char :: rest =>
      match state.step whitelist position char with
      | .reading next => itemsFrom whitelist (position + 1) next rest
      | .complete clause => .ok clause :: itemsFrom whitelist (position + 1) .initial rest
      | .refused fault => [.error fault]

/-- What reading a text finds: clauses, and at most one fault, which then is the last item. -/
def items (whitelist : Whitelist) (text : String) : List (Except Fault RawClause) :=
  itemsFrom whitelist 0 .initial text.toList

/-- The clauses of a text as they are written. -/
def readRaw (whitelist : Whitelist) (text : String) : Except Fault (List RawClause) :=
  (items whitelist text).mapM id

/-- The typed clauses of a text, or its first fault. -/
def read (whitelist : Whitelist) (text : String) : Except Fault (List Clause) :=
  (items whitelist text).mapM fun item => item >>= Clause.ofRaw

/-! ## One clause at a time -/

/-- A reader inside a text. -/
structure Reader where
  /-- The field names that clauses may use. -/
  whitelist : Whitelist
  /-- The characters not yet read. -/
  rest : List Char
  /-- The number of characters read. -/
  position : Nat
  /-- The state between the characters. -/
  state : State
  /-- Whether a fault or the end of the text has been met. -/
  finished : Bool
  deriving DecidableEq, Repr

namespace Reader

/-- A reader at the start of a text. -/
def ofText (whitelist : Whitelist) (text : String) : Reader :=
  ⟨whitelist, text.toList, 0, .initial, false⟩

/-- Read up to the next item, for a reader that is not finished. -/
def advance (whitelist : Whitelist) (position : Nat) (state : State) :
    List Char → Option (Except Fault RawClause) × Reader
  | [] => (state.finish position, ⟨whitelist, [], position, state, true⟩)
  | char :: rest =>
      match state.step whitelist position char with
      | .reading next => advance whitelist (position + 1) next rest
      | .complete clause => (some (.ok clause), ⟨whitelist, rest, position + 1, .initial, false⟩)
      | .refused fault => (some (.error fault), ⟨whitelist, rest, position + 1, state, true⟩)

/-- The next item, and the reader after it. -/
def next (reader : Reader) : Option (Except Fault RawClause) × Reader :=
  if reader.finished then (none, reader)
  else advance reader.whitelist reader.position reader.state reader.rest

/-- The answers to the given number of calls. -/
def calls : Nat → Reader → List (Option (Except Fault RawClause))
  | 0, _ => []
  | count + 1, reader => reader.next.1 :: calls count reader.next.2

end Reader

end RecordFilter.QueryText
