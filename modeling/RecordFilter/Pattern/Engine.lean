import RecordFilter.Criterion
import RecordFilter.Pattern.Footprint
import RecordFilter.Pattern.Reading

/-! # Regular expressions as patterns

The engine that compiles and tests regular expressions. A term is turned into an automaton over
characters, and a text is searched by following all its states at once. The time is linear in the
length of the text.

* `Automaton`: states, of which one is where matches start.
* `Automaton.ofTerm`: the automaton of a term. Repetitions are copies of their body.
* `Automaton.isIn`: whether a text contains a match.
* `regularExpressions`: the engine. -/

namespace RecordFilter.Pattern

/-! ## Automata -/

/-- A state of an automaton. -/
inductive State
  /-- A match is complete. -/
  | accepted
  /-- The next character is in a set. -/
  | char (chars : CharSet) (next : Nat)
  /-- A condition holds. -/
  | assertion (condition : Assertion) (next : Nat)
  /-- Either of two states. -/
  | fork (left right : Nat)
  deriving DecidableEq

/-- An automaton. -/
structure Automaton where
  /-- The states. -/
  states : Array State
  /-- The number of the state where matches start. -/
  start : Nat

namespace Automaton

/-- One more state, where matches start now. -/
def push (automaton : Automaton) (state : State) : Automaton :=
  ⟨automaton.states.push state, automaton.states.size⟩

/-- A start at one of two states. -/
def either (automaton : Automaton) (other : Nat) : Automaton :=
  automaton.push (.fork automaton.start other)

/-- The automaton that complete matches end in. -/
def complete : Automaton := ⟨#[.accepted], 0⟩

end Automaton

/-! ## The automaton of a term -/

/-- The automaton that matches a term and then goes on as a given one. -/
def Term.before (automaton : Automaton) : Term → Automaton
  | empty => automaton
  | text chars =>
      chars.foldr (fun char rest => rest.push (.char (.single char) rest.start)) automaton
  | set chars => automaton.push (.char chars automaton.start)
  | assertion condition => automaton.push (.assertion condition automaton.start)
  | group _ body => body.before automaton
  | sequence first rest => first.before (rest.before automaton)
  | alternative first rest =>
      let left := first.before automaton
      let right := rest.before { left with start := automaton.start }
      right.either left.start
  | repeated body least most _ =>
      let last :=
        match most with
        | some most =>
            let orStop (rest : Automaton) : Automaton :=
              (body.before rest).either automaton.start
            Nat.repeat orStop (most - least) automaton
        | none =>
            let loop := automaton.push (.fork automaton.start automaton.start)
            let inside := body.before loop
            ⟨inside.states.set! loop.start (.fork inside.start automaton.start), loop.start⟩
      Nat.repeat body.before least last

/-- The automaton of a term. -/
def Automaton.ofTerm (term : Term) : Automaton := term.before .complete

/-! ## Searching a text -/

/-- What has been reached at a place. -/
structure Frontier where
  /-- For each state the number of the place where it was last reached. -/
  marks : Array Nat
  /-- The states that wait for a character, with their sets. -/
  waiting : List (CharSet × Nat)
  /-- Whether a match is complete. -/
  isComplete : Bool

namespace Automaton

/-- Reach states at a place, and all states that follow without a character. A state is only
followed once at a place, so twice as many steps as there are states, with one for each state at
the beginning, are enough. -/
def reach (automaton : Automaton) (place : Place) (mark : Nat) :
    Nat → List Nat → Frontier → Frontier
  | 0, _, frontier => frontier
  | _, [], frontier => frontier
  | steps + 1, number :: rest, frontier =>
      if frontier.marks[number]? = some mark then automaton.reach place mark steps rest frontier
      else
        let frontier := { frontier with marks := frontier.marks.set! number mark }
        match automaton.states[number]? with
        | none => automaton.reach place mark steps rest frontier
        | some .accepted =>
            automaton.reach place mark steps rest { frontier with isComplete := true }
        | some (.char chars next) =>
            automaton.reach place mark steps rest
              { frontier with waiting := (chars, next) :: frontier.waiting }
        | some (.assertion condition next) =>
            if condition.holds place then
              automaton.reach place mark steps (next :: rest) frontier
            else automaton.reach place mark steps rest frontier
        | some (.fork left right) =>
            automaton.reach place mark steps (left :: right :: rest) frontier

/-- Search the rest of a text from a numbered place, with the states that matches under way have
come to. A match may start at every place. -/
def search (automaton : Automaton) (marks : Array Nat) (mark : Nat) (pending : List Nat)
    (before : Option Char) (text : List Char) : Bool :=
  let current := automaton.start :: pending
  let steps := current.length + 2 * automaton.states.size
  let frontier := automaton.reach ⟨before, text.head?⟩ mark steps current ⟨marks, [], false⟩
  frontier.isComplete ||
    match text with
    | [] => false
    | next :: rest =>
        let pending := frontier.waiting.filterMap fun (chars, state) =>
          if chars.contains next then some state else none
        automaton.search frontier.marks (mark + 1) pending (some next) rest
termination_by structural text

/-- Whether a text contains a match. -/
def isIn (automaton : Automaton) (text : String) : Bool :=
  automaton.search (.replicate automaton.states.size 0) 1 [] none text.toList

/-- The automaton of the regular expression that a text is, unless it takes too much memory. -/
def ofText? (text : String) : Option Automaton := do
  let term ← Term.ofText? text
  if term.fits then some (ofTerm term) else none

end Automaton

end RecordFilter.Pattern

namespace RecordFilter

/-- Regular expressions over characters, found anywhere in a text. -/
def regularExpressions : PatternEngine where
  Pattern := Pattern.Automaton
  compile? := Pattern.Automaton.ofText?
  isMatch := Pattern.Automaton.isIn

end RecordFilter
