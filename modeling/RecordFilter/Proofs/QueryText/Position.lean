import RecordFilter.Proofs.QueryText.Run

/-! # Positions

Reading a text that stands further to the right finds the same clauses and the same fault with its
position moved. The only positions that reading keeps are those of open groups.

* `State.shift`, `Step.shift`: states and steps of a text further to the right.
* `Transition.shift`: every rule of reading moves.
* `itemsFrom_shift`: what is found moves. -/

namespace RecordFilter.QueryText

variable {whitelist : Whitelist} {position offset size : Nat} {state : State} {char : Char}

/-- A scope of a text that stands further to the right. -/
def Scope.shift (offset : Nat) : Scope → Scope
  | outside progress text => outside progress text
  | group header opened body => group header (opened + offset) body

/-- A state of a text that stands further to the right. -/
def State.shift (offset : Nat) (state : State) : State :=
  ⟨state.scope.shift offset, state.escaped⟩

/-- A step of a text that stands further to the right. -/
def Step.shift (offset : Nat) : Step → Step
  | reading state => reading (state.shift offset)
  | complete clause => complete clause
  | refused fault => refused (fault.shift offset)

/-- An item of a text that stands further to the right. -/
def shiftItem (offset : Nat) (item : Except Fault RawClause) : Except Fault RawClause :=
  item.mapError (Fault.shift offset)

@[simp] theorem shiftItem_ok (offset : Nat) (clause : RawClause) :
    shiftItem offset (.ok clause) = .ok clause := rfl

@[simp] theorem shiftItem_error (offset : Nat) (fault : Fault) :
    shiftItem offset (.error fault) = .error (fault.shift offset) := rfl

/-- The initial state is the same everywhere. -/
@[simp] theorem State.shift_initial (offset : Nat) : State.initial.shift offset = .initial := rfl

/-- Moving a scope keeps the characters that cannot be escaped. -/
@[simp] theorem Scope.barred_shift (offset : Nat) (scope : Scope) :
    (scope.shift offset).barred = scope.barred := by
  cases scope <;> rfl

/-- Literal characters do not depend on the position. -/
theorem Scope.shift_push (offset : Nat) (char : Char) (scope : Scope) :
    (scope.push char).shift offset = (scope.shift offset).push char := by
  cases scope <;> rfl

/-- What a colon settles does not depend on the position, which only its faults name. -/
theorem Progress.settle_add (whitelist : Whitelist) (position offset : Nat) (text : String)
    (progress : Progress) :
    progress.settle whitelist (position + offset) text
      = (progress.settle whitelist position text).mapError (Fault.shift offset) := by
  cases progress with
  | start =>
      simp only [settle]
      cases FieldType.ofToken? text <;> rfl
  | typed type =>
      simp only [settle]
      by_cases empty : text = ""
      · simp only [if_pos empty]
        rfl
      · by_cases allowed : whitelist.allows text
        · simp only [if_neg empty, if_pos allowed]
          rfl
        · simp only [if_neg empty, if_neg allowed]
          rfl
  | named type field =>
      simp only [settle]
      cases Operator.ofToken? text <;> rfl
  | headed header => rfl

/-- The rules are the same further to the right. -/
theorem Transition.shift {step : Step} (offset : Nat)
    (rule : Transition whitelist position state char step) :
    Transition whitelist (position + offset) (state.shift offset) char (step.shift offset) := by
  cases rule with
  | escape => exact .escape
  | literal free =>
      -- moving and pushing commute, so the next state has the form of the rule
      simp only [State.shift, Step.shift, Scope.shift_push]
      exact .literal (by rwa [Scope.barred_shift])
  | notEscapable barred => exact .notEscapable (by rwa [Scope.barred_shift])
  | plain ordinary =>
      simp only [State.shift, Step.shift, Scope.shift_push]
      exact .plain ordinary
  | settle settled => exact .settle (by rw [Progress.settle_add, settled]; rfl)
  | unsettled refused => exact .unsettled (by rw [Progress.settle_add, refused]; rfl)
  | skip delimiter => exact .skip delimiter
  | dropStray delimiter nonempty => exact .dropStray delimiter nonempty
  | dropTyped delimiter nonempty => exact .dropTyped delimiter nonempty
  | incomplete delimiter nonempty => exact .incomplete delimiter nonempty
  | value delimiter nonempty => exact .value delimiter nonempty
  | openGroup bracket => exact .openGroup bracket
  | early missing bracket => exact .early missing bracket
  | unopened delimiter => exact .unopened delimiter
  | colonInside => exact .colonInside
  | separate delimiter => exact .separate delimiter
  | nested bracket => exact .nested bracket
  | closeGroup delimiter => exact .closeGroup delimiter

/-- The end of a text finds the same further to the right. -/
theorem State.finish_shift (size offset : Nat) (state : State) :
    (state.shift offset).finish (size + offset)
      = (state.finish size).map (shiftItem offset) := by
  obtain ⟨scope, escaped⟩ := state
  cases escaped with
  | true => cases scope <;> rfl
  | false =>
      cases scope with
      | group header opened body => rfl
      | outside progress text =>
          by_cases empty : text = "" <;> cases progress <;>
            simp [State.shift, Scope.shift, State.finish, Progress.close, Fault.shift, empty]

/-- Reading finds the same further to the right, with the position of a fault moved. -/
theorem itemsFrom_shift (whitelist : Whitelist) (position offset : Nat) (state : State)
    (chars : List Char) :
    itemsFrom whitelist (position + offset) (state.shift offset) chars
      = (itemsFrom whitelist position state chars).map (shiftItem offset) := by
  -- the offset stays on the right of the position, which grows by one with each character
  induction chars generalizing position state with
  | nil =>
      rw [itemsFrom, itemsFrom, State.finish_shift]
      cases state.finish position <;> rfl
  | cons char rest induction =>
      cases outcome : state.step whitelist position char with
      | reading next =>
          have rule := transition_iff.2 outcome
          rw [itemsFrom_reading rule, itemsFrom_reading (rule.shift offset), Nat.add_right_comm,
            induction]
      | complete clause =>
          have rule := transition_iff.2 outcome
          rw [itemsFrom_complete rule, itemsFrom_complete (rule.shift offset), Nat.add_right_comm,
            List.map_cons, shiftItem_ok, ← induction, State.shift_initial]
      | refused fault =>
          have rule := transition_iff.2 outcome
          rw [itemsFrom_refused rule, itemsFrom_refused (rule.shift offset), List.map_singleton,
            shiftItem_error]

end RecordFilter.QueryText
