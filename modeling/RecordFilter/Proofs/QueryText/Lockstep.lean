import Mathlib.Data.List.Induction
import RecordFilter.Proofs.QueryText.Registers
import RecordFilter.Proofs.QueryText.Run
import RecordFilter.Proofs.Traversal

/-! # The registers and the states

The machine with registers and the states of reading go through a text in lockstep: every state is
kept in registers of its own, and a character that changes the state changes these registers in the
same way.

* `segmentsFrom`: the segments of a group; `splitSegments_segmentsFrom`: both ways to cut agree.
* `State.toRegisters`: the registers that a state is kept in.
* `Transition.run_step`: one step of reading is one step of the machine.
* `Registers.itemsFrom_toRegisters`: both find the same.
* `Registers.after_eq_ok_iff`: the registers of the machine are the states that reading can
  reach. -/

namespace RecordFilter.QueryText

/-! ## Segments -/

/-- The segments of a text, of which the first one has begun already. -/
def segmentsFrom (separator : Option Char) (text : String) : List GroupUnit → List Segment
  | [] => [⟨separator, text⟩]
  | .literal char :: rest => segmentsFrom separator (text.push char) rest
  | .separator delimiter :: rest =>
      ⟨separator, text⟩ :: segmentsFrom (some delimiter.char) "" rest

/-- There is always a segment that the next character goes to. -/
theorem segmentsFrom_ne_nil (separator : Option Char) (text : String) (units : List GroupUnit) :
    segmentsFrom separator text units ≠ [] := by
  induction units generalizing separator text with
  | nil => exact List.cons_ne_nil _ _
  | cons unit rest induction =>
      cases unit with
      | literal char => exact induction separator (text.push char)
      | separator delimiter => exact List.cons_ne_nil _ _

/-- One more literal character goes to the last segment. -/
theorem segmentsFrom_concat_literal (separator : Option Char) (text : String)
    (units : List GroupUnit) (char : Char) :
    segmentsFrom separator text (units ++ [.literal char])
      = (segmentsFrom separator text units).modifyLast (Segment.push char) := by
  induction units generalizing separator text with
  | nil => exact (List.modifyLast_concat (Segment.push char) ⟨separator, text⟩ []).symm
  | cons unit rest induction =>
      cases unit with
      | literal first => exact induction separator (text.push first)
      | separator delimiter =>
          -- the segments after the separator are not empty, so the last one is among them
          have others := segmentsFrom_ne_nil (some delimiter.char) "" rest
          rw [List.cons_append, segmentsFrom, induction]
          exact (List.modifyLast_append_of_right_ne_nil _ [⟨separator, text⟩] _ others).symm

/-- One more separator begins a new segment. -/
theorem segmentsFrom_concat_separator (separator : Option Char) (text : String)
    (units : List GroupUnit) (delimiter : Delimiter) :
    segmentsFrom separator text (units ++ [.separator delimiter])
      = segmentsFrom separator text units ++ [⟨some delimiter.char, ""⟩] := by
  induction units generalizing separator text with
  | nil => rfl
  | cons unit rest induction =>
      cases unit with
      | literal first => exact induction separator (text.push first)
      | separator other => exact congrArg (List.cons _) (induction (some other.char) "")

/-- The first segment has the separator that it began with, and the others have one of the two. -/
theorem segmentsFrom_eq_cons (separator : Option Char) (text : String) (units : List GroupUnit) :
    ∃ first others, segmentsFrom separator text units = first :: others
      ∧ first.separator = separator
      ∧ ∀ segment ∈ others, ∃ delimiter : Delimiter, segment.separator = some delimiter.char := by
  induction units generalizing separator text with
  | nil => exact ⟨⟨separator, text⟩, [], rfl, rfl, by simp⟩
  | cons unit rest induction =>
      cases unit with
      | literal char => exact induction separator (text.push char)
      | separator delimiter =>
          obtain ⟨first, others, split, begins, later⟩ := induction (some delimiter.char) ""
          refine ⟨⟨separator, text⟩, first :: others, congrArg (List.cons _) split, rfl, ?_⟩
          intro segment member
          rcases List.mem_cons.1 member with rfl | member
          · exact ⟨delimiter, begins⟩
          · exact later segment member

/-- A character that a segment ends with goes to the value that goes on. -/
theorem Segment.cut_push (delimiter : Delimiter) (found : List String × String)
    (separator : Option Char) (text : String) (char : Char) :
    Segment.cut delimiter found ⟨separator, text.push char⟩
      = ((Segment.cut delimiter found ⟨separator, text⟩).1,
          (Segment.cut delimiter found ⟨separator, text⟩).2.push char) := by
  have longer (front : String) : front ++ text.push char = (front ++ text).push char := by
    simp [← String.toList_inj]
  cases separator with
  | none => simp [Segment.cut, longer]
  | some other => by_cases cut : other = delimiter.char <;> simp [Segment.cut, cut, longer]

/-- Values whose first one begins with nothing more. -/
theorem modifyHead_self (values : List (List Char)) :
    values.modifyHead (fun value => value) = values :=
  congrFun List.modifyHead_id values

/-- Cutting segments one after the other gives the values that are cut off already, and those of the
units, of which the first one goes on. -/
theorem foldl_cut_segmentsFrom (delimiter : Delimiter) (found : List String × String)
    (separator : Option Char) (text : String) (units : List GroupUnit) :
    ((segmentsFrom separator text units).foldl (Segment.cut delimiter) found).1
        ++ [((segmentsFrom separator text units).foldl (Segment.cut delimiter) found).2]
      = (Segment.cut delimiter found ⟨separator, text⟩).1
        ++ ((GroupUnit.split delimiter units).modifyHead
          ((Segment.cut delimiter found ⟨separator, text⟩).2.toList ++ ·)).map String.ofList := by
  induction units generalizing found separator text with
  | nil => simp [segmentsFrom]
  | cons unit rest induction =>
      rw [GroupUnit.split_cons]
      cases unit with
      | literal char =>
          -- the character goes to the value that goes on, whichever way it is reached
          rw [segmentsFrom, induction, Segment.cut_push, if_neg (by simp)]
          simp [GroupUnit.char, Function.comp_def]
      | separator other =>
          rw [segmentsFrom, List.foldl_cons, induction]
          by_cases same : other = delimiter
          · subst same
            simp [Segment.cut, modifyHead_self]
          · -- the separator does not cut, so it is a character of the value that goes on
            have differ : other.char ≠ delimiter.char := by
              revert same
              cases other <;> cases delimiter <;> decide
            simp [Segment.cut, same, differ, GroupUnit.char, Function.comp_def]

/-- Segments are cut into the values of their units. -/
theorem splitSegments_segmentsFrom (delimiter : Delimiter) (units : List GroupUnit) :
    splitSegments delimiter (segmentsFrom none "" units)
      = (GroupUnit.split delimiter units).map String.ofList := by
  rw [splitSegments, foldl_cut_segmentsFrom]
  simp [Segment.cut, modifyHead_self]

/-- The separator that is not the delimiter belongs to a value. -/
example : splitSegments .comma [⟨none, "a"⟩, ⟨some '|', "b"⟩, ⟨some ',', "c"⟩] = ["a|b", "c"] := by
  decide

/-! ## States in registers -/

variable {defaults : Defaults} {whitelist : Whitelist} {position : Nat} {state : State}
  {registers next : Registers} {step : Step} {char : Char} {chars : List Char}
  {clauses : List RawClause} {clause? : Option RawClause}

/-- The place that a scope is kept as. -/
def Scope.place : Scope → Place
  | outside progress _ => .heading progress
  | group header opened body => .group header opened (segmentsFrom none "" body.toList)

/-- The buffer that a scope is kept with. -/
def Scope.buffer : Scope → String
  | outside _ text => text
  | group _ _ _ => ""

/-- The registers that a state is kept in. -/
def State.toRegisters (state : State) : Registers :=
  ⟨state.scope.place, state.scope.buffer, state.escaped⟩

/-- A step as a result of the machine. -/
def Step.result : Step → Except Fault (Option RawClause × Registers)
  | reading state => .ok (none, state.toRegisters)
  | complete clause => .ok (some clause, .initial)
  | refused fault => .error fault

/-- A group is kept with an empty buffer. -/
theorem State.toRegisters_group (header : Header) (opened : Nat) (body : Array GroupUnit)
    (escaped : Bool) :
    State.toRegisters ⟨.group header opened body, escaped⟩
      = ⟨.group header opened (segmentsFrom none "" body.toList), "", escaped⟩ := rfl

/-- The start of a text is the same for both. -/
@[simp] theorem State.toRegisters_initial : State.initial.toRegisters = Registers.initial := rfl

/-- A literal character goes to the same place in both. -/
theorem Registers.run_push (char : Char) (scope : Scope) (escaped : Bool) :
    (push char).run (State.toRegisters ⟨scope, escaped⟩)
      = .ok ((), State.toRegisters ⟨scope.push char, escaped⟩) := by
  cases scope with
  | outside progress text => rfl
  | group header opened body =>
      have last := segmentsFrom_concat_literal none "" body.toList char
      simp [push, State.toRegisters, Scope.place, Scope.buffer, Scope.push, last, pure, Except.pure]

/-! ## One step -/

/-- A character after a backslash is literal in both, or refused in both. -/
theorem Registers.run_escapedChar (position : Nat) (char : Char) (scope : Scope) :
    (escapedChar position char).run (State.toRegisters ⟨scope, false⟩)
      = if char ∈ scope.barred then .error (.notEscapable char position)
        else .ok ((), State.toRegisters ⟨scope.push char, false⟩) := by
  by_cases barred : char ∈ scope.barred
  · rw [if_pos barred]
    cases scope with
    | outside progress text =>
        simp only [Scope.barred, List.mem_cons, List.not_mem_nil, or_false] at barred
        rcases barred with rfl | rfl | rfl | rfl <;> rfl
    | group header opened body =>
        simp only [Scope.barred, List.mem_cons, List.not_mem_nil, or_false] at barred
        rcases barred with rfl | rfl <;> rfl
  · rw [if_neg barred, ← run_push]
    cases scope with
    | outside progress text =>
        simp only [Scope.barred, List.mem_cons, List.not_mem_nil, or_false, not_or] at barred
        simp [escapedChar, State.toRegisters, Scope.place, barred]
    | group header opened body =>
        simp only [Scope.barred, List.mem_cons, List.not_mem_nil, or_false, not_or] at barred
        simp [escapedChar, State.toRegisters, Scope.place, barred]

/-- An escaped character does the same in both. -/
theorem Registers.run_step_escaped (defaults : Defaults) (whitelist : Whitelist) (position : Nat)
    (char : Char) (scope : Scope) :
    (Registers.step defaults whitelist position char).run (State.toRegisters ⟨scope, true⟩)
      = if char ∈ scope.barred then .error (.notEscapable char position)
        else .ok (none, State.toRegisters ⟨scope.push char, false⟩) := by
  -- the escape mark is taken away before the character is looked at
  change (escapedChar position char >>= fun _ => pure none).run (State.toRegisters ⟨scope, false⟩)
    = _
  rw [StateT.run_bind, run_escapedChar]
  by_cases barred : char ∈ scope.barred
  · rw [if_pos barred, if_pos barred]
    rfl
  · rw [if_neg barred, if_neg barred]
    rfl

/-- A colon outside a group settles the same in both. -/
theorem Registers.run_step_colon (defaults : Defaults) (whitelist : Whitelist) (position : Nat)
    (progress : Progress) (text : String) :
    (Registers.step defaults whitelist position ':').run
        (State.toRegisters ⟨.outside progress text, false⟩)
      = (progress.settle whitelist position text).map fun next =>
          (none, State.toRegisters ⟨.outside next "", false⟩) := by
  -- the text and the parts are taken before it is known whether they settle anything
  change ((progress.settle whitelist position text >>= fun next => .ok (next, initial))
    >>= fun settled => .ok ((), { settled.2 with place := .heading settled.1 }))
      >>= (fun done => .ok (none, done.2)) = _
  cases progress.settle whitelist position text <;> rfl

/-- The end of a value closes the settled parts in both. -/
theorem Registers.run_finishValue (position : Nat) (progress : Progress) (text : String) :
    (finishValue position).run (State.toRegisters ⟨.outside progress text, false⟩)
      = (progress.close position text).result := by
  cases progress <;> rfl

/-- A separator outside a group closes the text before it, if there is one. -/
theorem Registers.run_step_separator (defaults : Defaults) (whitelist : Whitelist) (position : Nat)
    (progress : Progress) {text : String} (delimiter : Delimiter) (nonempty : text ≠ "") :
    (Registers.step defaults whitelist position delimiter.char).run
        (State.toRegisters ⟨.outside progress text, false⟩)
      = (progress.close position text).result := by
  have closed :
      (separator position delimiter.char).run (State.toRegisters ⟨.outside progress text, false⟩)
        = (progress.close position text).result := by
    rw [← run_finishValue]
    change (if text = "" then pure none else finishValue position).run _ = _
    rw [if_neg nonempty]
  cases delimiter <;> exact closed

/-- One step of reading is one step of the machine. -/
theorem Transition.run_step (defaults : Defaults)
    (rule : Transition whitelist position state char step) :
    (Registers.step defaults whitelist position char).run state.toRegisters = step.result := by
  cases rule with
  | escape => rfl
  | literal free =>
      rw [Registers.run_step_escaped, if_neg free]
      rfl
  | notEscapable barred =>
      rw [Registers.run_step_escaped, if_pos barred]
      rfl
  | @plain scope char ordinary =>
      simp only [structural, List.mem_cons, List.not_mem_nil, or_false, not_or] at ordinary
      have pushed : (Registers.step defaults whitelist position char).run
          (State.toRegisters ⟨scope, false⟩) = (Registers.push char >>= fun _ => pure none).run
            (State.toRegisters ⟨scope, false⟩) := by
        simp [Registers.step, State.toRegisters, ordinary]
      rw [pushed, StateT.run_bind, Registers.run_push]
      rfl
  | settle settled =>
      rw [Registers.run_step_colon, settled]
      rfl
  | unsettled refused =>
      rw [Registers.run_step_colon, refused]
      rfl
  | skip delimiter => cases delimiter <;> rfl
  | dropStray delimiter nonempty =>
      exact Registers.run_step_separator _ _ _ _ delimiter nonempty
  | dropTyped delimiter nonempty =>
      exact Registers.run_step_separator _ _ _ _ delimiter nonempty
  | incomplete delimiter nonempty =>
      exact Registers.run_step_separator _ _ _ _ delimiter nonempty
  | value delimiter nonempty =>
      exact Registers.run_step_separator _ _ _ _ delimiter nonempty
  | openGroup bracket => rcases bracket with rfl | rfl <;> rfl
  | @early progress text part char missing bracket =>
      cases progress <;> cases missing <;> rcases bracket with rfl | rfl <;> rfl
  | unopened delimiter => cases delimiter <;> rfl
  | colonInside => rfl
  | @separate header opened body delimiter =>
      have longer := segmentsFrom_concat_separator none "" body.toList delimiter
      rw [← Array.toList_push] at longer
      rw [Step.result, State.toRegisters_group, State.toRegisters_group, longer]
      cases delimiter <;> rfl
  | nested bracket => rcases bracket with rfl | rfl <;> rfl
  | @closeGroup header opened body delimiter =>
      -- the bracket chooses the delimiter at which the segments are cut
      rw [Step.result, ← splitSegments_segmentsFrom]
      cases delimiter <;> rfl

/-- The machine goes on, or completes a clause, exactly if reading does. -/
theorem Registers.run_step_eq_ok_iff :
    (Registers.step defaults whitelist position char).run state.toRegisters = .ok (clause?, next)
      ↔ (∃ later, Transition whitelist position state char (.reading later) ∧ clause? = none
          ∧ next = later.toRegisters)
        ∨ ∃ clause, Transition whitelist position state char (.complete clause)
          ∧ clause? = some clause ∧ next = .initial := by
  constructor
  · intro changed
    have rule := Transition.of_step whitelist position state char
    rw [rule.run_step] at changed
    cases outcome : state.step whitelist position char with
    | reading later =>
        rw [outcome] at rule changed
        cases changed
        exact .inl ⟨later, rule, rfl, rfl⟩
    | complete clause =>
        rw [outcome] at rule changed
        cases changed
        exact .inr ⟨clause, rule, rfl, rfl⟩
    | refused fault =>
        rw [outcome] at changed
        cases changed
  · rintro (⟨later, rule, rfl, rfl⟩ | ⟨clause, rule, rfl, rfl⟩)
    · exact rule.run_step defaults
    · exact rule.run_step defaults

/-- The end of a text closes the text outside a group, if there is one. -/
theorem Registers.run_finish_text (size : Nat) (progress : Progress) {text : String}
    (nonempty : text ≠ "") :
    (finish size).run (State.toRegisters ⟨.outside progress text, false⟩)
      = (progress.close size text).result := by
  rw [← run_finishValue]
  change (if text = "" then pure none else finishValue size).run _ = _
  rw [if_neg nonempty]

/-- The end of a text is the same for both. -/
theorem Registers.run_finish (size : Nat) (state : State) :
    (match (finish size).run state.toRegisters with
      | .ok (clause?, _) => clause?.toList.map .ok
      | .error fault => [.error fault])
      = (state.finish size).toList := by
  obtain ⟨scope, escaped⟩ := state
  cases escaped with
  | true => rfl
  | false =>
      cases scope with
      | group header opened body => rfl
      | outside progress text =>
          by_cases empty : text = ""
          · subst empty
            rfl
          · rw [run_finish_text size progress empty]
            cases progress <;> simp [State.finish, Progress.close, Step.result, empty]

/-- The end of a text without a fault leaves the registers alone, or as they are at the start. -/
theorem Registers.eq_of_run_finish
    (ended : (finish position).run state.toRegisters = .ok (clause?, next)) :
    next = state.toRegisters ∨ next = .initial ∧ state.escaped = false := by
  obtain ⟨scope, escaped⟩ := state
  cases escaped with
  | true => cases ended
  | false =>
      cases scope with
      | group header opened body => cases ended
      | outside progress text =>
          by_cases empty : text = ""
          · subst empty
            cases ended
            exact .inl rfl
          · rw [run_finish_text position progress empty] at ended
            refine .inr ⟨?_, rfl⟩
            cases progress <;> cases ended <;> rfl

/-! ## Runs -/

/-- From the registers of a state the machine finds what reading finds from the state. -/
theorem Registers.itemsFrom_toRegisters (defaults : Defaults) (whitelist : Whitelist)
    (position : Nat) (state : State) (chars : List Char) :
    itemsFrom defaults whitelist position state.toRegisters chars
      = QueryText.itemsFrom whitelist position state chars := by
  induction chars generalizing position state with
  | nil => exact run_finish position state
  | cons char rest induction =>
      cases outcome : state.step whitelist position char with
      | reading next =>
          have rule := transition_iff.2 outcome
          rw [itemsFrom_reading rule, itemsFrom, rule.run_step, ← induction]
          rfl
      | complete clause =>
          have rule := transition_iff.2 outcome
          rw [itemsFrom_complete rule, itemsFrom, rule.run_step, ← induction]
          rfl
      | refused fault =>
          have rule := transition_iff.2 outcome
          rw [itemsFrom_refused rule, itemsFrom, rule.run_step]
          rfl

/-- One more character is a step from the registers after those before it. -/
theorem Registers.after_concat (defaults : Defaults) (whitelist : Whitelist) (chars : List Char)
    (char : Char) :
    after defaults whitelist (chars ++ [char])
      = (do
          let found ← after defaults whitelist chars
          let changed ← (Registers.step defaults whitelist chars.length char).run found.2
          return (found.1 ++ changed.1.toList, changed.2)) := by
  simp [after, List.zipIdx_append]

/-- The registers that the machine can reach are those of the states that reading can reach. -/
theorem Registers.after_eq_ok_iff :
    after defaults whitelist chars = .ok (clauses, registers)
      ↔ ∃ state, Reached whitelist chars clauses state ∧ registers = state.toRegisters := by
  induction chars using List.reverseRecOn generalizing clauses registers with
  | nil =>
      simp only [reached_nil_iff]
      constructor
      · rintro ⟨⟩
        exact ⟨.initial, ⟨rfl, rfl⟩, rfl⟩
      · rintro ⟨state, ⟨rfl, rfl⟩, rfl⟩
        rfl
  | append_singleton chars char induction =>
      simp only [after_concat, bind_eq_ok_iff, reached_concat_iff]
      constructor
      · rintro ⟨⟨seen, before⟩, first, ⟨clause?, later⟩, changed, ⟨⟩⟩
        obtain ⟨state, reached, rfl⟩ := induction.1 first
        rcases run_step_eq_ok_iff.1 changed with ⟨next, rule, rfl, rfl⟩ | ⟨clause, rule, rfl, rfl⟩
        · exact ⟨next, .inl ⟨state, by simpa using reached, rule⟩, rfl⟩
        · exact ⟨.initial, .inr ⟨seen, state, clause, reached, rule, rfl, rfl⟩, rfl⟩
      · rintro ⟨next, ⟨state, reached, rule⟩ | ⟨seen, state, clause, reached, rule, rfl, rfl⟩, rfl⟩
        · have first := induction.2 ⟨state, reached, rfl⟩
          exact ⟨_, first, _, rule.run_step defaults, by simp [pure, Except.pure]⟩
        · have first := induction.2 ⟨state, reached, rfl⟩
          exact ⟨_, first, _, rule.run_step defaults, rfl⟩

end RecordFilter.QueryText
