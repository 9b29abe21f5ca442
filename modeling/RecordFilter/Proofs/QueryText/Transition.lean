import RecordFilter.QueryText.State

/-! # The rules of reading

What one character of a query text does in each state, as a relation with one rule for each way
reading can go on. The step function is exactly this relation (`transition_iff`), so facts about
runs are proved by cases on the rules and never by unfolding the step function.

* `structural`: the characters that are not literal by themselves.
* `Scope.barred`: the characters that no backslash makes literal in a scope.
* `Transition`: the rules, each with its outcome.
* `State.finish_eq_none_iff`, `State.finish_eq_ok_iff`, `State.finish_eq_error_iff`: the ways a text
  can end. -/

namespace RecordFilter.QueryText

/-! ## Characters -/

/-- The characters that are not literal by themselves. -/
def structural : List Char := ['\\', ':', ',', '|', '[', ']', '(', ')']

/-- The plain characters are those that are not structural. -/
theorem Symbol.ofChar_eq_plain_iff {char : Char} :
    Symbol.ofChar char = .plain ↔ char ∉ structural := by
  unfold Symbol.ofChar
  split <;> simp_all [structural]

/-- The characters that a backslash cannot make literal: closing brackets, and outside a group
separators as well. -/
def Scope.barred : Scope → List Char
  | outside _ _ => [',', '|', ']', ')']
  | group _ _ _ => [']', ')']

/-- An escaped character is refused exactly if it is barred. -/
theorem Scope.escape_eq (position : Nat) (char : Char) (scope : Scope) :
    scope.escape position char
      = if char ∈ scope.barred then .refused (.notEscapable char position)
        else .reading ⟨scope.push char, false⟩ := by
  cases symbol : Symbol.ofChar char with
  | escape =>
      obtain rfl := Symbol.ofChar_eq_escape_iff.1 symbol
      cases scope <;> rfl
  | colon =>
      obtain rfl := Symbol.ofChar_eq_colon_iff.1 symbol
      cases scope <;> rfl
  | separator delimiter =>
      obtain rfl := Symbol.ofChar_eq_separator_iff.1 symbol
      cases scope <;> cases delimiter <;> rfl
  | opening =>
      rcases Symbol.ofChar_eq_opening_iff.1 symbol with rfl | rfl <;> cases scope <;> rfl
  | closing delimiter =>
      obtain rfl := Symbol.ofChar_eq_closing_iff.1 symbol
      cases scope <;> cases delimiter <;> rfl
  | plain =>
      have ordinary := Symbol.ofChar_eq_plain_iff.1 symbol
      simp only [structural, List.mem_cons, List.not_mem_nil, or_false, not_or] at ordinary
      cases scope <;> simp [Scope.escape, Scope.barred, Step.resume, symbol, ordinary]

/-! ## Rules -/

/-- The rules of reading one character at a position under a whitelist. -/
inductive Transition (whitelist : Whitelist) (position : Nat) : State → Char → Step → Prop
  /-- A backslash escapes the next character. -/
  | escape {scope : Scope} :
      Transition whitelist position ⟨scope, false⟩ '\\' (.reading ⟨scope, true⟩)
  /-- An escaped character is literal. -/
  | literal {scope : Scope} {char : Char} (free : char ∉ scope.barred) :
      Transition whitelist position ⟨scope, true⟩ char (.reading ⟨scope.push char, false⟩)
  /-- Some characters cannot be escaped. -/
  | notEscapable {scope : Scope} {char : Char} (barred : char ∈ scope.barred) :
      Transition whitelist position ⟨scope, true⟩ char (.refused (.notEscapable char position))
  /-- A character that is not structural is literal. -/
  | plain {scope : Scope} {char : Char} (ordinary : char ∉ structural) :
      Transition whitelist position ⟨scope, false⟩ char (.reading ⟨scope.push char, false⟩)
  /-- A colon settles the next header part. -/
  | settle {progress next : Progress} {text : String}
      (settled : progress.settle whitelist position text = .ok next) :
      Transition whitelist position ⟨.outside progress text, false⟩ ':'
        (.reading ⟨.outside next "", false⟩)
  /-- A colon after a text that settles nothing is refused. -/
  | unsettled {progress : Progress} {text : String} {fault : Fault}
      (refused : progress.settle whitelist position text = .error fault) :
      Transition whitelist position ⟨.outside progress text, false⟩ ':' (.refused fault)
  /-- A separator before any text is skipped. -/
  | skip {progress : Progress} (delimiter : Delimiter) :
      Transition whitelist position ⟨.outside progress "", false⟩ delimiter.char
        (.reading ⟨.outside progress "", false⟩)
  /-- A separator drops text that stands before any colon. -/
  | dropStray {text : String} (delimiter : Delimiter) (nonempty : text ≠ "") :
      Transition whitelist position ⟨.outside .start text, false⟩ delimiter.char
        (.reading .initial)
  /-- A separator drops a clause of which only the type is settled. -/
  | dropTyped {type : FieldType} {text : String} (delimiter : Delimiter) (nonempty : text ≠ "") :
      Transition whitelist position ⟨.outside (.typed type) text, false⟩ delimiter.char
        (.reading .initial)
  /-- A separator is refused where the operator is missing. -/
  | incomplete {type : FieldType} {field text : String} (delimiter : Delimiter)
      (nonempty : text ≠ "") :
      Transition whitelist position ⟨.outside (.named type field) text, false⟩ delimiter.char
        (.refused (.headerIncomplete .operator position))
  /-- A separator ends the value of a clause. -/
  | value {header : Header} {text : String} (delimiter : Delimiter) (nonempty : text ≠ "") :
      Transition whitelist position ⟨.outside (.headed header) text, false⟩ delimiter.char
        (.complete ⟨header, .one text⟩)
  /-- An opening bracket after a header opens a group and drops the text before it. -/
  | openGroup {header : Header} {text : String} {char : Char} (bracket : char = '[' ∨ char = '(') :
      Transition whitelist position ⟨.outside (.headed header) text, false⟩ char
        (.reading ⟨.group header position #[], false⟩)
  /-- An opening bracket is refused where the header is not complete. -/
  | early {progress : Progress} {text : String} {part : HeaderPart} {char : Char}
      (missing : progress.header = .error part) (bracket : char = '[' ∨ char = '(') :
      Transition whitelist position ⟨.outside progress text, false⟩ char
        (.refused (.headerIncomplete part position))
  /-- A closing bracket is refused outside a group. -/
  | unopened {progress : Progress} {text : String} (delimiter : Delimiter) :
      Transition whitelist position ⟨.outside progress text, false⟩ delimiter.closing
        (.refused (.nothingToClose delimiter position))
  /-- A colon is refused inside a group. -/
  | colonInside {header : Header} {opened : Nat} {body : Array GroupUnit} :
      Transition whitelist position ⟨.group header opened body, false⟩ ':'
        (.refused (.colonInsideGroup position))
  /-- A separator inside a group is kept as such. -/
  | separate {header : Header} {opened : Nat} {body : Array GroupUnit} (delimiter : Delimiter) :
      Transition whitelist position ⟨.group header opened body, false⟩ delimiter.char
        (.reading ⟨.group header opened (body.push (.separator delimiter)), false⟩)
  /-- An opening bracket is refused inside a group. -/
  | nested {header : Header} {opened : Nat} {body : Array GroupUnit} {char : Char}
      (bracket : char = '[' ∨ char = '(') :
      Transition whitelist position ⟨.group header opened body, false⟩ char
        (.refused (.groupInsideGroup position))
  /-- A closing bracket ends the group and chooses its delimiter. -/
  | closeGroup {header : Header} {opened : Nat} {body : Array GroupUnit} (delimiter : Delimiter) :
      Transition whitelist position ⟨.group header opened body, false⟩ delimiter.closing
        (.complete
          ⟨header, .group ((GroupUnit.split delimiter body.toList).map String.ofList) delimiter⟩)

variable {whitelist : Whitelist} {position size : Nat} {state : State} {char : Char} {step : Step}

/-- A character does what its rule says. -/
theorem Transition.step_eq (rule : Transition whitelist position state char step) :
    state.step whitelist position char = step := by
  cases rule with
  | escape => rename_i scope; cases scope <;> rfl
  | literal free => simp [State.step, Scope.escape_eq, free]
  | notEscapable barred => simp [State.step, Scope.escape_eq, barred]
  | plain ordinary =>
      rename_i scope
      have symbol := Symbol.ofChar_eq_plain_iff.2 ordinary
      cases scope <;> simp [State.step, stepOutside, stepInGroup, symbol, Step.resume]
  | settle settled =>
      simp [State.step, stepOutside, Symbol.ofChar, settled, Step.resume]
  | unsettled refused => simp [State.step, stepOutside, Symbol.ofChar, refused]
  | skip delimiter => simp [State.step, stepOutside, Step.resume]
  | dropStray delimiter nonempty => simp [State.step, stepOutside, nonempty, Progress.close]
  | dropTyped delimiter nonempty => simp [State.step, stepOutside, nonempty, Progress.close]
  | incomplete delimiter nonempty => simp [State.step, stepOutside, nonempty, Progress.close]
  | value delimiter nonempty => simp [State.step, stepOutside, nonempty, Progress.close]
  | openGroup bracket =>
      simp [State.step, stepOutside, Symbol.ofChar_eq_opening_iff.2 bracket, Progress.header,
        Step.resume]
  | early missing bracket =>
      simp [State.step, stepOutside, Symbol.ofChar_eq_opening_iff.2 bracket, missing]
  | unopened delimiter => simp [State.step, stepOutside]
  | colonInside => rfl
  | separate delimiter => simp [State.step, stepInGroup, Step.resume]
  | nested bracket =>
      simp [State.step, stepInGroup, Symbol.ofChar_eq_opening_iff.2 bracket]
  | closeGroup delimiter => simp [State.step, stepInGroup]

/-- Every character outside a group has a rule. -/
theorem Transition.of_stepOutside (whitelist : Whitelist) (position : Nat) (char : Char)
    (progress : Progress) (text : String) :
    Transition whitelist position ⟨.outside progress text, false⟩ char
      (stepOutside whitelist position char progress text) := by
  unfold stepOutside
  cases symbol : Symbol.ofChar char with
  | escape =>
      obtain rfl := Symbol.ofChar_eq_escape_iff.1 symbol
      exact .escape
  | colon =>
      obtain rfl := Symbol.ofChar_eq_colon_iff.1 symbol
      cases settled : progress.settle whitelist position text with
      | ok next => exact .settle settled
      | error fault => exact .unsettled settled
  | separator delimiter =>
      -- without text a separator is skipped, otherwise the settled parts decide
      obtain rfl := Symbol.ofChar_eq_separator_iff.1 symbol
      by_cases empty : text = ""
      · subst empty
        exact .skip delimiter
      · simp only [if_neg empty]
        cases progress with
        | start => exact .dropStray delimiter empty
        | typed type => exact .dropTyped delimiter empty
        | named type field => exact .incomplete delimiter empty
        | headed header => exact .value delimiter empty
  | opening =>
      -- a group needs a settled header
      have bracket := Symbol.ofChar_eq_opening_iff.1 symbol
      cases progress with
      | headed header => exact .openGroup bracket
      | start => exact .early rfl bracket
      | typed type => exact .early rfl bracket
      | named type field => exact .early rfl bracket
  | closing delimiter =>
      obtain rfl := Symbol.ofChar_eq_closing_iff.1 symbol
      exact .unopened delimiter
  | plain => exact .plain (Symbol.ofChar_eq_plain_iff.1 symbol)

/-- Every character inside a group has a rule. -/
theorem Transition.of_stepInGroup (whitelist : Whitelist) (position : Nat) (char : Char)
    (header : Header) (opened : Nat) (body : Array GroupUnit) :
    Transition whitelist position ⟨.group header opened body, false⟩ char
      (stepInGroup position char header opened body) := by
  unfold stepInGroup
  cases symbol : Symbol.ofChar char with
  | escape =>
      obtain rfl := Symbol.ofChar_eq_escape_iff.1 symbol
      exact .escape
  | colon =>
      obtain rfl := Symbol.ofChar_eq_colon_iff.1 symbol
      exact .colonInside
  | separator delimiter =>
      obtain rfl := Symbol.ofChar_eq_separator_iff.1 symbol
      exact .separate delimiter
  | opening => exact .nested (Symbol.ofChar_eq_opening_iff.1 symbol)
  | closing delimiter =>
      obtain rfl := Symbol.ofChar_eq_closing_iff.1 symbol
      exact .closeGroup delimiter
  | plain => exact .plain (Symbol.ofChar_eq_plain_iff.1 symbol)

/-- Every step follows a rule. -/
theorem Transition.of_step (whitelist : Whitelist) (position : Nat) (state : State) (char : Char) :
    Transition whitelist position state char (state.step whitelist position char) := by
  obtain ⟨scope, escaped⟩ := state
  cases escaped with
  | true =>
      -- an escaped character is literal or refused, in every scope
      simp only [State.step, if_true, Scope.escape_eq]
      by_cases barred : char ∈ scope.barred
      · rw [if_pos barred]
        exact .notEscapable barred
      · rw [if_neg barred]
        exact .literal barred
  | false =>
      cases scope with
      | outside progress text => exact .of_stepOutside whitelist position char progress text
      | group header opened body =>
          exact .of_stepInGroup whitelist position char header opened body

/-- The rules are exactly the step function. -/
theorem transition_iff :
    Transition whitelist position state char step
      ↔ state.step whitelist position char = step := by
  constructor
  · exact Transition.step_eq
  · rintro rfl
    exact Transition.of_step whitelist position state char

/-! ## The end of a text -/

/-- Nothing is found at the end exactly if there is no text left, or only text that a separator
would drop. -/
theorem State.finish_eq_none_iff :
    state.finish size = none
      ↔ ∃ progress text, state = ⟨.outside progress text, false⟩
        ∧ (text = "" ∨ progress = .start ∨ ∃ type, progress = .typed type) := by
  constructor
  · intro none
    obtain ⟨scope, escaped⟩ := state
    cases escaped with
    | true => simp [State.finish] at none
    | false =>
        cases scope with
        | group header opened body => simp [State.finish] at none
        | outside progress text =>
            refine ⟨progress, text, rfl, ?_⟩
            by_cases empty : text = ""
            · exact .inl empty
            · cases progress <;> simp_all [State.finish, Progress.close]
  · rintro ⟨progress, text, rfl, rfl | rfl | ⟨type, rfl⟩⟩ <;> simp [State.finish, Progress.close]

/-- A clause is found at the end exactly if its header is settled and some text is left. -/
theorem State.finish_eq_ok_iff {clause : RawClause} :
    state.finish size = some (.ok clause)
      ↔ ∃ header text, state = ⟨.outside (.headed header) text, false⟩ ∧ text ≠ ""
        ∧ clause = ⟨header, .one text⟩ := by
  constructor
  · intro found
    obtain ⟨scope, escaped⟩ := state
    cases escaped with
    | true => simp [State.finish] at found
    | false =>
        cases scope with
        | group header opened body => simp [State.finish] at found
        | outside progress text =>
            by_cases empty : text = ""
            · simp [State.finish, empty] at found
            · cases progress <;> simp [State.finish, Progress.close, empty] at found
              exact ⟨_, text, rfl, empty, found.symm⟩
  · rintro ⟨header, text, rfl, nonempty, rfl⟩
    simp [State.finish, Progress.close, nonempty]

/-- A fault is found at the end exactly if an escape or a group is open, or if text is left where
the operator is missing. -/
theorem State.finish_eq_error_iff {fault : Fault} :
    state.finish size = some (.error fault)
      ↔ (∃ scope, state = ⟨scope, true⟩ ∧ fault = .escapeAtEnd)
        ∨ (∃ header opened body, state = ⟨.group header opened body, false⟩
          ∧ fault = .groupLeftOpen opened)
        ∨ ∃ type field text, state = ⟨.outside (.named type field) text, false⟩ ∧ text ≠ ""
          ∧ fault = .headerIncomplete .operator size := by
  constructor
  · intro found
    obtain ⟨scope, escaped⟩ := state
    cases escaped with
    | true =>
        simp only [State.finish, if_true, Option.some_inj, Except.error.injEq] at found
        exact .inl ⟨scope, rfl, found.symm⟩
    | false =>
        cases scope with
        | group header opened body =>
            simp only [State.finish, Bool.false_eq_true, if_false, Option.some_inj,
              Except.error.injEq] at found
            exact .inr (.inl ⟨header, opened, body, rfl, found.symm⟩)
        | outside progress text =>
            by_cases empty : text = ""
            · simp [State.finish, empty] at found
            · cases progress <;> simp [State.finish, Progress.close, empty] at found
              exact .inr (.inr ⟨_, _, text, rfl, empty, found.symm⟩)
  · rintro (⟨scope, rfl, rfl⟩ | ⟨header, opened, body, rfl, rfl⟩
      | ⟨type, field, text, rfl, nonempty, rfl⟩)
    · simp [State.finish]
    · simp [State.finish]
    · simp [State.finish, Progress.close, nonempty]

end RecordFilter.QueryText
