import RecordFilter.Proofs.QueryText.Grammar
import RecordFilter.Proofs.QueryText.Run

/-! # How the characters read so far end

What the last characters read say about the state that is reached, and the other way round.

* `EndsEscaped`: the next character is escaped, as the backslashes at the end are odd in number. It
  is the escape mark of the state (`Reached.escaped_iff`).
* `HeaderPending`: the last character that is no separator is a colon that is not escaped
  (`headerPending_concat`). So it is in every state that waits for the text after a colon
  (`Reached.headerPending`).
* `Reached.separator`: a separator ends an accepted text for good, unless a header is pending. -/

namespace RecordFilter.QueryText

variable {whitelist : Whitelist} {state : State} {chars : List Char} {clauses : List RawClause}

/-! ## Escapes -/

/-- The number of backslashes at the end of some characters. -/
def trailingBackslashes (chars : List Char) : Nat :=
  (chars.reverse.takeWhile (· == '\\')).length

/-- The backslashes at the end are odd in number, so the next character is escaped. -/
def EndsEscaped (chars : List Char) : Prop := trailingBackslashes chars % 2 = 1

/-- Nothing escapes the first character. -/
theorem not_endsEscaped_nil : ¬ EndsEscaped [] := by
  simp [EndsEscaped, trailingBackslashes]

/-- The next character is escaped exactly if the last one is a backslash that is not escaped
itself. -/
theorem endsEscaped_concat (chars : List Char) (char : Char) :
    EndsEscaped (chars ++ [char]) ↔ char = '\\' ∧ ¬ EndsEscaped chars := by
  by_cases backslash : char = '\\'
  · have longer : trailingBackslashes (chars ++ [char]) = trailingBackslashes chars + 1 := by
      simp [trailingBackslashes, backslash]
    rw [EndsEscaped, EndsEscaped, longer]
    -- a number is odd exactly if the next smaller one is not
    have parity :
        (trailingBackslashes chars + 1) % 2 = 1 ↔ ¬ trailingBackslashes chars % 2 = 1 := by
      omega
    rw [parity]
    exact (and_iff_right backslash).symm
  · have none : trailingBackslashes (chars ++ [char]) = 0 := by
      simp [trailingBackslashes, backslash]
    rw [EndsEscaped, none]
    simp [backslash]

/-- The backslash is structural. -/
theorem ne_backslash_of_notMem {char : Char} (ordinary : char ∉ structural) : char ≠ '\\' :=
  fun same => ordinary (same ▸ List.mem_cons_self)

/-- No separator is a backslash. -/
theorem separator_ne_backslash (delimiter : Delimiter) : delimiter.char ≠ '\\' := by
  cases delimiter <;> decide

/-- No closing bracket is a backslash. -/
theorem closing_ne_backslash (delimiter : Delimiter) : delimiter.closing ≠ '\\' := by
  cases delimiter <;> decide

/-- A step that goes on leaves an escape mark exactly after a backslash that is not escaped. -/
theorem Transition.escaped_iff_of_reading {position : Nat} {next : State} {char : Char}
    (rule : Transition whitelist position state char (.reading next)) :
    next.escaped = true ↔ char = '\\' ∧ state.escaped = false := by
  cases rule with
  | escape => simp
  | literal free => simp
  | plain ordinary => simp [ne_backslash_of_notMem ordinary]
  | settle settled => simp
  | skip delimiter => simp [separator_ne_backslash delimiter]
  | dropStray delimiter nonempty => simp [separator_ne_backslash delimiter, State.initial]
  | dropTyped delimiter nonempty => simp [separator_ne_backslash delimiter, State.initial]
  | openGroup bracket => rcases bracket with rfl | rfl <;> simp
  | separate delimiter => simp [separator_ne_backslash delimiter]

/-- A step that completes a clause is no backslash. -/
theorem Transition.ne_backslash_of_complete {position : Nat} {clause : RawClause} {char : Char}
    (rule : Transition whitelist position state char (.complete clause)) : char ≠ '\\' := by
  cases rule with
  | value delimiter nonempty => exact separator_ne_backslash delimiter
  | closeGroup delimiter => exact closing_ne_backslash delimiter

/-- The escape mark of a state says whether the characters read so far escape the next one. -/
theorem Reached.escaped_iff (reached : Reached whitelist chars clauses state) :
    state.escaped = true ↔ EndsEscaped chars := by
  induction reached with
  | start => simp [State.initial, not_endsEscaped_nil]
  | read before rule induction =>
      rw [rule.escaped_iff_of_reading, endsEscaped_concat, ← induction, Bool.not_eq_true]
  | complete before rule induction =>
      simp [State.initial, endsEscaped_concat, rule.ne_backslash_of_complete]

/-! ## Pending headers -/

/-- Without the separators at their end the characters end in a colon that is not escaped. -/
def HeaderPending (chars : List Char) : Prop :=
  ∃ before gap, chars = before ++ ':' :: gap ∧ Separators gap ∧ ¬ EndsEscaped before

/-- A colon that is not escaped makes a header pending, a separator keeps it pending, and every
other character ends it. -/
theorem headerPending_concat {char : Char} :
    HeaderPending (chars ++ [char])
      ↔ char = ':' ∧ ¬ EndsEscaped chars ∨ (char = ',' ∨ char = '|') ∧ HeaderPending chars := by
  constructor
  · rintro ⟨before, gap, split, separators, unescaped⟩
    -- the last character is the colon or the last separator after it
    rcases List.eq_nil_or_concat gap with rfl | ⟨gap, last, rfl⟩
    · obtain ⟨rfl, same⟩ := List.append_inj' split rfl
      exact .inl ⟨List.singleton_inj.1 same, unescaped⟩
    · rw [List.concat_eq_append] at split separators
      rw [← List.cons_append, ← List.append_assoc] at split
      obtain ⟨rfl, same⟩ := List.append_inj' split rfl
      obtain rfl := List.singleton_inj.1 same
      refine .inr ⟨separators _ (by simp), before, gap, rfl, ?_, unescaped⟩
      exact fun other member => separators other (List.mem_append_left _ member)
  · rintro (⟨rfl, unescaped⟩ | ⟨separator, before, gap, rfl, separators, unescaped⟩)
    · exact ⟨chars, [], rfl, separators_nil, unescaped⟩
    · refine ⟨before, gap ++ [char], by simp, separators.append ?_, unescaped⟩
      intro other member
      rwa [List.mem_singleton.1 member]

/-- No text is empty after a literal character. -/
theorem Scope.push_ne_outside_empty (char : Char) (scope : Scope) (progress : Progress) :
    scope.push char ≠ .outside progress "" := by
  cases scope <;> simp [Scope.push]

/-- A state that waits for the text after a colon has a pending header behind it. -/
theorem Reached.headerPending {progress : Progress}
    (reached : Reached whitelist chars clauses ⟨.outside progress "", false⟩)
    (begun : progress ≠ .start) : HeaderPending chars := by
  -- the induction needs the state as a variable
  generalize same : (⟨.outside progress "", false⟩ : State) = state at reached
  induction reached generalizing progress with
  | start =>
      cases same
      exact absurd rfl begun
  | read before rule induction =>
      cases rule with
      | escape => cases same
      | literal free => exact absurd (State.mk.inj same).1.symm (Scope.push_ne_outside_empty _ _ _)
      | plain ordinary =>
          exact absurd (State.mk.inj same).1.symm (Scope.push_ne_outside_empty _ _ _)
      | settle settled =>
          -- the colon was not escaped, as the state before it has no escape mark
          have unescaped := mt before.escaped_iff.2 Bool.false_ne_true
          exact headerPending_concat.2 (.inl ⟨rfl, unescaped⟩)
      | skip delimiter =>
          cases same
          have separator : delimiter.char = ',' ∨ delimiter.char = '|' := by
            cases delimiter <;> decide
          exact headerPending_concat.2 (.inr ⟨separator, induction begun rfl⟩)
      | dropStray delimiter nonempty =>
          cases same
          exact absurd rfl begun
      | dropTyped delimiter nonempty =>
          cases same
          exact absurd rfl begun
      | openGroup bracket => cases same
      | separate delimiter => cases same
  | complete before rule induction =>
      cases same
      exact absurd rfl begun

/-! ## Separators after an accepted text -/

/-- A separator after an accepted text adds what the end of the text adds, and leaves nothing
behind, unless a header is pending. -/
theorem Reached.separator {last? : Option RawClause}
    (reached : Reached whitelist chars clauses state)
    (ending : state.finish chars.length = last?.map .ok) (settled : ¬ HeaderPending chars)
    (delimiter : Delimiter) :
    Reached whitelist (chars ++ [delimiter.char]) (clauses ++ last?.toList) .initial := by
  cases last? with
  | none =>
      rw [Option.toList_none, List.append_nil]
      obtain ⟨progress, text, rfl, dropped⟩ := State.finish_eq_none_iff.1 ending
      by_cases empty : text = ""
      · subst empty
        -- without a pending header nothing is settled yet
        have untouched : progress = .start := by
          by_cases begun : progress = .start
          · exact begun
          · exact absurd (reached.headerPending begun) settled
        subst untouched
        exact reached.read (.skip delimiter)
      · rcases dropped with none | rfl | ⟨type, rfl⟩
        · exact absurd none empty
        · exact reached.read (.dropStray delimiter empty)
        · exact reached.read (.dropTyped delimiter empty)
  | some last =>
      obtain ⟨header, text, rfl, nonempty, rfl⟩ := State.finish_eq_ok_iff.1 ending
      exact reached.complete (.value delimiter nonempty)

end RecordFilter.QueryText
