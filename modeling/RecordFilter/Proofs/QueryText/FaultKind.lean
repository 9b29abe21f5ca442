import RecordFilter.Proofs.Clause.Fault
import RecordFilter.Proofs.QueryText.Reader

/-! # Stages that refuse a text

A reader refuses a text for its form or for its vocabulary, and typing the clauses that it gives
fails for their types. So no text is refused for a pattern before its clauses are compiled.

* `Progress.fault_of_settle`: the faults of a colon.
* `Transition.kind_of_refused`: the faults of one character.
* `kind_of_stop?`: the faults that a reader stops with.
* `kind_of_read_eq_error`: the faults of reading typed clauses. -/

namespace RecordFilter.QueryText

variable {whitelist : Whitelist} {position size : Nat} {state : State} {char : Char} {text : String}
  {progress : Progress} {fault : Fault}

/-- A fault of vocabulary names no position. -/
theorem position?_of_kind_eq_vocabulary (vocabulary : fault.kind = .vocabulary) :
    fault.position? = none := by
  cases fault <;> first | rfl | cases vocabulary

/-- A colon that settles nothing is refused for the text before it, or for its own place. -/
theorem Progress.fault_of_settle (refused : progress.settle whitelist position text = .error fault) :
    fault.kind = .vocabulary ∨ fault = .fieldEmpty position ∨ fault = .strayColon position := by
  cases progress with
  | start =>
      simp only [settle] at refused
      split at refused
      · cases refused
      · cases refused
        exact .inl rfl
  | typed type =>
      simp only [settle] at refused
      split at refused
      · cases refused
        exact .inr (.inl rfl)
      · split at refused
        · cases refused
        · cases refused
          exact .inl rfl
  | named type field =>
      simp only [settle] at refused
      split at refused
      · cases refused
      · cases refused
        exact .inl rfl
  | headed header =>
      cases refused
      exact .inr (.inr rfl)

/-- A character is refused for the form of the text or for its vocabulary. -/
theorem Transition.kind_of_refused
    (rule : Transition whitelist position state char (.refused fault)) :
    fault.kind = .form ∨ fault.kind = .vocabulary := by
  cases rule with
  | unsettled refused =>
      rcases Progress.fault_of_settle refused with vocabulary | rfl | rfl
      · exact .inr vocabulary
      · exact .inl rfl
      · exact .inl rfl
  | notEscapable | incomplete | early | unopened | colonInside | nested => exact .inl rfl

/-- The end of a text is refused for its form. -/
theorem State.kind_of_finish (ending : state.finish size = some (.error fault)) :
    fault.kind = .form := by
  rcases State.finish_eq_error_iff.1 ending with ⟨scope, rfl, rfl⟩
    | ⟨header, opened, body, rfl, rfl⟩ | ⟨type, field, text, rfl, nonempty, rfl⟩
  · rfl
  · rfl
  · rfl

/-- A reader stops for the form of the text or for its vocabulary. -/
theorem kind_of_stop? (stops : stop? whitelist text = some fault) :
    fault.kind = .form ∨ fault.kind = .vocabulary := by
  rcases stop?_cases stops with ⟨clauses, state, reached, ending⟩
    | ⟨front, char, back, clauses, state, split, reached, refused⟩
  · exact .inl (State.kind_of_finish ending)
  · exact Transition.kind_of_refused refused

/-- Typed clauses are refused for anything but a pattern. -/
theorem kind_of_read_eq_error (refused : read whitelist text = .error fault) :
    fault.kind ≠ .pattern := by
  obtain ⟨item, member, failed⟩ := exists_of_mapM_eq_error refused
  rcases bind_eq_error_iff.1 failed with rfl | ⟨raw, rfl, untyped⟩
  · have stops := stop?_eq_some_iff.2 member
    rcases kind_of_stop? stops with form | vocabulary
    · rw [form]
      nofun
    · rw [vocabulary]
      nofun
  · rw [Clause.kind_of_ofRaw_eq_error untyped]
    nofun

end RecordFilter.QueryText
