import RecordFilter.Proofs.QueryText.Transition
import RecordFilter.QueryText.Reader

/-! # Runs over a query text

The states that reading can reach, with the characters read and the clauses found on the way.

* `Reached`: reading these characters from the start of a text finds these clauses and leaves this
  state. A fact about every state of every run is an induction on it, with one case for a step
  that goes on and one for a step that completes a clause.
* `reached_concat_iff`, `Reached.unique`: the last character of a run, and that there is one run.
* `reached_or_refused`: a text is read to its end, or up to one character that is refused.
* `itemsFrom_eq_map_ok_iff`, `readRaw_eq_ok_iff`: a text is accepted exactly if a run reaches its
  end and the end leaves no fault. -/

namespace RecordFilter.QueryText

variable {whitelist : Whitelist} {position : Nat} {state next : State} {char : Char}
  {chars rest : List Char} {clause : RawClause} {clauses : List RawClause} {fault : Fault}

/-! ## One character -/

/-- A character that goes on leaves its successor state to the rest. -/
theorem itemsFrom_reading (rule : Transition whitelist position state char (.reading next))
    (rest : List Char) :
    itemsFrom whitelist position state (char :: rest)
      = itemsFrom whitelist (position + 1) next rest := by
  simp [itemsFrom, rule.step_eq]

/-- A character that completes a clause leaves the initial state to the rest. -/
theorem itemsFrom_complete (rule : Transition whitelist position state char (.complete clause))
    (rest : List Char) :
    itemsFrom whitelist position state (char :: rest)
      = .ok clause :: itemsFrom whitelist (position + 1) .initial rest := by
  simp [itemsFrom, rule.step_eq]

/-- A refused character is the end. -/
theorem itemsFrom_refused (rule : Transition whitelist position state char (.refused fault))
    (rest : List Char) :
    itemsFrom whitelist position state (char :: rest) = [.error fault] := by
  simp [itemsFrom, rule.step_eq]

/-! ## Reached states -/

/-- Reading the characters from the start of a text finds the clauses and leaves the state. -/
inductive Reached (whitelist : Whitelist) : List Char → List RawClause → State → Prop
  /-- Nothing is read at the start. -/
  | start : Reached whitelist [] [] .initial
  /-- One more character goes on. -/
  | read {chars : List Char} {clauses : List RawClause} {state next : State} {char : Char}
      (before : Reached whitelist chars clauses state)
      (rule : Transition whitelist chars.length state char (.reading next)) :
      Reached whitelist (chars ++ [char]) clauses next
  /-- One more character completes a clause. -/
  | complete {chars : List Char} {clauses : List RawClause} {state : State} {char : Char}
      {clause : RawClause} (before : Reached whitelist chars clauses state)
      (rule : Transition whitelist chars.length state char (.complete clause)) :
      Reached whitelist (chars ++ [char]) (clauses ++ [clause]) .initial

/-- Nothing is read before the first character. -/
theorem reached_nil_iff : Reached whitelist [] clauses state ↔ clauses = [] ∧ state = .initial := by
  constructor
  · intro reached
    generalize empty : [] = chars at reached
    cases reached with
    | start => exact ⟨rfl, rfl⟩
    | read before rule => simp at empty
    | complete before rule => simp at empty
  · rintro ⟨rfl, rfl⟩
    exact .start

/-- The last character goes on or completes a clause. -/
theorem reached_concat_iff :
    Reached whitelist (chars ++ [char]) clauses next
      ↔ (∃ state, Reached whitelist chars clauses state
          ∧ Transition whitelist chars.length state char (.reading next))
        ∨ ∃ seen state clause, Reached whitelist chars seen state
          ∧ Transition whitelist chars.length state char (.complete clause)
          ∧ clauses = seen ++ [clause] ∧ next = .initial := by
  constructor
  · intro reached
    generalize same : chars ++ [char] = longer at reached
    cases reached with
    | start => simp at same
    | read before rule =>
        obtain ⟨rfl, rfl⟩ := List.append_singleton_inj.1 same
        exact .inl ⟨_, before, rule⟩
    | complete before rule =>
        obtain ⟨rfl, rfl⟩ := List.append_singleton_inj.1 same
        exact .inr ⟨_, _, _, before, rule, rfl, rfl⟩
  · rintro (⟨state, before, rule⟩ | ⟨seen, state, clause, before, rule, rfl, rfl⟩)
    · exact before.read rule
    · exact before.complete rule

/-- A state does one thing with a character. -/
theorem Transition.unique {step other : Step}
    (rule : Transition whitelist position state char step)
    (again : Transition whitelist position state char other) : step = other :=
  rule.step_eq.symm.trans again.step_eq

/-- The same characters find the same clauses and leave the same state. -/
theorem Reached.unique {seen : List RawClause} {last : State}
    (reached : Reached whitelist chars clauses state) (again : Reached whitelist chars seen last) :
    clauses = seen ∧ state = last := by
  induction reached generalizing seen last with
  | start =>
      obtain ⟨rfl, rfl⟩ := reached_nil_iff.1 again
      exact ⟨rfl, rfl⟩
  | read before rule induction =>
      rcases reached_concat_iff.1 again with ⟨_, other, step⟩ | ⟨_, _, _, other, step, -, -⟩
      · obtain ⟨rfl, rfl⟩ := induction other
        exact ⟨rfl, Step.reading.inj (rule.unique step)⟩
      · obtain ⟨-, rfl⟩ := induction other
        cases rule.unique step
  | complete before rule induction =>
      rcases reached_concat_iff.1 again with ⟨_, other, step⟩ | ⟨_, _, _, other, step, rfl, rfl⟩
      · obtain ⟨-, rfl⟩ := induction other
        cases rule.unique step
      · obtain ⟨rfl, rfl⟩ := induction other
        cases rule.unique step
        exact ⟨rfl, rfl⟩

/-- What is found in a longer text is what was found so far, and what is found from the reached
state on. -/
theorem Reached.itemsFrom_append (reached : Reached whitelist chars clauses state)
    (rest : List Char) :
    itemsFrom whitelist 0 .initial (chars ++ rest)
      = clauses.map .ok ++ itemsFrom whitelist chars.length state rest := by
  -- the last character read becomes the first of the rest
  induction reached generalizing rest with
  | start => simp
  | read before rule induction =>
      rw [List.append_assoc, List.singleton_append, induction, itemsFrom_reading rule,
        List.length_append, List.length_singleton]
  | complete before rule induction =>
      rw [List.append_assoc, List.singleton_append, induction, itemsFrom_complete rule,
        List.length_append, List.length_singleton, List.map_append, List.append_assoc]
      rfl

/-- Whatever was read before, the next characters are read to their end or up to one that is
refused. -/
theorem Reached.continues (reached : Reached whitelist chars clauses state) (more : List Char) :
    (∃ seen last, Reached whitelist (chars ++ more) seen last)
      ∨ ∃ front char back seen last fault, more = front ++ char :: back
        ∧ Reached whitelist (chars ++ front) seen last
        ∧ Transition whitelist (chars ++ front).length last char (.refused fault) := by
  induction more generalizing chars clauses state with
  | nil => exact .inl ⟨clauses, state, by rwa [List.append_nil]⟩
  | cons char rest induction =>
      cases outcome : state.step whitelist chars.length char with
      | refused fault =>
          -- this is the refused character, and nothing is read before it
          have rule := transition_iff.2 outcome
          exact .inr ⟨[], char, rest, clauses, state, fault, rfl, by rwa [List.append_nil],
            by rwa [List.append_nil]⟩
      | reading next =>
          have rule := transition_iff.2 outcome
          rcases induction (reached.read rule) with ⟨seen, last, whole⟩
            | ⟨front, bad, back, seen, last, fault, rfl, part, refused⟩
          · exact .inl ⟨seen, last, by simpa using whole⟩
          · exact .inr ⟨char :: front, bad, back, seen, last, fault, rfl, by simpa using part,
              by simpa using refused⟩
      | complete clause =>
          have rule := transition_iff.2 outcome
          rcases induction (reached.complete rule) with ⟨seen, last, whole⟩
            | ⟨front, bad, back, seen, last, fault, rfl, part, refused⟩
          · exact .inl ⟨seen, last, by simpa using whole⟩
          · exact .inr ⟨char :: front, bad, back, seen, last, fault, rfl, by simpa using part,
              by simpa using refused⟩

/-- A text is read to its end, or up to one character that is refused. -/
theorem reached_or_refused (whitelist : Whitelist) (chars : List Char) :
    (∃ clauses state, Reached whitelist chars clauses state)
      ∨ ∃ front char back clauses state fault, chars = front ++ char :: back
        ∧ Reached whitelist front clauses state
        ∧ Transition whitelist front.length state char (.refused fault) := by
  simpa using Reached.start.continues chars

/-! ## What is found -/

/-- A text that is read to its end: the clauses found, and what the end adds. -/
theorem Reached.itemsFrom_eq (reached : Reached whitelist chars clauses state) :
    itemsFrom whitelist 0 .initial chars
      = clauses.map .ok ++ (state.finish chars.length).toList := by
  simpa [itemsFrom] using reached.itemsFrom_append []

/-- A text with a refused character: the clauses found before it, and its fault. -/
theorem Reached.itemsFrom_eq_of_refused (reached : Reached whitelist chars clauses state)
    (rule : Transition whitelist chars.length state char (.refused fault)) (rest : List Char) :
    itemsFrom whitelist 0 .initial (chars ++ char :: rest) = clauses.map .ok ++ [.error fault] := by
  rw [reached.itemsFrom_append, itemsFrom_refused rule]

/-- What a text with a refused character gives depends on the characters up to that one only. -/
theorem Reached.items_eq_of_take {text : String} (reached : Reached whitelist chars clauses state)
    (rule : Transition whitelist chars.length state char (.refused fault))
    (begins : text.toList.take (chars.length + 1) = chars ++ [char]) :
    items whitelist text = clauses.map .ok ++ [.error fault] := by
  have split : text.toList = chars ++ char :: text.toList.drop (chars.length + 1) := by
    calc text.toList
        = text.toList.take (chars.length + 1) ++ text.toList.drop (chars.length + 1) :=
          (List.take_append_drop _ _).symm
      _ = chars ++ char :: text.toList.drop (chars.length + 1) := by
          rw [begins, List.append_assoc, List.singleton_append]
  rw [items, split, reached.itemsFrom_eq_of_refused rule]

/-- Lists of clauses are told apart by the items they make. -/
theorem map_ok_inj {left right : List RawClause} :
    left.map (Except.ok : RawClause → Except Fault RawClause) = right.map .ok ↔ left = right :=
  List.map_inj_right fun _ _ same => Except.ok.inj same

/-- Clauses only are no fault. -/
theorem error_notMem_map_ok (fault : Fault) (clauses : List RawClause) :
    Except.error fault ∉ clauses.map Except.ok := by
  simp

/-- A text has no fault exactly if it is read to its end and the end adds a clause or nothing. -/
theorem itemsFrom_eq_map_ok_iff :
    itemsFrom whitelist 0 .initial chars = clauses.map .ok
      ↔ ∃ seen state, ∃ last? : Option RawClause, Reached whitelist chars seen state
        ∧ state.finish chars.length = last?.map .ok ∧ clauses = seen ++ last?.toList := by
  constructor
  · intro accepted
    rcases reached_or_refused whitelist chars with ⟨seen, state, reached⟩
      | ⟨front, char, back, seen, state, fault, rfl, reached, refused⟩
    · rw [reached.itemsFrom_eq] at accepted
      rcases ending : state.finish chars.length with _ | fault | last
      · refine ⟨seen, state, none, reached, ending, ?_⟩
        rw [ending] at accepted
        simpa [map_ok_inj] using accepted.symm
      · -- the end of the text is no fault
        refine absurd ?_ (error_notMem_map_ok fault clauses)
        simp [← accepted, ending]
      · refine ⟨seen, state, some last, reached, ending, ?_⟩
        rw [ending] at accepted
        exact map_ok_inj.1 (by simpa using accepted.symm)
    · -- a refused character is a fault as well
      refine absurd ?_ (error_notMem_map_ok fault clauses)
      simp [← accepted, reached.itemsFrom_eq_of_refused refused]
  · rintro ⟨seen, state, last?, reached, ending, rfl⟩
    rw [reached.itemsFrom_eq, ending]
    cases last? <;> simp

/-- Items without faults collect into their clauses, and only they do. -/
theorem mapM_id_eq_ok_iff {items : List (Except Fault RawClause)} :
    items.mapM id = .ok clauses ↔ items = clauses.map .ok := by
  induction items generalizing clauses with
  | nil => cases clauses <;> simp [pure, Except.pure]
  | cons item rest induction =>
      rw [List.mapM_cons]
      cases clauses with
      | nil => cases item <;> cases rest.mapM id <;> simp [bind, Except.bind, pure, Except.pure]
      | cons head tail =>
          -- the first item is the first clause, and the others are collected
          rw [List.map_cons, List.cons.injEq, ← induction]
          cases item <;> cases rest.mapM id <;> simp [bind, Except.bind, pure, Except.pure]

/-- A text is accepted exactly if reading it finds clauses only. -/
theorem readRaw_eq_ok_iff {text : String} :
    readRaw whitelist text = .ok clauses
      ↔ itemsFrom whitelist 0 .initial text.toList = clauses.map .ok :=
  mapM_id_eq_ok_iff

end RecordFilter.QueryText
