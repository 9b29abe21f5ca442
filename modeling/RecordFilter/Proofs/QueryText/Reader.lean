import RecordFilter.Proofs.QueryText.Clauses
import RecordFilter.Proofs.Traversal

/-! # Reading on demand

A reader that is asked again and again gives what reading the whole text finds, so the clauses of a
text, written or typed, can be told from its answers. Typing every clause as soon as it is read
makes the leftmost fault the one that is reported.

* `Reader.calls_eq`: the answers of a reader in any state.
* `yielded`, `stop?`: the clauses before a reader stops, and the fault it stops with.
* `stop?_cases`: where a reader stops.
* `readRaw_eq`, `read_eq`: both ways to read a whole text, from these two.
* `first_fault_decides`: which fault a text is refused for. -/

namespace RecordFilter.QueryText

variable {whitelist : Whitelist} {position : Nat} {state : State} {text : String}

/-! ## The answers of a reader -/

/-- A reader that is finished stays silent. -/
theorem Reader.calls_finished (count : Nat) {reader : Reader} (finished : reader.finished = true) :
    Reader.calls count reader = List.replicate count none := by
  induction count with
  | zero => rfl
  | succ count induction => rw [calls, next, if_pos finished, induction, List.replicate_succ]

/-- A call with a given number is answered by the item with that number, if there is one. -/
theorem Reader.calls_eq (whitelist : Whitelist) (position : Nat) (state : State)
    (chars : List Char) (count : Nat) :
    Reader.calls count ⟨whitelist, chars, position, state, false⟩
      = (List.range count).map fun index => (itemsFrom whitelist position state chars)[index]? := by
  -- a character that goes on is read within one call, so the number of calls varies
  induction chars generalizing position state count with
  | nil =>
      cases count with
      | zero => rfl
      | succ count =>
          rw [List.range_succ_eq_map, List.map_cons, List.map_map, calls, calls_finished _ rfl]
          cases ending : state.finish position <;>
            simp [next, advance, itemsFrom, ending, Function.comp_def]
  | cons char rest induction =>
      cases count with
      | zero => rfl
      | succ count =>
          cases outcome : state.step whitelist position char with
          | reading later =>
              have rule := transition_iff.2 outcome
              rw [itemsFrom_reading rule, ← induction]
              simp [calls, next, advance, outcome]
          | complete clause =>
              have rule := transition_iff.2 outcome
              rw [itemsFrom_complete rule, List.range_succ_eq_map]
              simp [calls, next, advance, outcome, induction, Function.comp_def]
          | refused fault =>
              have rule := transition_iff.2 outcome
              rw [itemsFrom_refused rule, List.range_succ_eq_map]
              simp [calls, next, advance, outcome, calls_finished, Function.comp_def]

/-! ## What a reader gives before it stops -/

/-- The clauses that a reader of the text gives before it stops. -/
def yielded (whitelist : Whitelist) (text : String) : List RawClause :=
  (items whitelist text).filterMap Except.toOption

/-- The fault of an item that is one. -/
def itemFault? : Except Fault RawClause → Option Fault
  | .ok _ => none
  | .error fault => some fault

/-- The fault that a reader of the text stops with, unless it stops at the end of the text. -/
def stop? (whitelist : Whitelist) (text : String) : Option Fault :=
  (items whitelist text).findSome? itemFault?

/-- The fault, or the value if there is none. -/
def unlessStopped (stop? : Option Fault) (value : α) : Except Fault α :=
  match stop? with
  | some fault => .error fault
  | none => .ok value

/-- Clauses with at most one fault after them are taken apart into the clauses and the fault. -/
theorem exists_items_eq (whitelist : Whitelist) (text : String) :
    ∃ (clauses : List RawClause) (fault? : Option Fault),
      items whitelist text = clauses.map .ok ++ fault?.toList.map .error := by
  rcases reached_or_refused whitelist text.toList with ⟨clauses, state, reached⟩
    | ⟨front, char, back, clauses, state, fault, split, reached, refused⟩
  · rw [items, reached.itemsFrom_eq]
    rcases ending : state.finish text.toList.length with _ | fault | last
    · exact ⟨clauses, none, rfl⟩
    · exact ⟨clauses, some fault, rfl⟩
    · -- the end of the text gives one more clause
      exact ⟨clauses ++ [last], none, by simp⟩
  · rw [items, split, reached.itemsFrom_eq_of_refused refused]
    exact ⟨clauses, some fault, rfl⟩

/-- What reading finds is what a reader gives, and the fault it stops with. -/
theorem items_eq (whitelist : Whitelist) (text : String) :
    items whitelist text
      = (yielded whitelist text).map .ok ++ (stop? whitelist text).toList.map .error := by
  obtain ⟨clauses, fault?, found⟩ := exists_items_eq whitelist text
  have clauses_eq : yielded whitelist text = clauses := by
    rw [yielded, found, List.filterMap_append, List.filterMap_map]
    cases fault? <;> simp [Function.comp_def, Except.toOption]
  have fault_eq : stop? whitelist text = fault? := by
    have none : clauses.findSome? (itemFault? ∘ .ok) = none :=
      List.findSome?_eq_none_iff.2 fun _ _ => rfl
    rw [stop?, found, List.findSome?_append, List.findSome?_map, none]
    cases fault? <;> rfl
  rw [found, clauses_eq, fault_eq]

/-- A reader stops with a fault exactly if reading finds it. -/
theorem stop?_eq_some_iff {fault : Fault} :
    stop? whitelist text = some fault ↔ .error fault ∈ items whitelist text := by
  rw [items_eq]
  cases stop? whitelist text <;> simp [eq_comm]

/-- A reader stops with a fault at the end of the text or at a character that is refused. -/
theorem stop?_cases {fault : Fault} (stops : stop? whitelist text = some fault) :
    (∃ clauses state, Reached whitelist text.toList clauses state
      ∧ state.finish text.toList.length = some (.error fault))
    ∨ ∃ front char back clauses state, text.toList = front ++ char :: back
      ∧ Reached whitelist front clauses state
      ∧ Transition whitelist front.length state char (.refused fault) := by
  rw [stop?_eq_some_iff, items] at stops
  rcases reached_or_refused whitelist text.toList with ⟨clauses, state, reached⟩
    | ⟨front, char, back, clauses, state, other, split, reached, refused⟩
  · rw [reached.itemsFrom_eq] at stops
    refine .inl ⟨clauses, state, reached, ?_⟩
    simpa using stops
  · rw [split, reached.itemsFrom_eq_of_refused refused] at stops
    obtain rfl : fault = other := by simpa using stops
    exact .inr ⟨front, char, back, clauses, state, split, reached, refused⟩

/-! ## Whole texts -/

/-- The clauses of a text as they are written, from the answers of a reader. -/
theorem readRaw_eq (whitelist : Whitelist) (text : String) :
    readRaw whitelist text = unlessStopped (stop? whitelist text) (yielded whitelist text) := by
  rw [readRaw, items_eq, List.mapM_append, mapM_id_eq_ok_iff.2 rfl]
  cases stop? whitelist text with
  | none => simp [unlessStopped]
  | some fault => rfl

/-- The typed clauses of a text, from the answers of a reader. A clause that cannot be typed comes
before the fault that the reader stops with. -/
theorem read_eq (whitelist : Whitelist) (text : String) :
    read whitelist text
      = (yielded whitelist text).mapM Clause.ofRaw >>= unlessStopped (stop? whitelist text) := by
  -- a clause among the items is typed at once
  have typing : ((yielded whitelist text).map .ok).mapM
      (fun item : Except Fault RawClause => item >>= Clause.ofRaw)
        = (yielded whitelist text).mapM Clause.ofRaw := List.mapM_map
  rw [read, items_eq, List.mapM_append, typing]
  cases (yielded whitelist text).mapM Clause.ofRaw with
  | error fault => rfl
  | ok typed =>
      cases stop? whitelist text with
      | none => exact congrArg Except.ok (List.append_nil typed)
      | some fault => rfl

/-- **The first fault decides.** Asked again and again, a reader gives clauses, then a fault if it
does not reach the end of the text, and then nothing. Written, the clauses of the text are those it
gives, unless there is that fault. Typed, they are refused for the first clause that cannot be typed
if there is one, otherwise for the fault of the reader if there is one, and otherwise they are the
typed clauses one by one. -/
theorem first_fault_decides (whitelist : Whitelist) (text : String) :
    (∀ count, Reader.calls count (.ofText whitelist text)
      = (List.range count).map fun index =>
          ((yielded whitelist text).map .ok ++ (stop? whitelist text).toList.map .error)[index]?)
    ∧ ((∃ before typed raw after fault, yielded whitelist text = before ++ raw :: after
          ∧ List.Forall₂ (fun raw clause => Clause.ofRaw raw = .ok clause) before typed
          ∧ Clause.ofRaw raw = .error fault ∧ read whitelist text = .error fault)
      ∨ ∃ typed,
          List.Forall₂ (fun raw clause => Clause.ofRaw raw = .ok clause) (yielded whitelist text)
            typed
          ∧ read whitelist text = unlessStopped (stop? whitelist text) typed)
    ∧ ((∃ typed, read whitelist text = .ok typed)
      ↔ ∃ raws typed, readRaw whitelist text = .ok raws
        ∧ List.Forall₂ (fun raw clause => Clause.ofRaw raw = .ok clause) raws typed)
    ∧ readRaw whitelist text = unlessStopped (stop? whitelist text) (yielded whitelist text)
    ∧ ∀ fault, readRaw whitelist text = .error fault ↔ stop? whitelist text = some fault := by
  refine ⟨?_, ?_, ?_, readRaw_eq whitelist text, ?_⟩
  · intro count
    rw [← items_eq]
    exact Reader.calls_eq whitelist 0 .initial text.toList count
  · rw [read_eq]
    rcases mapM_cases Clause.ofRaw (yielded whitelist text) with ⟨typed, fine⟩
      | ⟨before, typed, raw, after, fault, split, fine, failed⟩
    · refine .inr ⟨typed, fine, ?_⟩
      rw [mapM_eq_ok_iff_forall₂.2 fine]
      rfl
    · refine .inl ⟨before, typed, raw, after, fault, split, fine, failed, ?_⟩
      rw [split, mapM_eq_error_of_first fine failed]
      rfl
  · simp only [read_eq_ok_iff, mapM_eq_ok_iff_forall₂]
    exact exists_comm
  · intro fault
    rw [readRaw_eq]
    cases stop? whitelist text <;> simp [unlessStopped]

/-- A clause that cannot be typed comes before a colon that stands in a value. -/
example : read .unrestricted "n:a:=:x,s:b:=:c:d" = .error (.valueMalformed "a" "x" .number) := by
  decide +kernel

end RecordFilter.QueryText
