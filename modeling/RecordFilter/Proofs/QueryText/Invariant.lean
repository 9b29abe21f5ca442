import RecordFilter.Proofs.QueryText.Calls
import RecordFilter.Proofs.QueryText.Lockstep
import RecordFilter.Proofs.QueryText.Place
import RecordFilter.Proofs.QueryText.Position
import RecordFilter.Proofs.QueryText.RoundTrip

/-! # The registers at every point

What the registers hold at a point of a run can be told from the characters read so far, and a
clause that is complete leaves nothing behind in them.

* `Registers.Sound`: the invariant. The registers have it after any characters
  (`Registers.sound_after`), as the state that they keep is one that reading can reach.
* `Registers.fresh_after_clause`: after a clause the registers are those at the start.
* `Reader.resumes`: after a clause a reader goes on like one at the start of the rest.
* `registers_sound`: all of this together. -/

namespace RecordFilter.QueryText

variable {defaults : Defaults} {whitelist : Whitelist} {chars : List Char}
  {clauses : List RawClause} {state : State} {registers next : Registers} {char : Char}
  {clause : RawClause} {clause? : Option RawClause}

/-! ## The invariant -/

namespace Registers

/-- What the registers hold after some characters. -/
structure Sound (whitelist : Whitelist) (chars : List Char) (registers : Registers) : Prop where
  /-- The escape mark is set exactly if the backslashes at the end are odd in number. -/
  escaped_iff : registers.escaped = true ↔ EndsEscaped chars
  /-- Inside a group the buffer is empty. -/
  buffer_of_group : ∀ header opened segments, registers.place = .group header opened segments →
    registers.buffer = ""
  /-- A group has a first segment without a separator, and the others have one of the two. -/
  segments_of_group : ∀ header opened segments, registers.place = .group header opened segments →
    ∃ first others, segments = first :: others ∧ first.separator = none
      ∧ ∀ segment ∈ others, segment.separator = some ',' ∨ segment.separator = some '|'
  /-- The last segment of a group takes the next character. -/
  push_of_group : ∀ header opened segments, registers.place = .group header opened segments →
    ∃ front last, segments = front ++ [last] ∧ ∀ char, (push char).run registers
      = .ok ((), { registers with place := .group header opened (front ++ [last.push char]) })
  /-- A group was opened at an opening bracket that no closing bracket follows. -/
  opened_of_group : ∀ header opened segments, registers.place = .group header opened segments →
    OpenAt chars opened
  /-- Outside a group the buffer has no separators and no closing brackets. -/
  buffer_of_heading : ∀ progress, registers.place = .heading progress →
    ∀ char ∈ registers.buffer.toList, char ∉ separators ++ closings
  /-- A field that is stored has a name, and it is admitted. -/
  field_allowed : ∀ field, registers.place.field? = some field →
    field ≠ "" ∧ whitelist.allows field = true

end Registers

/-- The text of an unfinished clause outside a group has no separators and no closing brackets. -/
theorem Pending.plainText_buffer (pending : Pending whitelist chars state) :
    PlainText state.scope.buffer := by
  induction pending with
  | outside heading run => exact run.plainText
  | group => simp [PlainText, Scope.buffer]
  | escape before induction => exact induction

/-- The field of an unfinished clause has a name, and it is admitted. -/
theorem Pending.field_allowed {field : String} (pending : Pending whitelist chars state)
    (stored : state.scope.place.field? = some field) :
    field ≠ "" ∧ whitelist.allows field = true := by
  induction pending with
  | @outside _ _ progress _ heading run =>
      cases progress with
      | start => cases stored
      | typed type => cases stored
      | named type name =>
          cases stored
          cases heading with
          | named before run nonempty allowed separators => exact ⟨nonempty, allowed⟩
      | headed header =>
          cases stored
          exact ⟨heading.field_writable.1, heading.field_writable.2.1⟩
  | group heading run opening inside same =>
      cases stored
      exact ⟨heading.field_writable.1, heading.field_writable.2.1⟩
  | escape before induction => exact induction stored

/-- The place of a state is a group exactly if its scope is one. -/
theorem Scope.place_eq_group_iff {scope : Scope} {header : Header} {opened : Nat}
    {segments : List Segment} :
    scope.place = .group header opened segments
      ↔ ∃ body, scope = .group header opened body
        ∧ segments = segmentsFrom none "" body.toList := by
  constructor
  · intro inside
    cases scope with
    | outside progress text => cases inside
    | group header opened body =>
        cases inside
        exact ⟨body, rfl, rfl⟩
  · rintro ⟨body, rfl, rfl⟩
    rfl

namespace Registers

/-- The registers are sound after any characters that are not refused. -/
theorem sound_after (point : after defaults whitelist chars = .ok (clauses, registers)) :
    registers.Sound whitelist chars := by
  obtain ⟨state, reached, rfl⟩ := after_eq_ok_iff.1 point
  obtain ⟨_, pending, -⟩ := reached.exists_pending
  obtain ⟨scope, escaped⟩ := state
  refine ⟨reached.escaped_iff, ?_, ?_, ?_, ?_, ?_, fun _ => pending.field_allowed⟩
  · intro header opened segments inside
    obtain ⟨body, rfl, rfl⟩ := Scope.place_eq_group_iff.1 inside
    rfl
  · intro header opened segments inside
    obtain ⟨body, rfl, rfl⟩ := Scope.place_eq_group_iff.1 inside
    obtain ⟨first, others, split, begins, later⟩ := segmentsFrom_eq_cons none "" body.toList
    refine ⟨first, others, split, begins, fun segment member => ?_⟩
    obtain ⟨delimiter, separated⟩ := later segment member
    cases delimiter with
    | comma => exact .inl separated
    | pipe => exact .inr separated
  · intro header opened segments inside
    obtain ⟨body, rfl, rfl⟩ := Scope.place_eq_group_iff.1 inside
    have nonempty := segmentsFrom_ne_nil none "" body.toList
    obtain ⟨front, last, split⟩ := List.eq_nil_or_concat _ |>.resolve_left nonempty
    rw [List.concat_eq_append] at split
    refine ⟨front, last, split, fun char => ?_⟩
    rw [run_push, Scope.push, State.toRegisters_group, State.toRegisters_group, Array.toList_push,
      segmentsFrom_concat_literal, split, List.modifyLast_concat]
  · intro header opened segments inside
    obtain ⟨body, rfl, rfl⟩ := Scope.place_eq_group_iff.1 inside
    exact reached.opened?_eq_some_iff.1 rfl
  · intro progress outside
    exact plainText_iff.1 pending.plainText_buffer

/-- The registers at the start of a text are sound after any characters that escape nothing. -/
theorem sound_initial (unescaped : ¬ EndsEscaped chars) : initial.Sound whitelist chars where
  escaped_iff := iff_of_false Bool.false_ne_true unescaped
  buffer_of_group := nofun
  segments_of_group := nofun
  push_of_group := nofun
  opened_of_group := nofun
  buffer_of_heading := by simp [initial]
  field_allowed := nofun

/-- The registers stay sound at the end of a text without a fault. -/
theorem sound_finish (point : after defaults whitelist chars = .ok (clauses, registers))
    (ended : (finish chars.length).run registers = .ok (clause?, next)) :
    next.Sound whitelist chars := by
  obtain ⟨state, reached, rfl⟩ := after_eq_ok_iff.1 point
  rcases eq_of_run_finish ended with rfl | ⟨rfl, unescaped⟩
  · exact sound_after point
  · exact sound_initial (mt reached.escaped_iff.2 (Bool.not_eq_true _ ▸ unescaped))

/-! ## After a clause -/

/-- A separator or closing bracket that completes a clause leaves the registers as they are at the
start of a text, and what is found in the rest is what is found there, further to the right. -/
theorem fresh_after_clause (point : after defaults whitelist chars = .ok (clauses, registers))
    (completed : (step defaults whitelist chars.length char).run registers
      = .ok (some clause, next)) :
    char ∈ separators ++ closings ∧ next = .initial ∧ ∀ rest,
      itemsFrom defaults whitelist (chars.length + 1) next rest
        = (items whitelist (String.ofList rest)).map (shiftItem (chars.length + 1)) := by
  obtain ⟨state, reached, rfl⟩ := after_eq_ok_iff.1 point
  rcases run_step_eq_ok_iff.1 completed with ⟨later, rule, none, -⟩ | ⟨_, rule, -, rfl⟩
  · cases none
  refine ⟨?_, rfl, fun rest => ?_⟩
  · cases rule with
    | value delimiter nonempty =>
        exact List.mem_append_left _ (mem_separators.2 ⟨delimiter, rfl⟩)
    | closeGroup delimiter => exact List.mem_append_right _ (mem_closings.2 ⟨delimiter, rfl⟩)
  · rw [← State.toRegisters_initial, itemsFrom_toRegisters, items, String.toList_ofList,
      ← itemsFrom_shift, Nat.zero_add, State.shift_initial]

end Registers

namespace Reader

variable {text : String} {front rest : List Char}

/-- Reading up to the next item finishes the reader, or leaves it after a clause. -/
theorem advance_cases (reached : Reached whitelist front clauses state) (chars : List Char) :
    (advance whitelist front.length state chars).2.finished = true
      ∨ ∃ used rest found, chars = used ++ rest
        ∧ (advance whitelist front.length state chars).2
          = ⟨whitelist, rest, (front ++ used).length, .initial, false⟩
        ∧ Reached whitelist (front ++ used) found .initial := by
  induction chars generalizing front state clauses with
  | nil => exact .inl rfl
  | cons char rest induction =>
      cases outcome : state.step whitelist front.length char with
      | reading next =>
          rcases induction (reached.read (transition_iff.2 outcome)) with finished
            | ⟨used, rest, found, rfl, later, after⟩
          · refine .inl ?_
            simpa only [advance, outcome, List.length_append, List.length_singleton] using finished
          · refine .inr ⟨char :: used, rest, found, rfl, ?_, by simpa using after⟩
            simpa only [advance, outcome, List.length_append, List.length_singleton,
              List.append_assoc, List.singleton_append] using later
      | complete clause =>
          refine .inr ⟨[char], rest, _, rfl, ?_, reached.complete (transition_iff.2 outcome)⟩
          simp only [advance, outcome, List.length_append, List.length_singleton]
      | refused fault =>
          refine .inl ?_
          simp only [advance, outcome]

/-- A reader that is not finished stands at the start of its text or after a clause. -/
theorem exists_of_not_finished {count : Nat}
    (unfinished : (after count (ofText whitelist text)).finished = false) :
    ∃ front rest clauses, text.toList = front ++ rest
      ∧ after count (ofText whitelist text) = ⟨whitelist, rest, front.length, .initial, false⟩
      ∧ Reached whitelist front clauses .initial := by
  induction count with
  | zero => exact ⟨[], text.toList, [], rfl, rfl, .start⟩
  | succ count induction =>
      rw [after_add, after, after] at unfinished ⊢
      cases before : (after count (ofText whitelist text)).finished with
      | true =>
          rw [next, if_pos before, before] at unfinished
          cases unfinished
      | false =>
          obtain ⟨front, rest, clauses, split, same, reached⟩ := induction before
          rw [same, next, if_neg (by simp)] at unfinished ⊢
          rcases advance_cases reached rest with finished
            | ⟨used, rest, found, rfl, later, after⟩
          · rw [finished] at unfinished
            cases unfinished
          · exact ⟨front ++ used, rest, found, by rw [split, List.append_assoc], later, after⟩

/-- After a clause a reader gives what a reader of the rest gives, further to the right. -/
theorem resumes (more : Nat) (whitelist : Whitelist) (offset : Nat) (rest : List Char) :
    calls more ⟨whitelist, rest, offset, .initial, false⟩
      = (calls more (ofText whitelist (String.ofList rest))).map
          (Option.map (shiftItem offset)) := by
  have shifted := itemsFrom_shift whitelist 0 offset .initial rest
  rw [Nat.zero_add, State.shift_initial] at shifted
  rw [ofText, calls_eq, calls_eq, shifted, String.toList_ofList, List.map_map]
  exact List.map_congr_left fun index _ => List.getElem?_map ..

end Reader

/-! ## All points -/

/-- **The registers are sound at every point.** Working with registers finds what reading finds. At
every point of a run the registers hold what the characters read so far say, and so they do after
the end of the text. A separator or closing bracket that completes a clause leaves the registers as
they are at the start, so the rest is read as a text of its own, and faults name positions that are
further to the right by the characters read. In the same way a reader that is asked for one clause
after another stands in the initial state as long as it is not finished, and goes on like a reader
of the rest. -/
theorem registers_sound (defaults : Defaults) (whitelist : Whitelist) :
    (∀ text : String,
      Registers.itemsFrom defaults whitelist 0 .initial text.toList = items whitelist text)
    ∧ (∀ chars clauses registers,
        Registers.after defaults whitelist chars = .ok (clauses, registers) →
        registers.Sound whitelist chars
          ∧ ∀ clause? last, (Registers.finish chars.length).run registers = .ok (clause?, last) →
            last.Sound whitelist chars)
    ∧ (∀ chars clauses registers char clause next,
        Registers.after defaults whitelist chars = .ok (clauses, registers) →
        (Registers.step defaults whitelist chars.length char).run registers
          = .ok (some clause, next) →
        char ∈ separators ++ closings ∧ next = .initial ∧ ∀ rest,
          Registers.itemsFrom defaults whitelist (chars.length + 1) next rest
            = (items whitelist (String.ofList rest)).map (shiftItem (chars.length + 1)))
    ∧ ∀ text count, (Reader.after count (.ofText whitelist text)).finished = false →
        ∃ front rest clauses, text.toList = front ++ rest
          ∧ Registers.after defaults whitelist front = .ok (clauses, .initial)
          ∧ Reader.after count (.ofText whitelist text)
            = ⟨whitelist, rest, front.length, .initial, false⟩
          ∧ ∀ more, Reader.calls more (Reader.after count (.ofText whitelist text))
            = (Reader.calls more (.ofText whitelist (String.ofList rest))).map
              (Option.map (shiftItem front.length)) := by
  refine ⟨?_, ?_, ?_, ?_⟩
  · intro text
    exact Registers.itemsFrom_toRegisters defaults whitelist 0 .initial text.toList
  · intro chars clauses registers point
    exact ⟨Registers.sound_after point, fun clause? last => Registers.sound_finish point⟩
  · intro chars clauses registers char clause next point completed
    exact Registers.fresh_after_clause point completed
  · intro text count unfinished
    obtain ⟨front, rest, clauses, split, same, reached⟩ := Reader.exists_of_not_finished unfinished
    have point : Registers.after defaults whitelist front = .ok (clauses, .initial) :=
      Registers.after_eq_ok_iff.2 ⟨.initial, reached, rfl⟩
    refine ⟨front, rest, clauses, split, point, same, fun more => ?_⟩
    rw [same, Reader.resumes]

/-- An open group after its first value, a value that a comma ends, and a reader after it. -/
theorem registers_sound_group_and_value :
    Registers.after ⟨fun _ => .strayColon, .operator⟩ .unrestricted "s:a:<>:[b,".toList
        = .ok ([], ⟨.group ⟨.string, "a", .oneOf⟩ 7 [⟨none, "b"⟩, ⟨some ',', ""⟩], "", false⟩)
      ∧ OpenAt "s:a:<>:[b,".toList 7
      ∧ Registers.after ⟨fun _ => .strayColon, .operator⟩ .unrestricted "s:a:=:b".toList
        = .ok ([], ⟨.heading (.headed ⟨.string, "a", .equal⟩), "b", false⟩)
      ∧ Registers.initial.Sound .unrestricted "s:a:=:b".toList
      ∧ (∀ rest, Registers.itemsFrom ⟨fun _ => .strayColon, .operator⟩ .unrestricted 8 .initial rest
        = (items .unrestricted (String.ofList rest)).map (shiftItem 8))
      ∧ (Reader.after 1 (.ofText .unrestricted "s:a:=:b,:")).finished = false
      ∧ ∀ more, Reader.calls more (Reader.after 1 (.ofText .unrestricted "s:a:=:b,:"))
        = (Reader.calls more (.ofText .unrestricted ":")).map (Option.map (shiftItem 8)) := by
  obtain ⟨-, sound, fresh, resumes⟩ :=
    registers_sound ⟨fun _ => .strayColon, .operator⟩ .unrestricted
  have inside : Registers.after ⟨fun _ => .strayColon, .operator⟩ .unrestricted
      "s:a:<>:[b,".toList = .ok ([], ⟨.group ⟨.string, "a", .oneOf⟩ 7
        [⟨none, "b"⟩, ⟨some ',', ""⟩], "", false⟩) := rfl
  have value : Registers.after ⟨fun _ => .strayColon, .operator⟩ .unrestricted "s:a:=:b".toList
      = .ok ([], ⟨.heading (.headed ⟨.string, "a", .equal⟩), "b", false⟩) := rfl
  refine ⟨inside, (sound _ _ _ inside).1.opened_of_group _ _ _ rfl, value, ?_, ?_, rfl, ?_⟩
  · exact (sound _ _ _ value).2 _ _ rfl
  · exact (fresh _ _ _ ',' _ _ value rfl).2.2
  · -- the reader itself says which characters are left, and at which position
    obtain ⟨front, rest, clauses, -, -, same, answers⟩ := resumes "s:a:=:b,:" 1 rfl
    obtain rfl : [':'] = rest := congrArg Reader.rest same
    have offset : 8 = front.length := congrArg Reader.position same
    rw [← offset] at answers
    exact answers

end RecordFilter.QueryText
