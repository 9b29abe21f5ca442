import RecordFilter.Proofs.QueryText.Reader

/-! # One call after another

A reader keeps everything between two calls: the characters left, the state between them, and
whether it is finished. What it has left to give loses its first item with every call, and from that
all answers can be told, also those after the last item.

* `Reader.pending`: what a reader has left to give. A call gives its first item
  (`Reader.next_fst`) and leaves the others (`Reader.pending_next`).
* `Reader.after`: the reader after some calls.
* `InOrder`: clauses, then at most one fault, then nothing.
* `Reader.collect`: the loop that asks until there is no clause any more.
* `Quiet`, `Reader.ComesToEnd`: a call that reads all characters left and checks the end of the
  text. There is at most one (`Reader.comesToEnd_unique`).
* `answers_in_order`: all of this together. -/

namespace RecordFilter.QueryText

variable {whitelist : Whitelist} {position : Nat} {state last other : State} {chars : List Char}
  {text : String} {reader : Reader} {clause : RawClause} {fault : Fault}
  {answers : List (Option (Except Fault RawClause))}

namespace Reader

/-! ## One call -/

/-- What a reader has left to give. -/
def pending (reader : Reader) : List (Except Fault RawClause) :=
  if reader.finished then []
  else itemsFrom reader.whitelist reader.position reader.state reader.rest

@[simp] theorem pending_ofText (whitelist : Whitelist) (text : String) :
    (ofText whitelist text).pending = items whitelist text := rfl

/-- A reader that is finished has nothing left to give. -/
theorem pending_of_finished (finished : reader.finished = true) : reader.pending = [] :=
  if_pos finished

/-- Reading up to the next item gives the first one that is left, and leaves the others. -/
theorem advance_pending (whitelist : Whitelist) (position : Nat) (state : State)
    (chars : List Char) :
    (advance whitelist position state chars).1
        = (itemsFrom whitelist position state chars).head?
      ∧ (advance whitelist position state chars).2.pending
        = (itemsFrom whitelist position state chars).tail := by
  induction chars generalizing position state with
  | nil =>
      rw [advance, itemsFrom]
      cases state.finish position <;> exact ⟨rfl, rfl⟩
  | cons char rest induction =>
      cases outcome : state.step whitelist position char with
      | reading next =>
          -- a character that goes on is read within the same call
          rw [itemsFrom_reading (transition_iff.2 outcome)]
          simpa only [advance, outcome] using induction (position + 1) next
      | complete clause =>
          rw [itemsFrom_complete (transition_iff.2 outcome)]
          simp only [advance, outcome]
          exact ⟨rfl, rfl⟩
      | refused fault =>
          rw [itemsFrom_refused (transition_iff.2 outcome)]
          simp only [advance, outcome]
          exact ⟨rfl, rfl⟩

/-- A call gives the first item that is left. -/
theorem next_fst (reader : Reader) : reader.next.1 = reader.pending.head? := by
  cases finished : reader.finished with
  | true => rw [next, if_pos finished, pending_of_finished finished, List.head?_nil]
  | false =>
      simp only [next, pending, finished, Bool.false_eq_true, if_false]
      exact (advance_pending ..).1

/-- A call leaves the items after the first one. -/
theorem pending_next (reader : Reader) : reader.next.2.pending = reader.pending.tail := by
  cases finished : reader.finished with
  | true => rw [next, if_pos finished, pending_of_finished finished, List.tail_nil]
  | false =>
      simp only [next, pending, finished, Bool.false_eq_true, if_false]
      exact (advance_pending ..).2

/-! ## Several calls -/

/-- The reader after the given number of calls. -/
def after : Nat → Reader → Reader
  | 0, reader => reader
  | count + 1, reader => after count reader.next.2

/-- Every call takes one item from what is left. -/
theorem pending_after (count : Nat) (reader : Reader) :
    (after count reader).pending = reader.pending.drop count := by
  induction count generalizing reader with
  | zero => rfl
  | succ count induction => rw [after, induction, pending_next, List.drop_tail]

/-- A call with a given number is answered by the item with that number. -/
theorem answer_eq (count : Nat) (reader : Reader) :
    (after count reader).next.1 = reader.pending[count]? := by
  rw [next_fst, pending_after, List.head?_drop]

/-- The answers are the items that are left, and silence after the last of them. -/
theorem calls_eq_take (count : Nat) (reader : Reader) :
    calls count reader
      = (reader.pending.take count).map some
        ++ List.replicate (count - reader.pending.length) none := by
  induction count generalizing reader with
  | zero => simp [calls]
  | succ count induction =>
      rw [calls, induction, next_fst, pending_next]
      cases reader.pending with
      | nil => simp [List.replicate_succ]
      | cons item rest => simp

/-- A reader with nothing left to give stays silent. -/
theorem calls_of_pending_eq_nil (none : reader.pending = []) (count : Nat) :
    calls count reader = List.replicate count .none := by
  rw [calls_eq_take, none]
  simp

/-- Calls one after the other. -/
theorem after_add (first second : Nat) (reader : Reader) :
    after (first + second) reader = after second (after first reader) := by
  induction first generalizing reader with
  | zero => rw [Nat.zero_add, after]
  | succ first induction => rw [Nat.succ_add, after, induction, after]

/-- A reader that is finished stays as it is. -/
theorem after_of_finished (finished : reader.finished = true) (count : Nat) :
    after count reader = reader := by
  induction count with
  | zero => rfl
  | succ count induction => rw [after, next, if_pos finished, induction]

end Reader

/-! ## Clauses, a fault, and silence -/

/-- Clauses, then at most one fault, then nothing. -/
def InOrder (answers : List (Option (Except Fault RawClause))) : Prop :=
  ∃ (clauses : List RawClause) (fault? : Option Fault) (silent : Nat),
    answers = clauses.map (some ∘ .ok) ++ fault?.toList.map (some ∘ .error)
      ++ List.replicate silent none

section

variable {clauses : List RawClause} {fault? : Option Fault} {index count : Nat}

/-- Items that are taken from clauses with at most one fault after them are such items again. -/
theorem exists_take_eq (clauses : List RawClause) (fault? : Option Fault) (count : Nat) :
    ∃ taken? : Option Fault,
      (clauses.map .ok ++ fault?.toList.map .error : List (Except Fault RawClause)).take count
        = (clauses.take count).map .ok ++ taken?.toList.map .error := by
  rw [List.take_append, List.map_take]
  cases fault? with
  | none => exact ⟨none, by simp⟩
  | some fault =>
      cases count - (clauses.map .ok : List (Except Fault RawClause)).length with
      | zero => exact ⟨none, by simp⟩
      | succ more => exact ⟨some fault, by simp⟩

/-- Where there is no clause the clauses are over. -/
theorem length_le_of_getElem?_ne_ok
    (other : ∀ clause, (clauses.map .ok ++ fault?.toList.map .error
      : List (Except Fault RawClause))[index]? ≠ some (.ok clause)) :
    clauses.length ≤ index := by
  refine Nat.le_of_not_lt fun inside => other clauses[index] ?_
  rw [List.getElem?_append_left (by simpa using inside)]
  simp [inside]

/-- The fault stands right after the clauses. -/
theorem eq_length_of_getElem?_eq_error
    (found : (clauses.map .ok ++ fault?.toList.map .error
      : List (Except Fault RawClause))[index]? = some (.error fault)) :
    index = clauses.length := by
  have beyond : clauses.length ≤ index :=
    length_le_of_getElem?_ne_ok fun clause same => nomatch found.symm.trans same
  have inside := (List.getElem?_eq_some_iff.1 found).1
  cases fault? <;> simp at inside <;> omega

end

namespace Reader

/-- The answers of a reader are clauses, then at most one fault, then nothing. -/
theorem inOrder_calls (whitelist : Whitelist) (text : String) (count : Nat) :
    InOrder (calls count (ofText whitelist text)) := by
  obtain ⟨clauses, fault?, found⟩ := exists_items_eq whitelist text
  obtain ⟨taken?, taken⟩ := exists_take_eq clauses fault? count
  refine ⟨clauses.take count, taken?, count - (items whitelist text).length, ?_⟩
  rw [calls_eq_take, pending_ofText, found, taken, List.map_append, List.map_map, List.map_map]

/-- After an answer that is no clause a reader stays silent. -/
theorem calls_after_of_ne_ok {count : Nat}
    (ended : ∀ clause, (after count (ofText whitelist text)).next.1 ≠ some (.ok clause))
    (more : Nat) :
    calls more (after (count + 1) (ofText whitelist text)) = List.replicate more none := by
  obtain ⟨clauses, fault?, found⟩ := exists_items_eq whitelist text
  simp only [answer_eq, pending_ofText, found] at ended
  refine calls_of_pending_eq_nil ?_ more
  rw [pending_after, pending_ofText, found, List.drop_eq_nil_iff]
  -- only the fault can come after the clauses
  have beyond := length_le_of_getElem?_ne_ok ended
  cases fault? <;> simp <;> omega

/-- A reader gives one fault at most. -/
theorem answer_error_unique {first second : Nat} {other : Fault}
    (answer : (after first (ofText whitelist text)).next.1 = some (.error fault))
    (again : (after second (ofText whitelist text)).next.1 = some (.error other)) :
    first = second := by
  obtain ⟨clauses, fault?, found⟩ := exists_items_eq whitelist text
  rw [answer_eq, pending_ofText, found] at answer again
  rw [eq_length_of_getElem?_eq_error answer, eq_length_of_getElem?_eq_error again]

end Reader

/-! ## The number of answers -/

/-- Every item takes a character, except for one at the end of the text. -/
theorem length_itemsFrom_le (whitelist : Whitelist) (position : Nat) (state : State)
    (chars : List Char) :
    (itemsFrom whitelist position state chars).length ≤ chars.length + 1 := by
  induction chars generalizing position state with
  | nil =>
      rw [itemsFrom]
      cases state.finish position <;> simp
  | cons char rest induction =>
      rw [List.length_cons]
      cases outcome : state.step whitelist position char with
      | reading next =>
          rw [itemsFrom_reading (transition_iff.2 outcome)]
          exact Nat.le_succ_of_le (induction (position + 1) next)
      | complete clause =>
          rw [itemsFrom_complete (transition_iff.2 outcome), List.length_cons]
          exact Nat.succ_le_succ (induction (position + 1) .initial)
      | refused fault =>
          rw [itemsFrom_refused (transition_iff.2 outcome), List.length_singleton]
          exact Nat.le_add_left 1 _

/-- A text has at most one more item than characters. -/
theorem length_items_le (whitelist : Whitelist) (text : String) :
    (items whitelist text).length ≤ text.length + 1 := by
  rw [← String.length_toList]
  exact length_itemsFrom_le whitelist 0 .initial text.toList

namespace Reader

/-- The answers before the first silence are the items. -/
theorem takeWhile_calls (count : Nat) (reader : Reader) :
    (calls count reader).takeWhile Option.isSome = (reader.pending.take count).map some := by
  have answered : ∀ answer ∈ (reader.pending.take count).map some, answer.isSome = true := by
    intro answer member
    obtain ⟨item, -, rfl⟩ := List.mem_map.1 member
    rfl
  rw [calls_eq_take, List.takeWhile_append_of_pos answered, List.takeWhile_replicate]
  simp

/-- Enough calls give all items. -/
theorem filterMap_calls {count : Nat} (enough : reader.pending.length ≤ count) :
    (calls count reader).filterMap id = reader.pending := by
  rw [calls_eq_take, List.take_of_length_le enough, List.filterMap_append, List.filterMap_map]
  simp

/-! ## Collecting the clauses -/

/-- The clauses that a reader gives when it is asked again and again, up to its first fault. -/
def collect (reader : Reader) : Except Fault (List RawClause) :=
  match _ : reader.next with
  | (none, _) => .ok []
  | (some (.error fault), _) => .error fault
  | (some (.ok clause), later) => later.collect.map (clause :: ·)
termination_by reader.pending.length
decreasing_by
  rename_i answer
  have first := next_fst reader
  have left := pending_next reader
  rw [answer] at first left
  rw [left]
  cases items : reader.pending with
  | nil => rw [items] at first; cases first
  | cons item rest => simp

/-- Asking again and again collects what is left. -/
theorem collect_eq (reader : Reader) : reader.collect = reader.pending.mapM id := by
  fun_induction collect reader with
  | case1 reader later answer =>
      have first := next_fst reader
      rw [answer] at first
      rw [List.head?_eq_none_iff.1 first.symm]
      rfl
  | case2 reader fault later answer =>
      have first := next_fst reader
      rw [answer] at first
      obtain ⟨rest, items⟩ := List.head?_eq_some_iff.1 first.symm
      rw [items, List.mapM_cons]
      rfl
  | case3 reader clause later answer induction =>
      have first := next_fst reader
      have left := pending_next reader
      rw [answer] at first left
      obtain ⟨rest, items⟩ := List.head?_eq_some_iff.1 first.symm
      rw [items, List.tail_cons] at left
      rw [induction, left, items, List.mapM_cons]
      cases rest.mapM id <;> rfl

end Reader

/-! ## The check of the end -/

/-- The characters go on from one state to another, and complete no clause on the way. -/
inductive Quiet (whitelist : Whitelist) : Nat → State → List Char → State → Prop
  /-- Without a character the state stays. -/
  | nil {position : Nat} {state : State} : Quiet whitelist position state [] state
  /-- A character that goes on, before others that go on. -/
  | cons {position : Nat} {state next last : State} {char : Char} {chars : List Char}
      (rule : Transition whitelist position state char (.reading next))
      (rest : Quiet whitelist (position + 1) next chars last) :
      Quiet whitelist position state (char :: chars) last

namespace Reader

/-- The next call reads all characters left and checks the end of the text in the state. -/
def ComesToEnd (reader : Reader) (last : State) : Prop :=
  reader.finished = false
    ∧ Quiet reader.whitelist reader.position reader.state reader.rest last

/-- Characters that go on to the end leave the answer to the end, and the reader is finished. -/
theorem advance_of_quiet (quiet : Quiet whitelist position state chars last) :
    advance whitelist position state chars
      = (last.finish (position + chars.length),
          ⟨whitelist, [], position + chars.length, last, true⟩) := by
  induction quiet with
  | nil => rfl
  | @cons position _ _ _ char chars rule rest induction =>
      have size : position + 1 + chars.length = position + (char :: chars).length := by
        rw [List.length_cons]
        omega
      rw [size] at induction
      simpa only [advance, rule.step_eq] using induction

/-- A call that comes to the end gives what the end adds, and nothing can come after it. -/
theorem ComesToEnd.next_eq (ends : reader.ComesToEnd last) :
    reader.next.1 = last.finish (reader.position + reader.rest.length)
      ∧ reader.next.2.finished = true := by
  obtain ⟨unfinished, quiet⟩ := ends
  rw [next, if_neg (by simp [unfinished]), advance_of_quiet quiet]
  exact ⟨rfl, rfl⟩

/-- Reading moves the position over the characters that are read. -/
theorem extent_advance (whitelist : Whitelist) (position : Nat) (state : State)
    (chars : List Char) :
    (advance whitelist position state chars).2.position
        + (advance whitelist position state chars).2.rest.length
      = position + chars.length := by
  induction chars generalizing position state with
  | nil => rfl
  | cons char rest induction =>
      rw [List.length_cons]
      cases outcome : state.step whitelist position char with
      | reading later =>
          simp only [advance, outcome, induction]
          omega
      | complete clause =>
          simp only [advance, outcome]
          omega
      | refused fault =>
          simp only [advance, outcome]
          omega

/-- The characters read and the characters left are those of the text, after any number of calls. -/
theorem extent_after (count : Nat) (reader : Reader) :
    (after count reader).position + (after count reader).rest.length
      = reader.position + reader.rest.length := by
  induction count generalizing reader with
  | zero => rfl
  | succ count induction =>
      rw [after, induction, next]
      split
      · rfl
      · exact extent_advance ..

/-- A reader comes to the end of its text in one call at most. -/
theorem comesToEnd_unique {first second : Nat} (ends : (after first reader).ComesToEnd last)
    (again : (after second reader).ComesToEnd other) : first = second := by
  -- a call after the first one would find the reader finished
  have silent {earlier later : Nat} {last other : State} (before : earlier < later)
      (ends : (after earlier reader).ComesToEnd last)
      (again : (after later reader).ComesToEnd other) : False := by
    obtain ⟨more, rfl⟩ := Nat.exists_eq_add_of_lt before
    have finished := ends.next_eq.2
    have unfinished := again.1
    rw [Nat.add_assoc, Nat.add_comm more 1, after_add, after_add, after, after,
      after_of_finished finished, finished] at unfinished
    cases unfinished
  rcases Nat.lt_trichotomy first second with before | same | later
  · exact (silent before ends again).elim
  · exact same
  · exact (silent later again ends).elim

end Reader

/-! ## All answers -/

/-- **A reader gives clauses, then at most one fault, then nothing.** After an answer that is no
clause it stays silent, whatever is asked later. It gives at most one more answer than its text has
characters, and more calls than characters give exactly what reading the whole text finds. Asking
for clauses again and again, from the start or after any number of calls, collects what is found
from there on. The end of the text is checked in one call at most, whose answer is what the end
adds, and a fault is the answer to one call at most. -/
theorem answers_in_order (whitelist : Whitelist) (text : String) :
    (∀ count, InOrder (Reader.calls count (.ofText whitelist text)))
    ∧ (∀ count,
        (∀ clause, (Reader.after count (.ofText whitelist text)).next.1 ≠ some (.ok clause)) →
        ∀ more, Reader.calls more (Reader.after (count + 1) (.ofText whitelist text))
          = List.replicate more none)
    ∧ (∀ count, ((Reader.calls count (.ofText whitelist text)).takeWhile Option.isSome).length
        ≤ text.length + 1)
    ∧ (∀ count, text.length < count →
        (Reader.calls count (.ofText whitelist text)).filterMap id = items whitelist text)
    ∧ (Reader.ofText whitelist text).collect = readRaw whitelist text
    ∧ (∀ count, (Reader.after count (.ofText whitelist text)).collect
        = ((items whitelist text).drop count).mapM id)
    ∧ (∀ count last, (Reader.after count (.ofText whitelist text)).ComesToEnd last →
        (Reader.after count (.ofText whitelist text)).next.1 = last.finish text.length)
    ∧ (∀ first second last other, (Reader.after first (.ofText whitelist text)).ComesToEnd last →
        (Reader.after second (.ofText whitelist text)).ComesToEnd other → first = second)
    ∧ ∀ first second fault other,
        (Reader.after first (.ofText whitelist text)).next.1 = some (.error fault) →
        (Reader.after second (.ofText whitelist text)).next.1 = some (.error other) →
        first = second := by
  have few : (Reader.ofText whitelist text).pending.length ≤ text.length + 1 :=
    length_items_le whitelist text
  refine ⟨Reader.inOrder_calls whitelist text, ?_, ?_, ?_, Reader.collect_eq _, ?_, ?_, ?_, ?_⟩
  · intro count ended more
    exact Reader.calls_after_of_ne_ok ended more
  · intro count
    rw [Reader.takeWhile_calls, List.length_map]
    exact Nat.le_trans (List.length_take_le' count _) few
  · intro count enough
    exact Reader.filterMap_calls (Nat.le_trans few enough)
  · intro count
    rw [Reader.collect_eq, Reader.pending_after, Reader.pending_ofText]
  · intro count last ends
    rw [ends.next_eq.1, Reader.extent_after]
    congr 1
    exact (Nat.zero_add _).trans String.length_toList
  · intro first second last other ends again
    exact Reader.comesToEnd_unique ends again
  · intro first second fault other answer again
    exact Reader.answer_error_unique answer again

/-- A fault in the second of three clauses, and a clause that the end of its text completes. -/
theorem answers_in_order_fault_and_end :
    (Reader.after 1 (.ofText .unrestricted "s:a:=:x,z:b:=:y,s:c:=:z")).next.1
        = some (.error (.typeUnknown "z"))
      ∧ (∀ more,
          Reader.calls more (Reader.after 2 (.ofText .unrestricted "s:a:=:x,z:b:=:y,s:c:=:z"))
            = List.replicate more none)
      ∧ (∀ count, (Reader.after count (.ofText .unrestricted "s:a:=:x,z:b:=:y,s:c:=:z")).next.1
          = some (.error (.typeUnknown "z")) → count = 1)
      ∧ (Reader.calls 8 (.ofText .unrestricted "s:a:=:x")).filterMap id
        = [.ok ⟨⟨.string, "a", .equal⟩, .one "x"⟩]
      ∧ (Reader.after 0 (.ofText .unrestricted "s:a:=:x")).next.1
        = some (.ok ⟨⟨.string, "a", .equal⟩, .one "x"⟩)
      ∧ ∀ count last, (Reader.after count (.ofText .unrestricted "s:a:=:x")).ComesToEnd last →
        count = 0 := by
  obtain ⟨-, silent, -, -, -, -, -, -, one⟩ :=
    answers_in_order .unrestricted "s:a:=:x,z:b:=:y,s:c:=:z"
  obtain ⟨-, -, -, whole, -, -, added, once, -⟩ := answers_in_order .unrestricted "s:a:=:x"
  have fault : (Reader.after 1 (.ofText .unrestricted "s:a:=:x,z:b:=:y,s:c:=:z")).next.1
      = some (.error (.typeUnknown "z")) := rfl
  -- every character of the single clause goes on
  have ends : (Reader.after 0 (.ofText .unrestricted "s:a:=:x")).ComesToEnd
      ⟨.outside (.headed ⟨.string, "a", .equal⟩) "x", false⟩ := by
    refine ⟨rfl, ?_⟩
    change Quiet _ 0 .initial ['s', ':', 'a', ':', '=', ':', 'x'] _
    exact .cons (transition_iff.2 rfl) (.cons (transition_iff.2 rfl) (.cons (transition_iff.2 rfl)
      (.cons (transition_iff.2 rfl) (.cons (transition_iff.2 rfl) (.cons (transition_iff.2 rfl)
        (.cons (transition_iff.2 rfl) .nil))))))
  refine ⟨fault, silent 1 ?_, ?_, whole 8 (by decide), added 0 _ ends, ?_⟩
  · rw [fault]
    exact nofun
  · exact fun count answer => one count 1 _ _ answer fault
  · exact fun count last again => once count 0 _ _ again ends

end RecordFilter.QueryText
