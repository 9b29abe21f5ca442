import RecordFilter.Pattern.Engine
import RecordFilter.Proofs.Clause.Fault
import RecordFilter.Proofs.Filter.Conjunction
import RecordFilter.Proofs.QueryText.Clauses
import RecordFilter.Proofs.QueryText.Ending
import RecordFilter.Proofs.QueryText.Position

/-! # Query texts side by side

Two query texts with a separator between them mean the clauses of the first and then those of the
second, unless the first ends in a pending header. A fault of the second keeps its cause, and its
position moves with the text.

* `join`: two texts with a separator between them.
* `items_join`: what is found in the joined text.
* `mapM_items_join`: any way to collect it whose only use of positions is in its faults.
* `readRaw_join`, `read_join`, `ofText_join`: the clauses and the filter of the joined text. -/

namespace RecordFilter

namespace QueryText

variable {whitelist : Whitelist} {left right : String} {clauses : List RawClause} {β : Type}

/-- Two texts with a separator between them. -/
def join (left : String) (separator : Delimiter) (right : String) : String :=
  left ++ String.singleton separator.char ++ right

/-- The characters of joined texts. -/
theorem toList_join (left : String) (separator : Delimiter) (right : String) :
    (join left separator right).toList = left.toList ++ [separator.char] ++ right.toList := by
  simp [join]

/-- What is found in joined texts is found in the first and then, further to the right, in the
second. -/
theorem items_join (accepted : readRaw whitelist left = .ok clauses)
    (settled : ¬ HeaderPending left.toList) (separator : Delimiter) (right : String) :
    items whitelist (join left separator right)
      = clauses.map .ok ++ (items whitelist right).map (shiftItem (left.length + 1)) := by
  obtain ⟨seen, state, last?, reached, ending, rfl⟩ :=
    itemsFrom_eq_map_ok_iff.1 (readRaw_eq_ok_iff.1 accepted)
  -- the separator finishes the first text, so the second starts as if it stood alone
  have clean := reached.separator ending settled separator
  have moved := itemsFrom_shift whitelist 0 (left.length + 1) .initial right.toList
  rw [State.shift_initial, Nat.zero_add] at moved
  rw [items, toList_join, clean.itemsFrom_append, List.length_append, List.length_singleton,
    String.length_toList, moved, items]

/-- Collecting items is moved along if the treatment of one item is. -/
theorem mapM_shiftItem {treat : Except Fault RawClause → Except Fault β} {offset : Nat}
    (moves : ∀ item, treat (shiftItem offset item) = (treat item).mapError (Fault.shift offset))
    (found : List (Except Fault RawClause)) :
    (found.map (shiftItem offset)).mapM treat
      = (found.mapM treat).mapError (Fault.shift offset) := by
  induction found with
  | nil => rfl
  | cons item rest induction =>
      rw [List.map_cons, List.mapM_cons, List.mapM_cons, moves, induction]
      cases treat item <;> cases rest.mapM treat <;> rfl

/-- Collecting the items of joined texts collects those of the first and then those of the
second. -/
theorem mapM_items_join {treat : Except Fault RawClause → Except Fault β} {values : List β}
    (moves : ∀ offset item,
      treat (shiftItem offset item) = (treat item).mapError (Fault.shift offset))
    (accepted : readRaw whitelist left = .ok clauses)
    (collected : (items whitelist left).mapM treat = .ok values)
    (settled : ¬ HeaderPending left.toList) (separator : Delimiter) (right : String) :
    (items whitelist (join left separator right)).mapM treat
      = (((items whitelist right).mapM treat).map (values ++ ·)).mapError
          (Fault.shift (left.length + 1)) := by
  -- reading found clauses only, so collecting the first text is collecting its clauses
  have only : items whitelist left = clauses.map .ok := readRaw_eq_ok_iff.1 accepted
  rw [only] at collected
  rw [items_join accepted settled, List.mapM_append, collected, mapM_shiftItem (moves _)]
  cases (items whitelist right).mapM treat <;> rfl

/-- Typing a moved item is moved along, as faults of typing name no position. -/
theorem typing_shiftItem (offset : Nat) (item : Except Fault RawClause) :
    (shiftItem offset item >>= Clause.ofRaw)
      = (item >>= Clause.ofRaw).mapError (Fault.shift offset) := by
  cases item with
  | error fault => rfl
  | ok raw =>
      -- a clause has no position to move
      change Clause.ofRaw raw = (Clause.ofRaw raw).mapError (Fault.shift offset)
      cases typed : Clause.ofRaw raw with
      | ok clause => rfl
      | error fault =>
          have typing := Clause.kind_of_ofRaw_eq_error typed
          have same := Fault.shift_of_kind_eq_typing typing offset
          exact congrArg Except.error same.symm

/-! ## Clauses and filters of joined texts -/

/-- The clauses of joined texts as they are written. -/
theorem readRaw_join (accepted : readRaw whitelist left = .ok clauses)
    (settled : ¬ HeaderPending left.toList) (separator : Delimiter) (right : String) :
    readRaw whitelist (join left separator right)
      = ((readRaw whitelist right).map (clauses ++ ·)).mapError
          (Fault.shift (left.length + 1)) :=
  mapM_items_join (fun _ _ => rfl) accepted accepted settled separator right

/-- The typed clauses of joined texts. -/
theorem read_join {typed : List Clause} (accepted : read whitelist left = .ok typed)
    (settled : ¬ HeaderPending left.toList) (separator : Delimiter) (right : String) :
    read whitelist (join left separator right)
      = ((read whitelist right).map (typed ++ ·)).mapError (Fault.shift (left.length + 1)) := by
  obtain ⟨clauses, raw, -⟩ := read_eq_ok_iff.1 accepted
  exact mapM_items_join typing_shiftItem raw accepted settled separator right

/-- The filter of joined texts has the criteria of both. -/
theorem ofText_join {engine : PatternEngine} {first second : Filter engine}
    (compiled : Filter.ofText engine whitelist left = .ok first)
    (also : Filter.ofText engine whitelist right = .ok second)
    (settled : ¬ HeaderPending left.toList) (separator : Delimiter) :
    Filter.ofText engine whitelist (join left separator right) = .ok (first.append second) := by
  obtain ⟨front, readFront, compileFront⟩ := Filter.ofText_eq_ok_iff.1 compiled
  obtain ⟨back, readBack, compileBack⟩ := Filter.ofText_eq_ok_iff.1 also
  have readBoth : read whitelist (join left separator right) = .ok (front ++ back) := by
    rw [read_join readFront settled, readBack]
    rfl
  exact Filter.ofText_eq_ok_iff.2 ⟨_, readBoth, Filter.compile_append compileFront compileBack⟩

/-- **Joined texts mean what their parts mean.** After a text without a pending header and a
separator, the clauses of another text, written or typed, follow those of the first, its fault is
the fault of the whole with its position moved, and the filter of the whole is the conjunction of
the two filters. -/
theorem join_of_not_headerPending (engine : PatternEngine) (whitelist : Whitelist)
    (left : String) (separator : Delimiter) (right : String)
    (settled : ¬ HeaderPending left.toList) :
    (∀ clauses, readRaw whitelist left = .ok clauses →
      readRaw whitelist (join left separator right)
        = ((readRaw whitelist right).map (clauses ++ ·)).mapError
            (Fault.shift (left.length + 1)))
    ∧ (∀ typed, read whitelist left = .ok typed →
      read whitelist (join left separator right)
        = ((read whitelist right).map (typed ++ ·)).mapError (Fault.shift (left.length + 1)))
    ∧ ∀ first second, Filter.ofText engine whitelist left = .ok first →
      Filter.ofText engine whitelist right = .ok second →
      ∃ both, Filter.ofText engine whitelist (join left separator right) = .ok both
        ∧ ∀ {α : Type u} (access : α → String → FieldValue) (item : α),
          both.accepts access item
            = (first.accepts access item && second.accepts access item) := by
  refine ⟨?_, ?_, ?_⟩
  · intro clauses accepted
    exact readRaw_join accepted settled separator right
  · intro typed accepted
    exact read_join accepted settled separator right
  · intro first second compiled also
    refine ⟨first.append second, ofText_join compiled also settled separator, ?_⟩
    intro α access item
    exact Filter.accepts_append first second access item

/-- A clause before another one, before a group that is left open, and in a filter. -/
theorem join_of_not_headerPending_clause :
    ¬ HeaderPending "s:a:=:x".toList
      ∧ readRaw .unrestricted (join "s:a:=:x" .pipe "s:b:=:y")
        = .ok [⟨⟨.string, "a", .equal⟩, .one "x"⟩, ⟨⟨.string, "b", .equal⟩, .one "y"⟩]
      ∧ read .unrestricted (join "s:a:=:x" .pipe "s:b:=:[y") = .error (.groupLeftOpen 14)
      ∧ ∃ first second both, Filter.ofText regularExpressions .unrestricted "s:a:=:x" = .ok first
        ∧ Filter.ofText regularExpressions .unrestricted "s:b:=:y" = .ok second
        ∧ Filter.ofText regularExpressions .unrestricted (join "s:a:=:x" .pipe "s:b:=:y")
          = .ok both
        ∧ ∀ {α : Type} (access : α → String → FieldValue) (item : α),
          both.accepts access item
            = (first.accepts access item && second.accepts access item) := by
  have settled : ¬ HeaderPending "s:a:=:x".toList := by
    change ¬ HeaderPending ("s:a:=:".toList ++ ['x'])
    rw [headerPending_concat]
    simp
  have joined := join_of_not_headerPending regularExpressions .unrestricted "s:a:=:x" .pipe
  refine ⟨settled, (joined "s:b:=:y" settled).1 _ rfl, (joined "s:b:=:[y" settled).2.1 _ rfl, ?_⟩
  obtain ⟨both, compiled, conjunction⟩ := (joined "s:b:=:y" settled).2.2 _ _ rfl rfl
  exact ⟨_, _, both, rfl, rfl, compiled, conjunction⟩

end QueryText

end RecordFilter
