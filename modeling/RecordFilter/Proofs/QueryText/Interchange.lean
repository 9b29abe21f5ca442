import RecordFilter.Filter
import RecordFilter.Pattern.Engine
import RecordFilter.Proofs.QueryText.Parts
import RecordFilter.Proofs.QueryText.Place
import RecordFilter.Proofs.QueryText.Reader

/-! # Interchangeable characters

Two opening brackets mean the same everywhere, and so do two separators outside a group. Texts that
differ in nothing else are read in lockstep, through the same states.

* `InsideGroup`: reading the characters leaves a group open.
* `Interchangeable`: texts of one length with exchangeable characters where they differ.
* `Transition.exchange`, `Reached.exchange`: one step and a whole run with exchanged characters.
* `exchange_of_interchangeable`: what is found in the texts, and the filters they describe. -/

namespace RecordFilter

namespace QueryText

variable {whitelist : Whitelist} {state : State} {step : Step} {position : Nat} {char other : Char}
  {chars left right : List Char} {clauses : List RawClause}

/-! ## Texts that differ in exchangeable characters -/

/-- Reading the characters leaves a group open. -/
def InsideGroup (whitelist : Whitelist) (chars : List Char) : Prop :=
  ∃ clauses state position, Reached whitelist chars clauses state
    ∧ state.scope.opened? = some position

/-- The characters can be exchanged after the others: no backslash escapes them, and they are two
opening brackets or, outside a group, two separators. -/
def Exchangeable (whitelist : Whitelist) (before : List Char) (char other : Char) : Prop :=
  ¬ EndsEscaped before
    ∧ (char ∈ openings ∧ other ∈ openings
      ∨ char ∈ separators ∧ other ∈ separators ∧ ¬ InsideGroup whitelist before)

/-- The texts have one length, and where they differ their characters can be exchanged. -/
structure Interchangeable (whitelist : Whitelist) (left right : List Char) : Prop where
  /-- The texts have one length. -/
  length_eq : left.length = right.length
  /-- Different characters can be exchanged. -/
  exchangeable : ∀ position char other, left[position]? = some char →
    right[position]? = some other → char ≠ other →
      Exchangeable whitelist (left.take position) char other

/-- While nothing is refused, reading is inside a group exactly if an opening bracket stands before
without a closing bracket after it. -/
theorem Reached.insideGroup_iff (reached : Reached whitelist chars clauses state) :
    InsideGroup whitelist chars ↔ ∃ position, OpenAt chars position := by
  constructor
  · rintro ⟨seen, last, position, again, opened⟩
    exact ⟨position, again.opened?_eq_some_iff.1 opened⟩
  · rintro ⟨position, isOpen⟩
    exact ⟨clauses, state, position, reached, reached.opened?_eq_some_iff.2 isOpen⟩

/-- A text is interchangeable with itself. -/
theorem Interchangeable.refl (whitelist : Whitelist) (chars : List Char) :
    Interchangeable whitelist chars chars := by
  refine ⟨rfl, fun position char other here there different => ?_⟩
  exact absurd (Option.some_inj.1 (here.symm.trans there)) different

/-- The beginnings of interchangeable texts are interchangeable. -/
theorem Interchangeable.take (same : Interchangeable whitelist left right) (size : Nat) :
    Interchangeable whitelist (left.take size) (right.take size) := by
  refine ⟨by simp [same.length_eq], fun position char other here there different => ?_⟩
  have bound := (List.getElem?_eq_some_iff.1 here).1
  have inside : position < size := Nat.lt_of_lt_of_le bound (List.length_take_le size left)
  rw [List.getElem?_take_of_lt inside] at here there
  rw [List.take_take, Nat.min_eq_left (Nat.le_of_lt inside)]
  exact same.exchangeable position char other here there different

/-- Texts are interchangeable if they are so up to their last characters, and these are equal or can
be exchanged. -/
theorem interchangeable_concat :
    Interchangeable whitelist (left ++ [char]) (right ++ [other])
      ↔ Interchangeable whitelist left right
        ∧ (char = other ∨ Exchangeable whitelist left char other) := by
  constructor
  · intro same
    have length_eq : left.length = right.length := by simpa using same.length_eq
    constructor
    · have front := same.take left.length
      rwa [List.take_left, length_eq, List.take_left] at front
    · by_cases equal : char = other
      · exact .inl equal
      · have last := same.exchangeable left.length char other (by simp) (by simp [length_eq]) equal
        rw [List.take_left] at last
        exact .inr last
  · rintro ⟨same, last⟩
    refine ⟨by simp [same.length_eq], fun position first second here there different => ?_⟩
    rcases Nat.lt_or_ge position left.length with inside | outside
    · rw [List.getElem?_append_left inside] at here
      rw [List.getElem?_append_left (same.length_eq ▸ inside)] at there
      rw [List.take_append_of_le_length (Nat.le_of_lt inside)]
      exact same.exchangeable position first second here there different
    · -- the only other place is the last one
      have bound := (List.getElem?_eq_some_iff.1 here).1
      rw [List.length_append, List.length_singleton] at bound
      obtain rfl : position = left.length := by omega
      rw [List.getElem?_concat_length, Option.some_inj] at here
      rw [same.length_eq, List.getElem?_concat_length, Option.some_inj] at there
      subst here there
      rw [List.take_left]
      exact last.resolve_left different

/-- The same characters can be added to interchangeable texts. -/
theorem Interchangeable.append (same : Interchangeable whitelist left right) (more : List Char) :
    Interchangeable whitelist (left ++ more) (right ++ more) := by
  induction more generalizing left right with
  | nil => simpa using same
  | cons char more induction =>
      have longer := interchangeable_concat.2 ⟨same, .inl (rfl : char = char)⟩
      simpa using induction longer

/-- A text that is interchangeable with one that has a last character has one as well. -/
theorem Interchangeable.exists_concat (same : Interchangeable whitelist (left ++ [char]) right) :
    ∃ front other, right = front ++ [other] ∧ Interchangeable whitelist left front
      ∧ (char = other ∨ Exchangeable whitelist left char other) := by
  rcases List.eq_nil_or_concat right with rfl | ⟨front, other, rfl⟩
  · exact absurd same.length_eq (by simp)
  · rw [List.concat_eq_append] at same ⊢
    exact ⟨front, other, rfl, interchangeable_concat.1 same⟩

/-! ## Lockstep -/

/-- Two opening brackets do the same everywhere, and two separators outside a group. -/
theorem State.step_exchange (whitelist : Whitelist) (position : Nat)
    (unescaped : state.escaped = false)
    (alike : char ∈ openings ∧ other ∈ openings
      ∨ char ∈ separators ∧ other ∈ separators ∧ state.scope.opened? = none) :
    state.step whitelist position char = state.step whitelist position other := by
  obtain ⟨scope, escaped⟩ := state
  obtain rfl : escaped = false := unescaped
  rcases alike with ⟨first, second⟩ | ⟨first, second, outside⟩
  · -- the role of a bracket is all that a step looks at
    have opens := Symbol.ofChar_eq_opening_iff.2 (mem_openings.1 first)
    have alsoOpens := Symbol.ofChar_eq_opening_iff.2 (mem_openings.1 second)
    cases scope <;> simp [State.step, stepOutside, stepInGroup, opens, alsoOpens]
  · obtain ⟨delimiter, rfl⟩ := mem_separators.1 first
    obtain ⟨separator, rfl⟩ := mem_separators.1 second
    cases scope with
    | outside progress text => simp [State.step, stepOutside]
    | group header opened body => cases outside

/-- A character after a run does what any character does that it can be exchanged with. -/
theorem Transition.exchange (reached : Reached whitelist left clauses state)
    (rule : Transition whitelist left.length state char step)
    (alike : char = other ∨ Exchangeable whitelist left char other) :
    Transition whitelist left.length state other step := by
  rcases alike with rfl | ⟨free, exchange⟩
  · exact rule
  · have unescaped : state.escaped = false := Bool.eq_false_iff.2 (mt reached.escaped_iff.1 free)
    have closed (outside : ¬ InsideGroup whitelist left) : state.scope.opened? = none := by
      cases opened : state.scope.opened? with
      | none => rfl
      | some position => exact absurd ⟨clauses, state, position, reached, opened⟩ outside
    rw [transition_iff] at rule ⊢
    rw [← rule, State.step_exchange whitelist left.length unescaped]
    exact exchange.imp And.symm fun ⟨first, second, outside⟩ => ⟨second, first, closed outside⟩

/-- Interchangeable texts are read in lockstep: the same clauses are found and the same state is
left. -/
theorem Reached.exchange (reached : Reached whitelist left clauses state)
    (same : Interchangeable whitelist left right) : Reached whitelist right clauses state := by
  induction reached generalizing right with
  | start =>
      obtain rfl := List.length_eq_zero_iff.1 same.length_eq.symm
      exact .start
  | read before rule induction =>
      obtain ⟨front, other, rfl, alike, last⟩ := same.exists_concat
      have step := rule.exchange before last
      rw [alike.length_eq] at step
      exact (induction alike).read step
  | complete before rule induction =>
      obtain ⟨front, other, rfl, alike, last⟩ := same.exists_concat
      have step := rule.exchange before last
      rw [alike.length_eq] at step
      exact (induction alike).complete step

/-! ## What is found -/

/-- Interchangeable texts have the same clauses and the same fault, if there is one. -/
theorem items_exchange {left right : String}
    (same : Interchangeable whitelist left.toList right.toList) :
    items whitelist left = items whitelist right := by
  rcases reached_or_refused whitelist left.toList with ⟨clauses, state, reached⟩
    | ⟨front, char, back, clauses, state, fault, split, reached, refused⟩
  · rw [items, items, reached.itemsFrom_eq, (reached.exchange same).itemsFrom_eq, same.length_eq]
  · -- up to the refused character the texts are interchangeable as well
    have begins : left.toList.take (front.length + 1) = front ++ [char] := by
      rw [split, List.take_length_add_append]
      rfl
    have alike := same.take (front.length + 1)
    rw [begins] at alike
    obtain ⟨front', other, ends, alike, last⟩ := alike.exists_concat
    have otherRefused := refused.exchange reached last
    rw [alike.length_eq] at otherRefused ends
    rw [reached.items_eq_of_take refused begins,
      (reached.exchange alike).items_eq_of_take otherRefused ends]

/-- A completed clause has a delimiter exactly if a closing bracket completes it, which chooses the
delimiter. -/
theorem Transition.delimiter?_eq_some_iff {clause : RawClause} {delimiter : Delimiter}
    (rule : Transition whitelist position state char (.complete clause)) :
    clause.value.delimiter? = some delimiter ↔ char = delimiter.closing := by
  cases rule with
  | value separator nonempty => simp [Argument.delimiter?, closing_ne_separator]
  | closeGroup closed =>
      constructor
      · rintro ⟨⟩
        rfl
      · intro same
        simpa [Argument.delimiter?] using congrArg Delimiter.ofClosing? same

/-- **Opening brackets are interchangeable, and so are separators outside groups.** Texts of one
length that differ only in them, where no backslash escapes them, give the same clauses and the same
fault, read at once or one by one, the same typed clauses, and the same filter. The delimiter of a
group is chosen by its closing bracket alone. -/
theorem exchange_of_interchangeable (engine : PatternEngine) (whitelist : Whitelist) :
    (∀ left right : String, Interchangeable whitelist left.toList right.toList →
      items whitelist left = items whitelist right
        ∧ (∀ count, Reader.calls count (.ofText whitelist left)
          = Reader.calls count (.ofText whitelist right))
        ∧ read whitelist left = read whitelist right
        ∧ Filter.ofText engine whitelist left = Filter.ofText engine whitelist right)
      ∧ ∀ (position : Nat) (state : State) (char : Char) (clause : RawClause)
          (delimiter : Delimiter),
        state.step whitelist position char = .complete clause →
          (clause.value.delimiter? = some delimiter ↔ char = delimiter.closing) := by
  constructor
  · intro left right same
    have found := items_exchange same
    have sameRead : read whitelist left = read whitelist right := by rw [read, read, found]
    refine ⟨found, fun count => ?_, sameRead, ?_⟩
    · rw [items, items] at found
      rw [Reader.ofText, Reader.ofText, Reader.calls_eq, Reader.calls_eq, found]
    · rw [Filter.ofText, Filter.ofText, sameRead]
  · intro position state char clause delimiter completes
    exact (transition_iff.2 completes).delimiter?_eq_some_iff

/-- A comma for a bar between clauses, and a square opening bracket for a round one. -/
theorem exchange_of_interchangeable_clauses :
    Interchangeable .unrestricted "s:a:=:x,s:b:=:[y|z)".toList "s:a:=:x|s:b:=:(y|z)".toList
      ∧ items .unrestricted "s:a:=:x,s:b:=:[y|z)" = items .unrestricted "s:a:=:x|s:b:=:(y|z)"
      ∧ Filter.ofText regularExpressions .unrestricted "s:a:=:x,s:b:=:[y|z)"
        = Filter.ofText regularExpressions .unrestricted "s:a:=:x|s:b:=:(y|z)"
      ∧ (Argument.group ["y|z"] .comma).delimiter? = some .comma := by
  have exchange := exchange_of_interchangeable regularExpressions .unrestricted
  -- the first clause has no bracket, so the separator after it is outside a group
  have outside : ¬ InsideGroup .unrestricted "s:a:=:x".toList := by
    rintro ⟨clauses, state, position, reached, opened⟩
    obtain ⟨⟨char, opening, found, -⟩, -⟩ := reached.opened?_eq_some_iff.1 opened
    have none : ∀ char ∈ ['s', ':', 'a', ':', '=', ':', 'x'], char ∉ openings := by simp [openings]
    exact none char (List.mem_of_getElem? found) opening
  have separator : Exchangeable .unrestricted "s:a:=:x".toList ',' '|' :=
    ⟨by change ¬ _ % 2 = 1; decide, .inr ⟨by decide, by decide, outside⟩⟩
  have bracket : Exchangeable .unrestricted "s:a:=:x,s:b:=:".toList '[' '(' :=
    ⟨by change ¬ _ % 2 = 1; decide, .inl ⟨by decide, by decide⟩⟩
  have clauses := (interchangeable_concat.2
    ⟨.refl .unrestricted "s:a:=:x".toList, .inr separator⟩).append "s:b:=:".toList
  have same := (interchangeable_concat.2 ⟨clauses, .inr bracket⟩).append "y|z)".toList
  obtain ⟨found, -, -, filters⟩ := exchange.1 "s:a:=:x,s:b:=:[y|z)" "s:a:=:x|s:b:=:(y|z)" same
  -- the bar stays in the value where the group is closed by a square bracket
  let body : Array GroupUnit := #[.literal 'y', .separator .pipe, .literal 'z']
  have closed := exchange.2 15 ⟨.group ⟨.string, "b", .equal⟩ 10 body, false⟩ ']'
    ⟨⟨.string, "b", .equal⟩, .group ["y|z"] .comma⟩ .comma rfl
  exact ⟨same, found, filters, closed.2 rfl⟩

end QueryText

end RecordFilter
