import RecordFilter.Proofs.QueryText.Grammar
import RecordFilter.Proofs.QueryText.Run

/-! # Reading recognizes the grammar

A query text is accepted exactly if the grammar derives it, and the clauses found are those of the
derivation.

* `Reached.query`: what the grammar derives is read, rule by rule of the grammar.
* `Pending`: the text of the unfinished clause, for every state that reading can be in. A step
  lengthens it or finishes an item (`Pending.reading`, `Pending.complete`), and at the end it is a
  tail (`Pending.finish`), so every run is a derivation (`Reached.exists_pending`).
* `readRaw_eq_ok_iff_query`: both directions together. -/

namespace RecordFilter.QueryText

variable {whitelist : Whitelist} {position size : Nat} {state next : State} {scope : Scope}
  {progress : Progress} {header : Header} {opened : Nat} {char : Char} {text : String}
  {chars before barred value : List Char}
  {clause : RawClause} {clause? : Option RawClause} {clauses more : List RawClause}

/-! ## What the grammar derives is read -/

/-- Literal characters keep the kind of the scope. -/
@[simp] theorem Scope.barred_push (char : Char) (scope : Scope) :
    (scope.push char).barred = scope.barred := by
  cases scope <;> rfl

/-- Literal characters outside a group make the text longer. -/
theorem Scope.foldl_push_outside (progress : Progress) (text : String) (chars : List Char) :
    chars.foldl (fun scope char => scope.push char) (outside progress text)
      = outside progress (text ++ String.ofList chars) := by
  induction chars generalizing text with
  | nil => simp
  | cons char chars induction =>
      rw [List.foldl_cons, push, induction]
      congr 1
      rw [← String.toList_inj]
      simp

/-- Literal characters inside a group are units of it. -/
theorem Scope.foldl_push_group (header : Header) (opened : Nat) (body : List GroupUnit)
    (chars : List Char) :
    chars.foldl (fun scope char => scope.push char) (group header opened body.toArray)
      = group header opened (body ++ chars.map GroupUnit.literal).toArray := by
  induction chars generalizing body with
  | nil => simp
  | cons char chars induction =>
      rw [List.foldl_cons, push, List.push_toArray, induction, List.map_cons, List.append_assoc,
        List.singleton_append]

/-- A literal run is read character by character. -/
theorem Reached.literal (reached : Reached whitelist before clauses ⟨scope, false⟩)
    (bars : scope.barred = barred) (run : Literal barred chars value) :
    Reached whitelist (before ++ chars) clauses
      ⟨value.foldl (fun scope char => scope.push char) scope, false⟩ := by
  -- what is barred stays the same while characters are pushed
  induction run generalizing before scope with
  | nil => rwa [List.append_nil]
  | plain ordinary rest induction =>
      have pushed := reached.read (.plain ordinary)
      simpa using induction pushed (by rw [Scope.barred_push, bars])
  | escaped free rest induction =>
      have escape := reached.read .escape
      have pushed := escape.read (.literal (bars ▸ free))
      simpa using induction pushed (by rw [Scope.barred_push, bars])

/-- A literal run outside a group is the text that is left. -/
theorem Reached.plainRun
    (reached : Reached whitelist before clauses ⟨.outside progress "", false⟩)
    (run : PlainRun chars text.toList) :
    Reached whitelist (before ++ chars) clauses ⟨.outside progress text, false⟩ := by
  simpa [Scope.foldl_push_outside] using reached.literal rfl run

/-- Separators before any text are skipped. -/
theorem Reached.separators
    (reached : Reached whitelist before clauses ⟨.outside progress "", false⟩)
    (gap : Separators chars) :
    Reached whitelist (before ++ chars) clauses ⟨.outside progress "", false⟩ := by
  induction chars generalizing before with
  | nil => rwa [List.append_nil]
  | cons char chars induction =>
      obtain ⟨delimiter, rfl⟩ := gap.head
      have skipped := reached.read (.skip delimiter)
      simpa using induction skipped gap.tail

/-- A colon settles a header part, and separators after it are skipped. -/
theorem Reached.colon {next : Progress} {gap : List Char}
    (reached : Reached whitelist before clauses ⟨.outside progress text, false⟩)
    (settled : progress.settle whitelist before.length text = .ok next)
    (separators : Separators gap) :
    Reached whitelist (before ++ ':' :: gap) clauses ⟨.outside next "", false⟩ := by
  have colon := reached.read (.settle settled)
  simpa using colon.separators separators

/-- A heading settles its parts. -/
theorem Reached.heading (reached : Reached whitelist before clauses .initial)
    (heading : Heading whitelist chars progress) :
    Reached whitelist (before ++ chars) clauses ⟨.outside progress "", false⟩ := by
  induction heading with
  | start => rwa [List.append_nil]
  | @typed _ _ type token separators =>
      have known := FieldType.ofToken?_eq_some_iff.2 (rfl : type.token = type.token)
      rw [← List.append_assoc]
      refine (reached.plainRun token).colon ?_ separators
      simp [Progress.settle, known]
  | named heading name nonempty allowed separators induction =>
      rw [← List.append_assoc, ← List.append_assoc]
      refine (induction.plainRun name).colon ?_ separators
      simp [Progress.settle, nonempty, allowed]
  | @headed _ _ _ _ _ operator heading token separators induction =>
      have known := Operator.ofToken?_eq_some_iff.2 (rfl : operator.token = operator.token)
      rw [← List.append_assoc, ← List.append_assoc]
      refine (induction.plainRun token).colon ?_ separators
      simp [Progress.settle, known]

/-- The inside of a group is read into its units. -/
theorem Reached.segments {body : List GroupUnit} {segments : List (Delimiter × List Char)}
    (reached : Reached whitelist before clauses ⟨.group header opened body.toArray, false⟩)
    (inside : Segments chars value segments) :
    Reached whitelist (before ++ chars) clauses
      ⟨.group header opened (body ++ units value segments).toArray, false⟩ := by
  induction inside generalizing before body with
  | last run => simpa [Scope.foldl_push_group, units_nil] using reached.literal rfl run
  | @more chars text others next segments separator run rest induction =>
      have literals := reached.literal rfl run
      rw [Scope.foldl_push_group] at literals
      have separated := literals.read (.separate separator)
      rw [List.push_toArray] at separated
      simpa [units_cons] using induction separated

/-- An item adds its clause and leaves nothing else behind. -/
theorem Reached.item (reached : Reached whitelist before clauses .initial)
    (item : Item whitelist chars clause?) :
    Reached whitelist (before ++ chars) (clauses ++ clause?.toList) .initial := by
  cases item with
  | @stray _ text run separator =>
      -- a separator is skipped where there is no text to drop
      have stray := reached.plainRun run
      by_cases empty : text = ""
      · subst empty
        simpa [State.initial] using stray.read (.skip separator)
      · simpa using stray.read (.dropStray separator empty)
  | abandoned heading run nonempty separator =>
      have typed := (reached.heading heading).plainRun run
      simpa using typed.read (.dropTyped separator nonempty)
  | scalar heading run nonempty separator =>
      have value := (reached.heading heading).plainRun run
      simpa using value.complete (.value separator nonempty)
  | group heading run opening inside delimiter =>
      have begun := ((reached.heading heading).plainRun run).read (.openGroup opening)
      simpa [split_units] using (begun.segments inside).complete (.closeGroup delimiter)

/-- A tail is read into a state that the end turns into its clause. -/
theorem Reached.tail (reached : Reached whitelist before clauses .initial)
    (tail : Tail whitelist chars clause?) (size : Nat) :
    ∃ state, Reached whitelist (before ++ chars) clauses state
      ∧ state.finish size = clause?.map .ok := by
  cases tail with
  | stray run => exact ⟨_, reached.plainRun run, by simp [State.finish, Progress.close]⟩
  | abandoned heading run =>
      rw [← List.append_assoc]
      exact ⟨_, (reached.heading heading).plainRun run, by simp [State.finish, Progress.close]⟩
  | named heading => exact ⟨_, reached.heading heading, rfl⟩
  | headed heading => exact ⟨_, reached.heading heading, rfl⟩
  | scalar heading run nonempty =>
      rw [← List.append_assoc]
      exact ⟨_, (reached.heading heading).plainRun run,
        by simp [State.finish, Progress.close, nonempty]⟩

/-- A query text is read into its clauses. The last one may come from the end of the text. -/
theorem Reached.query (reached : Reached whitelist before clauses .initial)
    (query : Query whitelist chars more) (size : Nat) :
    ∃ seen state, ∃ last? : Option RawClause, Reached whitelist (before ++ chars) seen state
      ∧ state.finish size = last?.map .ok ∧ clauses ++ more = seen ++ last?.toList := by
  induction query generalizing before clauses with
  | tail last =>
      obtain ⟨state, whole, ending⟩ := reached.tail last size
      exact ⟨_, state, _, whole, ending, rfl⟩
  | item first others induction =>
      obtain ⟨seen, state, last?, whole, ending, same⟩ := induction (reached.item first)
      refine ⟨seen, state, last?, ?_, ending, ?_⟩
      · rwa [List.append_assoc] at whole
      · rwa [List.append_assoc] at same

/-- What the grammar derives is accepted with the clauses of the derivation. -/
theorem Query.itemsFrom_eq (query : Query whitelist chars clauses) :
    itemsFrom whitelist 0 .initial chars = clauses.map .ok :=
  itemsFrom_eq_map_ok_iff.2 (Reached.start.query query chars.length)

/-! ## What is read is derived -/

/-- The text of the unfinished clause in a state: a heading with the text after it, which may be the
inside of an open group and may end with an active backslash. -/
inductive Pending (whitelist : Whitelist) : List Char → State → Prop
  /-- Outside a group. -/
  | outside {front chars : List Char} {progress : Progress} {text : String}
      (heading : Heading whitelist front progress) (run : PlainRun chars text.toList) :
      Pending whitelist (front ++ chars) ⟨.outside progress text, false⟩
  /-- Inside a group. -/
  | group {front chars inner value : List Char} {header : Header} {lost : String} {bracket : Char}
      {opened : Nat} {body : Array GroupUnit} {segments : List (Delimiter × List Char)}
      (heading : Heading whitelist front (.headed header)) (run : PlainRun chars lost.toList)
      (opening : bracket = '[' ∨ bracket = '(') (inside : Segments inner value segments)
      (same : body.toList = units value segments) :
      Pending whitelist (front ++ chars ++ bracket :: inner) ⟨.group header opened body, false⟩
  /-- After a backslash. -/
  | escape {chars : List Char} {scope : Scope} (before : Pending whitelist chars ⟨scope, false⟩) :
      Pending whitelist (chars ++ ['\\']) ⟨scope, true⟩

/-- Nothing is pending at the start of a clause. -/
theorem Pending.initial : Pending whitelist [] .initial := .outside .start .nil

/-- A literal character, escaped or not, makes the pending text longer. -/
theorem Pending.push (pending : Pending whitelist chars ⟨scope, false⟩)
    (run : Literal scope.barred value [char]) :
    Pending whitelist (chars ++ value) ⟨scope.push char, false⟩ := by
  cases pending with
  | outside heading before =>
      rw [List.append_assoc]
      refine .outside heading ?_
      rw [String.toList_push]
      exact before.append run
  | group heading dropped opening inside same =>
      obtain ⟨text, segments, longer, units_eq⟩ := inside.append_literal run
      rw [List.append_assoc, List.cons_append]
      refine .group heading dropped opening longer ?_
      rw [Array.toList_push, same, units_eq, List.map_singleton]

/-- A colon that settles a header part makes the heading longer. -/
theorem Heading.settle {front : List Char} {next : Progress}
    (heading : Heading whitelist front progress) (run : PlainRun chars text.toList)
    (settled : progress.settle whitelist position text = .ok next) :
    Heading whitelist (front ++ chars ++ [':']) next := by
  cases progress with
  | start =>
      cases heading
      simp only [Progress.settle] at settled
      split at settled
      · next type known =>
          cases settled
          obtain rfl := FieldType.ofToken?_eq_some_iff.1 known
          exact .typed run separators_nil
      · cases settled
  | typed type =>
      simp only [Progress.settle] at settled
      split at settled
      · cases settled
      · next nonempty =>
          split at settled
          · next allowed =>
              cases settled
              exact .named heading run nonempty allowed separators_nil
          · cases settled
  | named type field =>
      simp only [Progress.settle] at settled
      split at settled
      · next operator known =>
          cases settled
          obtain rfl := Operator.ofToken?_eq_some_iff.1 known
          exact .headed heading run separators_nil
      · cases settled
  | headed header => cases settled

/-- Only the empty text is a heading in which nothing is settled. -/
theorem Heading.eq_nil_of_start (heading : Heading whitelist chars .start) : chars = [] := by
  cases heading
  rfl

/-- A step that goes on makes the pending text longer or finishes an item without a clause. -/
theorem Pending.reading (pending : Pending whitelist chars state)
    (rule : Transition whitelist position state char (.reading next)) :
    Pending whitelist (chars ++ [char]) next
      ∨ next = .initial ∧ Item whitelist (chars ++ [char]) none := by
  cases rule with
  | escape => exact .inl (.escape pending)
  | literal free =>
      cases pending with
      | escape before =>
          rw [List.append_assoc]
          exact .inl (before.push (.pair free))
  | plain ordinary => exact .inl (pending.push (.singleton ordinary))
  | settle settled =>
      cases pending with
      | outside heading run =>
          refine .inl ?_
          simpa using Pending.outside (heading.settle run settled) .nil
  | @skip progress delimiter =>
      cases pending with
      | outside heading run =>
          obtain rfl := run.eq_nil
          rw [List.append_nil]
          -- at the start of a clause the separator is an item, after a colon a part of the heading
          by_cases begun : progress = .start
          · subst begun
            obtain rfl := heading.eq_nil_of_start
            exact .inr ⟨rfl, .stray run delimiter⟩
          · refine .inl ?_
            simpa using Pending.outside (heading.skip begun delimiter) .nil
  | dropStray delimiter nonempty =>
      cases pending with
      | outside heading run =>
          obtain rfl := heading.eq_nil_of_start
          exact .inr ⟨rfl, .stray run delimiter⟩
  | dropTyped delimiter nonempty =>
      cases pending with
      | outside heading run => exact .inr ⟨rfl, .abandoned heading run nonempty delimiter⟩
  | openGroup bracket =>
      cases pending with
      | outside heading run =>
          -- the text before the bracket is the one that is dropped
          exact .inl (.group heading run bracket (.last .nil) rfl)
  | separate delimiter =>
      cases pending with
      | group heading run opening inside same =>
          obtain ⟨segments, longer, units_eq⟩ := inside.append_separator delimiter
          refine .inl ?_
          rw [List.append_assoc, List.cons_append]
          refine .group heading run opening longer ?_
          rw [Array.toList_push, same, units_eq]

/-- A step that completes a clause finishes an item with that clause. -/
theorem Pending.complete (pending : Pending whitelist chars state)
    (rule : Transition whitelist position state char (.complete clause)) :
    Item whitelist (chars ++ [char]) (some clause) := by
  cases rule with
  | value delimiter nonempty =>
      cases pending with
      | outside heading run => exact .scalar heading run nonempty delimiter
  | closeGroup delimiter =>
      cases pending with
      | group heading run opening inside same =>
          rw [same, split_units]
          exact .group heading run opening inside delimiter

/-- At the end without a fault the pending text is a tail. -/
theorem Pending.finish (pending : Pending whitelist chars state)
    (ending : state.finish size = clause?.map .ok) : Tail whitelist chars clause? := by
  cases clause? with
  | none =>
      obtain ⟨progress, text, rfl, ends⟩ := State.finish_eq_none_iff.1 ending
      cases pending with
      | outside heading run =>
          cases progress with
          | start =>
              obtain rfl := heading.eq_nil_of_start
              exact .stray run
          -- from here on text would be a value or a fault, so there is none
          | typed type => exact .abandoned heading run
          | named type field =>
              obtain rfl : text = "" := by simpa using ends
              obtain rfl := run.eq_nil
              simpa using Tail.named heading
          | headed header =>
              obtain rfl : text = "" := by simpa using ends
              obtain rfl := run.eq_nil
              simpa using Tail.headed heading
  | some clause =>
      obtain ⟨header, text, rfl, nonempty, rfl⟩ := State.finish_eq_ok_iff.1 ending
      cases pending with
      | outside heading run => exact .scalar heading run nonempty

/-- A run is a derivation up to the text of the unfinished clause: whatever completes that text
completes the whole. -/
theorem Reached.exists_pending (reached : Reached whitelist chars clauses state) :
    ∃ pending, Pending whitelist pending state
      ∧ ∀ rest more, Query whitelist (pending ++ rest) more
        → Query whitelist (chars ++ rest) (clauses ++ more) := by
  induction reached with
  | start => exact ⟨[], .initial, fun rest more query => query⟩
  | @read chars clauses state next char before rule induction =>
      obtain ⟨pending, unfinished, derives⟩ := induction
      rcases unfinished.reading rule with longer | ⟨rfl, item⟩
      -- the clause goes on
      · refine ⟨pending ++ [char], longer, fun rest more query => ?_⟩
        rw [List.append_assoc] at query ⊢
        exact derives _ _ query
      -- an item is finished and stands before the rest
      · refine ⟨[], .initial, fun rest more query => ?_⟩
        rw [List.append_assoc]
        refine derives _ _ ?_
        rw [← List.append_assoc]
        exact .item item query
  | @complete chars clauses state char clause before rule induction =>
      obtain ⟨pending, unfinished, derives⟩ := induction
      refine ⟨[], .initial, fun rest more query => ?_⟩
      rw [List.append_assoc, List.append_assoc]
      refine derives _ _ ?_
      rw [← List.append_assoc]
      exact .item (unfinished.complete rule) query

/-- **Reading recognizes the grammar.** A text is accepted with some clauses exactly if the grammar
derives the text with these clauses. -/
theorem readRaw_eq_ok_iff_query (whitelist : Whitelist) (text : String)
    (clauses : List RawClause) :
    readRaw whitelist text = .ok clauses ↔ Query whitelist text.toList clauses := by
  rw [readRaw_eq_ok_iff]
  constructor
  · intro accepted
    obtain ⟨seen, state, last?, reached, ending, rfl⟩ := itemsFrom_eq_map_ok_iff.1 accepted
    obtain ⟨pending, unfinished, derives⟩ := reached.exists_pending
    -- nothing is left to read, so the unfinished clause is the tail
    have tail : Query whitelist (pending ++ []) last?.toList := by
      rw [List.append_nil]
      exact .tail (unfinished.finish ending)
    simpa using derives [] last?.toList tail
  · exact Query.itemsFrom_eq

end RecordFilter.QueryText
