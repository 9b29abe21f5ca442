import RecordFilter.Proofs.QueryText.FaultPosition

/-! # Separators at the end of a text

The end of a text does what a separator would do there, so separators at the end of a text add
nothing to it, unless a backslash escapes the first of them.

* `itemsFrom_separator`: in every state one last separator finds what the end of the text finds.
* `itemsFrom_append_separators`: a whole run of them.
* `Locates.of_stop?`: the fault that a reader stops with locates its place.
* `trailing_separators_add_nothing`: all ways to read a text with separators at its end. -/

namespace RecordFilter.QueryText

variable {whitelist : Whitelist} {state : State} {chars gap : List Char} {text : String}
  {fault : Fault}

/-! ## One separator -/

/-- A last separator finds what the end of the text finds in its place. -/
theorem itemsFrom_separator (whitelist : Whitelist) (position : Nat) (delimiter : Delimiter)
    (unescaped : state.escaped = false) :
    itemsFrom whitelist position state [delimiter.char] = (state.finish position).toList := by
  obtain ⟨scope, escaped⟩ := state
  obtain rfl : escaped = false := unescaped
  cases scope with
  | group header opened body =>
      -- the group is left open, with one more unit in it
      rw [itemsFrom_reading (.separate delimiter)]
      rfl
  | outside progress text =>
      by_cases empty : text = ""
      · subst empty
        rw [itemsFrom_reading (.skip delimiter)]
        rfl
      · cases progress with
        | start =>
            rw [itemsFrom_reading (.dropStray delimiter empty)]
            simp [itemsFrom, State.finish, State.initial, Progress.close]
        | typed type =>
            rw [itemsFrom_reading (.dropTyped delimiter empty)]
            simp [itemsFrom, State.finish, State.initial, Progress.close]
        | named type field =>
            rw [itemsFrom_refused (.incomplete delimiter empty)]
            simp [State.finish, Progress.close, empty]
        | headed header =>
            rw [itemsFrom_complete (.value delimiter empty)]
            simp [itemsFrom, State.finish, State.initial, Progress.close, empty]

/-- One separator at the end of a text adds nothing, unless it is escaped. -/
theorem itemsFrom_concat_separator (whitelist : Whitelist) (delimiter : Delimiter)
    (unescaped : ¬ EndsEscaped chars) :
    itemsFrom whitelist 0 .initial (chars ++ [delimiter.char])
      = itemsFrom whitelist 0 .initial chars := by
  rcases reached_or_refused whitelist chars with ⟨clauses, state, reached⟩
    | ⟨front, char, back, clauses, state, fault, rfl, reached, refused⟩
  · have mark : state.escaped = false := Bool.eq_false_iff.2 (mt reached.escaped_iff.1 unescaped)
    rw [reached.itemsFrom_append, itemsFrom_separator whitelist _ delimiter mark,
      reached.itemsFrom_eq]
  · -- reading stops at the refused character and never comes to the separator
    rw [List.append_assoc, List.cons_append, reached.itemsFrom_eq_of_refused refused,
      reached.itemsFrom_eq_of_refused refused]

/-! ## Runs of separators -/

/-- Separators at the end of a text add nothing, unless the first of them is escaped. -/
theorem itemsFrom_append_separators (whitelist : Whitelist) (unescaped : ¬ EndsEscaped chars)
    (separators : Separators gap) :
    itemsFrom whitelist 0 .initial (chars ++ gap) = itemsFrom whitelist 0 .initial chars := by
  induction gap generalizing chars with
  | nil => rw [List.append_nil]
  | cons char gap induction =>
      obtain ⟨delimiter, rfl⟩ := separators.head
      -- a separator is no backslash, so the next one is not escaped either
      have again : ¬ EndsEscaped (chars ++ [delimiter.char]) := fun escaped =>
        separator_ne_backslash delimiter ((endsEscaped_concat _ _).1 escaped).1
      rw [List.append_cons, induction again separators.tail,
        itemsFrom_concat_separator whitelist delimiter unescaped]

/-- The fault that a reader stops with locates its place in the text. -/
theorem Locates.of_stop? (stops : stop? whitelist text = some fault) :
    Locates whitelist text.toList fault := by
  rcases stop?_cases stops with ⟨clauses, state, reached, ending⟩
    | ⟨front, char, back, clauses, state, split, reached, refused⟩
  · exact (reached.locates_of_finish ending).1
  · rw [split]
    exact (refused.locates reached back).1

/-- **The end of a text is a separator.** Separators after a text whose end escapes nothing change
nothing: the clauses and the fault are the same, read at once or one by one, and so are the clauses
of the text, written or typed. The fault is about the text without the separators: a group that is
left open is named by its opening bracket, and a header part that is still missing at the end by the
length of the text. -/
theorem trailing_separators_add_nothing (whitelist : Whitelist) (text gap : String)
    (unescaped : ¬ EndsEscaped text.toList) (separators : Separators gap.toList) :
    items whitelist (text ++ gap) = items whitelist text
      ∧ (∀ count, Reader.calls count (.ofText whitelist (text ++ gap))
        = Reader.calls count (.ofText whitelist text))
      ∧ readRaw whitelist (text ++ gap) = readRaw whitelist text
      ∧ read whitelist (text ++ gap) = read whitelist text
      ∧ stop? whitelist (text ++ gap) = stop? whitelist text
      ∧ ∀ fault, stop? whitelist (text ++ gap) = some fault →
        Locates whitelist text.toList fault := by
  have found : items whitelist (text ++ gap) = items whitelist text := by
    rw [items, String.toList_append, itemsFrom_append_separators whitelist unescaped separators,
      items]
  have same : stop? whitelist (text ++ gap) = stop? whitelist text := by rw [stop?, stop?, found]
  refine ⟨found, fun count => ?_, ?_, ?_, same, fun fault stops => ?_⟩
  · rw [items, items] at found
    rw [Reader.ofText, Reader.ofText, Reader.calls_eq, Reader.calls_eq, found]
  · rw [readRaw, readRaw, found]
  · rw [read, read, found]
  · rw [same] at stops
    exact .of_stop? stops

/-- A clause without an operator, and a group that is left open. -/
theorem trailing_separators_add_nothing_faults :
    readRaw .unrestricted ("s:a:=:x,s:b:y" ++ ",|") = .error (.headerIncomplete .operator 13)
      ∧ Locates .unrestricted "s:a:=:x,s:b:y".toList (.headerIncomplete .operator 13)
      ∧ read .unrestricted ("s:a:=:[x" ++ "|") = .error (.groupLeftOpen 6)
      ∧ OpenAt "s:a:=:[x".toList 6 := by
  have free (text : String) (last : trailingBackslashes text.toList = 0) :
      ¬ EndsEscaped text.toList := by
    rw [EndsEscaped, last]
    decide
  have comma : Separators ",|".toList := by simp [Separators]
  have bar : Separators "|".toList := by simp [Separators]
  obtain ⟨-, -, written, -, -, incomplete⟩ :=
    trailing_separators_add_nothing .unrestricted "s:a:=:x,s:b:y" ",|" (free _ rfl) comma
  obtain ⟨-, -, -, typed, -, leftOpen⟩ :=
    trailing_separators_add_nothing .unrestricted "s:a:=:[x" "|" (free _ rfl) bar
  exact ⟨written.trans rfl, incomplete _ rfl, typed.trans rfl, leftOpen (.groupLeftOpen 6) rfl⟩

end RecordFilter.QueryText
