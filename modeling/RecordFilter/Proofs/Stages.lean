import RecordFilter.Pattern.Engine
import RecordFilter.Proofs.Criterion.Patterns
import RecordFilter.Proofs.QueryText.FaultKind
import RecordFilter.Proofs.QueryText.Lockstep

/-! # The kind of a fault names its stage

A query text is read, its clauses are typed, and the typed clauses are compiled. Each of these
stages has its own kinds of faults, and a fault of typing can hide only a fault of the text that
comes later.

* `Fault.char_of_message`: the wording that quotes an unexpected character quotes a colon.
* `Registers.step_defaults`: what is used where a lookup finds nothing is never used.
* `CompletesAt`, `StopsAt`: where a clause is complete, and where reading stops.
* `completes_before_stop`: a clause that was given is complete before reading stops.
* `kind_names_stage`: all of this together. -/

namespace RecordFilter

/-! ## Wordings -/

/-- The first characters of a text are those of its first part, if that part is long enough. -/
theorem take_toList_append {lead : String} {count : Nat} (long : count ≤ lead.toList.length)
    (tail : String) : (lead ++ tail).toList.take count = lead.toList.take count := by
  rw [String.toList_append, List.take_append_of_le_length long]

namespace Fault

variable {fault : Fault} {char : Char} {position : Nat} {account : String → String}

/-- Of the faults of reading only the stray colon has a wording that begins with these letters. -/
theorem take_message_ne (account : String → String)
    (reading : fault.kind = .form ∨ fault.kind = .vocabulary)
    (other : ∀ place, fault ≠ .strayColon place) :
    (fault.message account).toList.take 3 ≠ "une".toList := by
  cases fault with
  | strayColon place => exact absurd rfl (other place)
  | escapeAtEnd =>
      dsimp only [message]
      decide
  | illegalOperator | valueMalformed | boundCount | groupUnexpected | invalidPattern =>
      rcases reading with form | vocabulary
      · cases form
      · cases vocabulary
  | colonInsideGroup | groupInsideGroup | fieldEmpty =>
      dsimp only [message]
      rw [take_toList_append (by decide)]
      decide
  | nothingToClose | groupLeftOpen | notEscapable | headerIncomplete | typeUnknown
  | operatorUnknown | fieldNotListed =>
      dsimp only [message]
      simp only [String.append_assoc]
      rw [take_toList_append (by decide)]
      decide

/-- A fault of reading that is worded as an unexpected character is a stray colon, and the character
is the colon. -/
theorem char_of_message (reading : fault.kind = .form ∨ fault.kind = .vocabulary)
    (worded : fault.message account
      = s!"unexpected character '{char}' at position {position}") :
    char = ':' ∧ ∃ place, fault = .strayColon place := by
  have stray : ∃ place, fault = .strayColon place := by
    by_contra other
    refine take_message_ne account reading (not_exists.1 other) ?_
    simp only [worded, String.append_assoc]
    rw [take_toList_append (by decide)]
    decide
  obtain ⟨place, rfl⟩ := stray
  have quoted : (strayColon place).message account
      = "unexpected character '" ++ toString ':' ++ "' at position " ++ toString place := rfl
  have single (char : Char) : (toString char).toList = [char] := String.toList_singleton char
  -- both wordings go on with the character after the same text
  rw [quoted] at worded
  simp only [String.append_assoc] at worded
  have rest := congrArg String.toList ((String.append_right_inj "unexpected character '").1 worded)
  simp only [String.toList_append, single, List.singleton_append] at rest
  exact ⟨(List.cons.inj rest).1.symm, place, rfl⟩

end Fault

namespace QueryText

variable {whitelist : Whitelist} {text : String} {chars : List Char} {state : State}
  {clauses before after : List RawClause} {raw : RawClause} {fault stop : Fault}

/-! ## Unused defaults -/

namespace Registers

/-- Outside a group some header part is missing unless the header is complete. -/
theorem openGroup_defaults (defaults other : Defaults) (position : Nat) :
    openGroup defaults position = openGroup other position := by
  funext ⟨place, buffer, escaped⟩
  cases place with
  | heading progress => cases progress <;> rfl
  | group header opened segments => rfl

/-- A step is the same for all defaults, whatever the registers hold. -/
theorem step_defaults (defaults other : Defaults) (whitelist : Whitelist) (position : Nat)
    (char : Char) :
    step defaults whitelist position char = step other whitelist position char := by
  unfold step
  rw [openGroup_defaults defaults other]
  -- a character that is taken for a closing bracket is one of the two that choose a delimiter
  split <;> rfl

end Registers

/-! ## Places of clauses and of the stop -/

/-- The character at the position completes the clause, and these clauses are complete before it. -/
def CompletesAt (whitelist : Whitelist) (text : String) (position : Nat) (before : List RawClause)
    (raw : RawClause) : Prop :=
  ∃ state char, text.toList[position]? = some char
    ∧ Reached whitelist (text.toList.take position) before state
    ∧ Transition whitelist position state char (.complete raw)

/-- Reading stops with the fault at the character at the position, or at the end of the text. -/
def StopsAt (whitelist : Whitelist) (text : String) (position : Nat) (fault : Fault) : Prop :=
  ∃ clauses state, Reached whitelist (text.toList.take position) clauses state
    ∧ ((∃ char, text.toList[position]? = some char
        ∧ Transition whitelist position state char (.refused fault))
      ∨ position = text.length ∧ state.finish position = some (.error fault))

/-- Every clause found in some characters is completed by one of them. -/
theorem Reached.exists_completes (reached : Reached whitelist chars clauses state)
    (split : clauses = before ++ raw :: after) :
    ∃ front char back last, chars = front ++ char :: back ∧ Reached whitelist front before last
      ∧ Transition whitelist front.length last char (.complete raw) := by
  induction reached generalizing after with
  | start => simp at split
  | @read _ _ _ _ char _ _ induction =>
      obtain ⟨front, completing, back, last, rfl, found⟩ := induction split
      exact ⟨front, completing, back ++ [char], last, by simp, found⟩
  | @complete chars clauses state char clause earlier rule induction =>
      -- it is the last clause, or it was found before
      rcases List.eq_nil_or_concat after with rfl | ⟨others, final, rfl⟩
      · obtain ⟨rfl, rfl⟩ := List.append_singleton_inj.1 split
        exact ⟨chars, char, [], state, rfl, earlier, rule⟩
      · rw [List.concat_eq_append, ← List.cons_append, ← List.append_assoc] at split
        obtain ⟨same, -⟩ := List.append_singleton_inj.1 split
        obtain ⟨front, completing, back, last, rfl, found⟩ := induction same
        exact ⟨front, completing, back ++ [char], last, by simp, found⟩

/-- Clauses with a fault after them are the clauses that are given before the stop. -/
theorem yielded_of_items (found : items whitelist text = clauses.map .ok ++ [.error fault]) :
    yielded whitelist text = clauses := by
  rw [yielded, found]
  simp [List.filterMap_map, Function.comp_def, Except.toOption]

/-- A fault that reading stops with has its place, and the clauses given are those found before
it. -/
theorem exists_stopsAt (stops : stop? whitelist text = some fault) :
    ∃ position state, StopsAt whitelist text position fault
      ∧ Reached whitelist (text.toList.take position) (yielded whitelist text) state := by
  rcases stop?_cases stops with ⟨clauses, state, reached, ending⟩
    | ⟨front, char, back, clauses, state, split, reached, refused⟩
  · have ends : items whitelist text = clauses.map .ok ++ [.error fault] := by
      rw [items, reached.itemsFrom_eq, ending]
      rfl
    rw [String.length_toList] at ending
    have whole : text.toList.take text.length = text.toList := by
      rw [← String.length_toList, List.take_length]
    refine ⟨text.length, state, ⟨clauses, state, ?_, .inr ⟨rfl, ending⟩⟩, ?_⟩
    · rwa [whole]
    · rwa [whole, yielded_of_items ends]
  · have ends : items whitelist text = clauses.map .ok ++ [.error fault] := by
      rw [items, split, reached.itemsFrom_eq_of_refused refused]
    have read : text.toList.take front.length = front := by
      rw [split, List.take_left]
    have next : text.toList[front.length]? = some char := by simp [split]
    refine ⟨front.length, state, ⟨clauses, state, ?_, .inl ⟨char, next, refused⟩⟩, ?_⟩
    · rwa [read]
    · rwa [read, yielded_of_items ends]

/-- A clause that is given before reading stops is complete before the place where it stops. -/
theorem completes_before_stop (stops : stop? whitelist text = some fault)
    (split : yielded whitelist text = before ++ raw :: after) :
    ∃ completed stopped, completed < stopped ∧ CompletesAt whitelist text completed before raw
      ∧ StopsAt whitelist text stopped fault := by
  obtain ⟨stopped, state, stopsAt, reached⟩ := exists_stopsAt stops
  obtain ⟨front, char, back, last, taken, found, rule⟩ := reached.exists_completes split
  have inside : front.length < stopped := by
    have size := List.length_take_le stopped text.toList
    rw [taken, List.length_append, List.length_cons] at size
    omega
  have read : text.toList.take front.length = front := by
    rw [← Nat.min_eq_left (Nat.le_of_lt inside), ← List.take_take, taken, List.take_left]
  have next : text.toList[front.length]? = some char := by
    rw [← List.getElem?_take_of_lt inside, taken]
    simp
  exact ⟨front.length, stopped, inside, ⟨last, char, next, by rwa [read], rule⟩, stopsAt⟩

/-- A text that cannot be typed, and whose reading stops as well, has a clause that cannot be typed
before the place where reading stops. -/
theorem untyped_before_stop (untyped : read whitelist text = .error fault)
    (typing : fault.kind = .typing) (stops : stop? whitelist text = some stop) :
    ∃ before raw completed stopped,
      (∀ earlier ∈ before, ∃ clause, Clause.ofRaw earlier = .ok clause)
      ∧ Clause.ofRaw raw = .error fault ∧ completed < stopped
      ∧ CompletesAt whitelist text completed before raw ∧ StopsAt whitelist text stopped stop := by
  rw [read_eq] at untyped
  rcases bind_eq_error_iff.1 untyped with failed | ⟨typed, -, stopped⟩
  · obtain ⟨before, raw, after, split, fine, refused⟩ := mapM_eq_error_iff.1 failed
    obtain ⟨completed, stopped, earlier, completes, stopsAt⟩ := completes_before_stop stops split
    exact ⟨before, raw, completed, stopped, fine, refused, earlier, completes, stopsAt⟩
  · -- the fault of the reader is of another kind
    rw [stops] at stopped
    cases stopped
    rcases kind_of_stop? stops with form | vocabulary
    · rw [form] at typing
      cases typing
    · rw [vocabulary] at typing
      cases typing

/-- A text is refused by the reader exactly with the fault that it stops with. -/
theorem readRaw_eq_error_iff : readRaw whitelist text = .error fault
    ↔ stop? whitelist text = some fault := by
  rw [readRaw_eq]
  cases stop? whitelist text <;> simp [unlessStopped]

/-- A fault among the answers of a reader is the one that it stops with. -/
theorem stop?_of_mem_calls {count : Nat}
    (answer : some (.error fault) ∈ Reader.calls count (.ofText whitelist text)) :
    stop? whitelist text = some fault := by
  rw [Reader.ofText, Reader.calls_eq] at answer
  obtain ⟨index, -, found⟩ := List.mem_map.1 answer
  exact stop?_eq_some_iff.2 (List.mem_of_getElem? found)

/-! ## All stages -/

/-- **The kind of a fault names the stage that refuses.** A reader of a text answers with faults of
form and of vocabulary only, and a fault that is worded as an unexpected character quotes a colon.
The machine that reads with registers does the same, and what it has for lookups that find nothing
is used in no registers. Clauses that are typed or made fail for their types only, and clauses that
are compiled for a pattern only. So reading typed clauses never fails for a pattern, and reading
clauses as they are written never for a type. If a text fails for a type, and its reading stops with
a fault as well, then the clause that cannot be typed, before which all can be typed, is complete
before the place where reading stops. -/
theorem kind_names_stage (engine : PatternEngine) (whitelist : Whitelist) (text : String) :
    (∀ count fault, some (.error fault) ∈ Reader.calls count (.ofText whitelist text) →
      (fault.kind = .form ∨ fault.kind = .vocabulary)
      ∧ ∀ (char : Char) (position : Nat) (account : String → String),
          fault.message account = s!"unexpected character '{char}' at position {position}" →
          char = ':' ∧ ∃ place, fault = .strayColon place)
    ∧ (∀ defaults,
        Registers.itemsFrom defaults whitelist 0 .initial text.toList = items whitelist text)
    ∧ (∀ defaults other position char, Registers.step defaults whitelist position char
        = Registers.step other whitelist position char)
    ∧ (∀ raw fault, Clause.ofRaw raw = .error fault → fault.kind = .typing)
    ∧ (∀ field comparison fault, Clause.ofComparison field comparison = .error fault →
        fault.kind = .typing)
    ∧ (∀ clause fault, Criterion.compile engine clause = .error fault → fault.kind = .pattern)
    ∧ (∀ fault, read whitelist text = .error fault → fault.kind ≠ .pattern)
    ∧ (∀ fault, readRaw whitelist text = .error fault →
        fault.kind = .form ∨ fault.kind = .vocabulary)
    ∧ ∀ fault stop, read whitelist text = .error fault → fault.kind = .typing →
        readRaw whitelist text = .error stop →
        ∃ before raw completed stopped,
          (∀ earlier ∈ before, ∃ clause, Clause.ofRaw earlier = .ok clause)
          ∧ Clause.ofRaw raw = .error fault ∧ completed < stopped
          ∧ CompletesAt whitelist text completed before raw
          ∧ StopsAt whitelist text stopped stop := by
  refine ⟨?_, ?_, ?_, fun _ _ => Clause.kind_of_ofRaw_eq_error,
    fun _ _ _ => Clause.kind_of_ofComparison_eq_error, ?_, fun _ => kind_of_read_eq_error, ?_, ?_⟩
  · intro count fault answer
    have reading := kind_of_stop? (stop?_of_mem_calls answer)
    exact ⟨reading, fun char position account => Fault.char_of_message reading⟩
  · intro defaults
    exact Registers.itemsFrom_toRegisters defaults whitelist 0 .initial text.toList
  · intro defaults other
    exact Registers.step_defaults defaults other whitelist
  · intro clause fault refused
    obtain ⟨pattern, -, rfl⟩ := Criterion.compile_eq_error_iff.1 refused
    rfl
  · intro fault refused
    exact kind_of_stop? (readRaw_eq_error_iff.1 refused)
  · intro fault stop untyped typing refused
    exact untyped_before_stop untyped typing (readRaw_eq_error_iff.1 refused)

/-- A number that cannot be read before a colon in a value, and a pattern that cannot be read. -/
theorem kind_names_stage_number_and_colon :
    some (.error (.strayColon 15)) ∈ Reader.calls 2 (.ofText .unrestricted "n:a:=:x,s:b:=:c:d")
      ∧ ((Fault.strayColon 15).kind = .form ∨ (Fault.strayColon 15).kind = .vocabulary)
      ∧ read .unrestricted "n:a:=:x,s:b:=:c:d" = .error (.valueMalformed "a" "x" .number)
      ∧ readRaw .unrestricted "n:a:=:x,s:b:=:c:d" = .error (.strayColon 15)
      ∧ (∃ before raw completed stopped, Clause.ofRaw raw = .error (.valueMalformed "a" "x" .number)
        ∧ completed < stopped
        ∧ CompletesAt .unrestricted "n:a:=:x,s:b:=:c:d" completed before raw
        ∧ StopsAt .unrestricted "n:a:=:x,s:b:=:c:d" stopped (.strayColon 15))
      ∧ Criterion.compile regularExpressions
          ⟨"f", .string .matching (.one "("), ⟨rfl, nofun, rfl⟩⟩ = .error (.invalidPattern "(")
      ∧ (Fault.invalidPattern "(").kind = .pattern := by
  obtain ⟨answers, -, -, -, -, compiled, -, -, hidden⟩ :=
    kind_names_stage regularExpressions .unrestricted "n:a:=:x,s:b:=:c:d"
  have answer : some (.error (.strayColon 15))
      ∈ Reader.calls 2 (.ofText .unrestricted "n:a:=:x,s:b:=:c:d") := by decide +kernel
  have untyped : read .unrestricted "n:a:=:x,s:b:=:c:d"
      = .error (.valueMalformed "a" "x" .number) := by decide +kernel
  have stopped : readRaw .unrestricted "n:a:=:x,s:b:=:c:d" = .error (.strayColon 15) := rfl
  have refused : Criterion.compile regularExpressions
      ⟨"f", .string .matching (.one "("), ⟨rfl, nofun, rfl⟩⟩ = .error (.invalidPattern "(") := rfl
  obtain ⟨before, raw, completed, place, -, failed, earlier, completes, stops⟩ :=
    hidden _ _ untyped rfl stopped
  exact ⟨answer, (answers 2 _ answer).1, untyped, stopped,
    ⟨before, raw, completed, place, failed, earlier, completes, stops⟩, refused,
    compiled _ _ refused⟩

end QueryText

end RecordFilter
