import RecordFilter.Proofs.QueryText.FaultKind
import RecordFilter.Proofs.QueryText.Parts
import RecordFilter.Proofs.QueryText.Place

/-! # Positions of faults

A fault of a query text that names a position names the place it is about, and unless it is found at
the end of the text, nothing after that place has a say in it.

* `FirstMissing`, `Lacks`: the header part that the unfinished clause of some characters lacks
  first, from the grammar.
* `Locates`: what a fault says about its text. A refused character (`Transition.locates`) and the
  end of a text (`Reached.locates_of_finish`) give faults that locate it.
* `stop_located`: the fault that a reader stops with. -/

namespace RecordFilter.QueryText

variable {whitelist : Whitelist} {state : State} {progress : Progress} {position : Nat}
  {char : Char} {chars front before : List Char} {text : String} {part : HeaderPart}
  {clauses : List RawClause} {fault : Fault}

/-! ## Missing header parts -/

/-- The first header part that the beginning of a clause lacks: no colon of the clause has settled
it yet. -/
inductive FirstMissing (whitelist : Whitelist) : List Char → HeaderPart → Prop
  /-- Before any colon the type is missing. -/
  | type : FirstMissing whitelist [] .type
  /-- After the type the field is missing. -/
  | field {chars : List Char} {type : FieldType} (heading : Heading whitelist chars (.typed type)) :
      FirstMissing whitelist chars .field
  /-- After the field the operator is missing. -/
  | operator {chars : List Char} {type : FieldType} {field : String}
      (heading : Heading whitelist chars (.named type field)) :
      FirstMissing whitelist chars .operator

/-- The characters are items and one more clause, which lacks the header part first. -/
def Lacks (whitelist : Whitelist) (chars : List Char) (part : HeaderPart) : Prop :=
  ∃ (items : List (List Char × Option RawClause)) (front run : List Char) (text : String),
    chars = items.flatMap Prod.fst ++ (front ++ run)
      ∧ (∀ item ∈ items, Item whitelist item.1 item.2)
      ∧ FirstMissing whitelist front part ∧ PlainRun run text.toList

/-- The missing part is the one after the parts that a heading settles. -/
theorem firstMissing_iff :
    FirstMissing whitelist chars part
      ↔ ∃ progress, Heading whitelist chars progress ∧ progress.header = .error part := by
  constructor
  · intro missing
    cases missing with
    | type => exact ⟨_, .start, rfl⟩
    | field heading => exact ⟨_, heading, rfl⟩
    | operator heading => exact ⟨_, heading, rfl⟩
  · rintro ⟨progress, heading, missing⟩
    cases progress with
    | start =>
        cases missing
        obtain rfl := heading.eq_nil_of_start
        exact .type
    | typed type =>
        cases missing
        exact .field heading
    | named type field =>
        cases missing
        exact .operator heading
    | headed header => cases missing

/-- Items one after the other add their clauses and leave nothing else behind. -/
theorem Reached.allItems (reached : Reached whitelist before clauses .initial)
    (items : List (List Char × Option RawClause))
    (each : ∀ item ∈ items, Item whitelist item.1 item.2) :
    Reached whitelist (before ++ items.flatMap Prod.fst) (clauses ++ items.filterMap Prod.snd)
      .initial := by
  induction items generalizing before clauses with
  | nil => simpa using reached
  | cons item items induction =>
      obtain ⟨first, others⟩ := List.forall_mem_cons.1 each
      have rest := induction (reached.item first) others
      obtain ⟨chars, clause?⟩ := item
      cases clause? <;> simpa using rest

/-- The missing part can be told from the state that is reached, so there is at most one. -/
theorem Reached.lacks_iff
    (reached : Reached whitelist chars clauses ⟨.outside progress text, false⟩) :
    Lacks whitelist chars part ↔ progress.header = .error part := by
  constructor
  · rintro ⟨items, front, run, other, rfl, each, missing, literal⟩
    obtain ⟨settled, heading, none⟩ := firstMissing_iff.1 missing
    have again := ((Reached.start.allItems items each).heading heading).plainRun literal
    rw [List.nil_append, List.append_assoc] at again
    -- the same characters leave the same state
    obtain ⟨-, same⟩ := reached.unique again
    cases same
    exact none
  · intro missing
    obtain ⟨items, pending, rfl, -, each, unfinished⟩ := reached.exists_items
    cases unfinished with
    | outside heading run =>
        exact ⟨items, _, _, text, rfl, each, firstMissing_iff.2 ⟨progress, heading, missing⟩, run⟩

/-! ## The place a fault is about -/

/-- What a fault says about the place in the text that it names. Faults that name no position say
nothing. -/
def Locates (whitelist : Whitelist) (chars : List Char) : Fault → Prop
  | .strayColon position | .colonInsideGroup position | .fieldEmpty position =>
      UnescapedAt chars position [':']
  | .groupInsideGroup position => UnescapedAt chars position openings
  | .nothingToClose delimiter position => UnescapedAt chars position [delimiter.closing]
  | .notEscapable char position => char ∈ separators ++ closings ∧ EscapedAt chars position char
  | .headerIncomplete part position =>
      (∀ other, Lacks whitelist (chars.take position) other ↔ other = part)
        ∧ (UnescapedAt chars position (separators ++ openings) ∨ position = chars.length)
  | .groupLeftOpen position => OpenAt chars position
  | _ => True

/-- The faults that the end of a text with the given number of characters is refused for. -/
def FoundAtEnd (size : Nat) : Fault → Prop
  | .groupLeftOpen _ | .escapeAtEnd => True
  | .headerIncomplete _ position => position = size
  | _ => False

/-- The faults whose message quotes the character at their position. -/
def QuotesChar : Fault → Prop
  | .strayColon _ | .nothingToClose _ _ | .notEscapable _ _ => True
  | _ => False

/-- A fault without a position has no place to name. -/
theorem locates_of_position?_eq_none (none : fault.position? = none) :
    Locates whitelist chars fault := by
  cases fault <;> simp_all [Fault.position?, Locates]

/-- The characters that cannot be escaped are separators and closing brackets. -/
theorem Scope.barred_subset (scope : Scope) : scope.barred ⊆ separators ++ closings := by
  cases scope <;> simp [Scope.barred, separators, closings]

/-- Where the header is not complete, a fault names the part that is missing first. -/
theorem Reached.lacks_only
    (reached : Reached whitelist front clauses ⟨.outside progress text, false⟩)
    (missing : progress.header = .error part) :
    ∀ other, Lacks whitelist front other ↔ other = part := by
  intro other
  rw [reached.lacks_iff, missing, Except.error.injEq, eq_comm]

/-- A refused character is the place that its fault is about. -/
theorem Transition.locates (reached : Reached whitelist front clauses state)
    (rule : Transition whitelist front.length state char (.refused fault)) (back : List Char) :
    Locates whitelist (front ++ char :: back) fault
      ∧ (fault.position? = none ∨ fault.position? = some front.length) := by
  -- every rule but the first one is about a character that is not escaped
  have place {among : List Char} (unescaped : state.escaped = false) (member : char ∈ among) :
      UnescapedAt (front ++ char :: back) front.length among :=
    unescapedAt_append_cons.2 ⟨member, by rw [← reached.escaped_iff, unescaped]; simp⟩
  cases rule with
  | @notEscapable scope _ barred =>
      have escaped := reached.escaped_iff.1 rfl
      exact ⟨⟨scope.barred_subset barred, escaped.escapedAt char back⟩, .inr rfl⟩
  | unsettled refused =>
      rcases Progress.fault_of_settle refused with vocabulary | rfl | rfl
      · have none := position?_of_kind_eq_vocabulary vocabulary
        exact ⟨locates_of_position?_eq_none none, .inl none⟩
      · exact ⟨place rfl (by simp), .inr rfl⟩
      · exact ⟨place rfl (by simp), .inr rfl⟩
  | incomplete delimiter nonempty =>
      have separator := List.mem_append_left openings (mem_separators.2 ⟨delimiter, rfl⟩)
      refine ⟨⟨?_, .inl (place rfl separator)⟩, .inr rfl⟩
      rw [List.take_left]
      exact reached.lacks_only rfl
  | early missing bracket =>
      have opening := List.mem_append_right separators (mem_openings.2 bracket)
      refine ⟨⟨?_, .inl (place rfl opening)⟩, .inr rfl⟩
      rw [List.take_left]
      exact reached.lacks_only missing
  | unopened delimiter => exact ⟨place rfl (by simp), .inr rfl⟩
  | colonInside => exact ⟨place rfl (by simp), .inr rfl⟩
  | nested bracket => exact ⟨place rfl (mem_openings.2 bracket), .inr rfl⟩

/-- The end of a text is refused for an open escape, an open group or a missing part. -/
theorem Reached.locates_of_finish (reached : Reached whitelist chars clauses state)
    (ending : state.finish chars.length = some (.error fault)) :
    Locates whitelist chars fault ∧ FoundAtEnd chars.length fault := by
  rcases State.finish_eq_error_iff.1 ending with ⟨scope, rfl, rfl⟩
    | ⟨header, opened, body, rfl, rfl⟩ | ⟨type, field, text, rfl, nonempty, rfl⟩
  · exact ⟨trivial, trivial⟩
  · exact ⟨reached.opened?_eq_some_iff.1 rfl, trivial⟩
  · refine ⟨⟨?_, .inr rfl⟩, rfl⟩
    rw [List.take_length]
    exact reached.lacks_only rfl

/-! ## The fault that a reader stops with -/

/-- A quoted character with its position, between two texts. -/
theorem quotation_eq (lead tail : String) (char : Char) (position : Nat) :
    lead ++ s!"'{char}' at position {position}" ++ tail
      = lead ++ "'" ++ toString char ++ "' at position " ++ toString position ++ tail := by
  simp only [String.append_assoc]
  rfl

/-- A fault that quotes the character at its position quotes the one that stands there. -/
theorem exists_message_eq (locates : Locates whitelist chars fault) (quotes : QuotesChar fault)
    (named : fault.position? = some position) :
    ∃ char lead tail, chars[position]? = some char
      ∧ ∀ account, fault.message account
        = lead ++ s!"'{char}' at position {position}" ++ tail := by
  -- the wording is compared piece by piece, so that no literal is taken apart
  simp only [quotation_eq]
  cases fault with
  | strayColon place =>
      cases named
      obtain ⟨char, colon, found, -⟩ := locates
      obtain rfl := List.mem_singleton.1 colon
      refine ⟨':', "unexpected character ", "", found, fun account => ?_⟩
      rw [String.append_empty]
      rfl
  | nothingToClose delimiter place =>
      cases named
      obtain ⟨char, closing, found, -⟩ := locates
      obtain rfl := List.mem_singleton.1 closing
      refine ⟨delimiter.closing, "unbalanced parenthesis or brackets: ", " closes nothing", found,
        fun account => ?_⟩
      exact String.append_assoc ..
  | notEscapable char place =>
      cases named
      exact ⟨char, "character ", " cannot be escaped here", locates.2.1, fun account => rfl⟩
  | _ => exact quotes.elim

/-- **Faults stand where they say.** A reader that stops with a fault that names a position stops
with one that locates its place in the text, and quotes the character that stands there if it quotes
one. Unless the fault is found at the end of the text, every text with the same characters up to and
including the position gives the same clauses and the same fault. -/
theorem stop_located (whitelist : Whitelist) (text : String) (fault : Fault) (position : Nat)
    (stops : stop? whitelist text = some fault) (named : fault.position? = some position) :
    Locates whitelist text.toList fault
      ∧ (QuotesChar fault → ∃ char lead tail, text.toList[position]? = some char
          ∧ ∀ account, fault.message account
            = lead ++ s!"'{char}' at position {position}" ++ tail)
      ∧ (¬ FoundAtEnd text.length fault →
          ∀ other : String, other.toList.take (position + 1) = text.toList.take (position + 1) →
            items whitelist other = items whitelist text) := by
  rcases stop?_cases stops with ⟨clauses, state, reached, ending⟩
    | ⟨front, char, back, clauses, state, split, reached, refused⟩
  · obtain ⟨locates, atEnd⟩ := reached.locates_of_finish ending
    rw [String.length_toList] at atEnd
    exact ⟨locates, fun quotes => exists_message_eq locates quotes named, absurd atEnd⟩
  · obtain ⟨locates, none | place⟩ := refused.locates reached back
    · exact absurd (none.symm.trans named) nofun
    · rw [← split] at locates
      refine ⟨locates, fun quotes => exists_message_eq locates quotes named, fun _ other same => ?_⟩
      obtain rfl : front.length = position := Option.some_inj.1 (place.symm.trans named)
      -- both texts begin with the refused character and what is read before it
      have begins : text.toList.take (front.length + 1) = front ++ [char] := by
        rw [split, List.take_length_add_append]
        rfl
      rw [reached.items_eq_of_take refused begins,
        reached.items_eq_of_take refused (same.trans begins)]

/-- A colon in the value of the second clause, and another text that begins in the same way. -/
theorem stop_located_strayColon :
    stop? .unrestricted "s:b:=:z,s:a:=:x:y" = some (.strayColon 15)
      ∧ Locates .unrestricted "s:b:=:z,s:a:=:x:y".toList (.strayColon 15)
      ∧ (∃ char lead tail, "s:b:=:z,s:a:=:x:y".toList[15]? = some char
          ∧ ∀ account, (Fault.strayColon 15).message account
            = lead ++ s!"'{char}' at position {15}" ++ tail)
      ∧ items .unrestricted "s:b:=:z,s:a:=:x:[(" = items .unrestricted "s:b:=:z,s:a:=:x:y" := by
  have stops : stop? .unrestricted "s:b:=:z,s:a:=:x:y" = some (.strayColon 15) := rfl
  obtain ⟨locates, quotes, decided⟩ :=
    stop_located .unrestricted "s:b:=:z,s:a:=:x:y" (.strayColon 15) 15 stops rfl
  have begins : "s:b:=:z,s:a:=:x:[(".toList.take 16 = "s:b:=:z,s:a:=:x:y".toList.take 16 := by
    decide
  exact ⟨stops, locates, quotes trivial, decided id "s:b:=:z,s:a:=:x:[(" begins⟩

end RecordFilter.QueryText
