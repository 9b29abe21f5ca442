import RecordFilter.Proofs.Clause.Typing
import RecordFilter.Proofs.QueryText.Clauses
import RecordFilter.Proofs.QueryText.RoundTrip

/-! # Narrower whitelists

A whitelist is looked at in one place only, at the colon after a field name. So two runs over one
text under whitelists of which one is narrower go hand in hand until the narrower one refuses a
field, and nothing else can tell them apart.

* `Whitelist.Within`: one whitelist admits whatever another admits.
* `Transition.widen_reading`, `Reached.widen`: the steps and runs under the narrower whitelist are
  steps and runs under the wider one.
* `HiddenField`: a field that a text names and that its whitelist does not admit.
* `items_of_within`: what the two runs find.
* `restriction_refuses_only`: what a whitelist does to the clauses of a text. -/

namespace RecordFilter

/-- A whitelist admits no field that a wider one does not admit. -/
def Whitelist.Within (narrow wide : Whitelist) : Prop :=
  ∀ field, narrow.allows field = true → wide.allows field = true

/-- Every whitelist is narrower than the one that admits every name. -/
theorem Whitelist.within_unrestricted (whitelist : Whitelist) : whitelist.Within .unrestricted :=
  fun _ _ => rfl

namespace QueryText

variable {narrow wide whitelist : Whitelist} {position : Nat} {state next : State} {char : Char}
  {chars : List Char} {text : String} {clause : RawClause} {clauses : List RawClause}
  {fault : Fault} {β : Type}

/-! ## One character -/

/-- What a colon settles under a narrower whitelist is settled under a wider one. -/
theorem Progress.settle_widen (within : narrow.Within wide) {progress later : Progress}
    (settled : progress.settle narrow position text = .ok later) :
    progress.settle wide position text = .ok later := by
  cases progress with
  | start => exact settled
  | typed type =>
      simp only [settle] at settled ⊢
      by_cases empty : text = ""
      · rw [if_pos empty] at settled
        cases settled
      · rw [if_neg empty] at settled ⊢
        by_cases allowed : narrow.allows text = true
        · rw [if_pos allowed] at settled
          rwa [if_pos (within text allowed)]
        · rw [if_neg allowed] at settled
          cases settled
  | named type field => exact settled
  | headed header => exact settled

/-- What a colon is refused for does not depend on the whitelist, except for a field that is not
admitted. -/
theorem Progress.settle_error (wide : Whitelist) {progress : Progress}
    (refused : progress.settle narrow position text = .error fault) :
    progress.settle wide position text = .error fault
      ∨ (∃ type, progress = .typed type) ∧ text ≠ "" ∧ narrow.allows text = false
        ∧ fault = .fieldNotListed text := by
  cases progress with
  | start => exact .inl refused
  | typed type =>
      simp only [settle] at refused ⊢
      by_cases empty : text = ""
      · rw [if_pos empty] at refused ⊢
        exact .inl refused
      · rw [if_neg empty] at refused
        by_cases allowed : narrow.allows text = true
        · rw [if_pos allowed] at refused
          cases refused
        · rw [if_neg allowed] at refused
          cases refused
          exact .inr ⟨⟨type, rfl⟩, empty, Bool.eq_false_iff.2 allowed, rfl⟩
  | named type field => exact .inl refused
  | headed header => exact .inl refused

/-- A character that goes on under a narrower whitelist goes on in the same way under a wider
one. -/
theorem Transition.widen_reading (within : narrow.Within wide)
    (rule : Transition narrow position state char (.reading next)) :
    Transition wide position state char (.reading next) := by
  cases rule with
  | escape => exact .escape
  | literal free => exact .literal free
  | plain ordinary => exact .plain ordinary
  | settle settled => exact .settle (Progress.settle_widen within settled)
  | skip delimiter => exact .skip delimiter
  | dropStray delimiter nonempty => exact .dropStray delimiter nonempty
  | dropTyped delimiter nonempty => exact .dropTyped delimiter nonempty
  | openGroup bracket => exact .openGroup bracket
  | separate delimiter => exact .separate delimiter

/-- A character that completes a clause completes it under every whitelist. -/
theorem Transition.complete_any (wide : Whitelist)
    (rule : Transition narrow position state char (.complete clause)) :
    Transition wide position state char (.complete clause) := by
  cases rule with
  | value delimiter nonempty => exact .value delimiter nonempty
  | closeGroup delimiter => exact .closeGroup delimiter

/-- A character that is refused is refused under every whitelist, unless it is the colon after a
field that is not admitted. -/
theorem Transition.refused_any (wide : Whitelist)
    (rule : Transition narrow position state char (.refused fault)) :
    Transition wide position state char (.refused fault)
      ∨ ∃ type field, state = ⟨.outside (.typed type) field, false⟩ ∧ char = ':' ∧ field ≠ ""
        ∧ narrow.allows field = false ∧ fault = .fieldNotListed field := by
  cases rule with
  | notEscapable barred => exact .inl (.notEscapable barred)
  | unsettled refused =>
      rcases Progress.settle_error wide refused with same
        | ⟨⟨type, rfl⟩, nonempty, hidden, rfl⟩
      · exact .inl (.unsettled same)
      · exact .inr ⟨type, _, rfl, rfl, nonempty, hidden, rfl⟩
  | incomplete delimiter nonempty => exact .inl (.incomplete delimiter nonempty)
  | early missing bracket => exact .inl (.early missing bracket)
  | unopened delimiter => exact .inl (.unopened delimiter)
  | colonInside => exact .inl .colonInside
  | nested bracket => exact .inl (.nested bracket)

/-! ## Whole texts -/

/-- A run under a narrower whitelist is a run under a wider one. -/
theorem Reached.widen (within : narrow.Within wide)
    (reached : Reached narrow chars clauses state) : Reached wide chars clauses state := by
  induction reached with
  | start => exact .start
  | read before rule induction => exact induction.read (rule.widen_reading within)
  | complete before rule induction => exact induction.complete (rule.complete_any wide)

/-- A field that the text names and the whitelist does not admit: reading comes to the colon after
it with the name, its escapes resolved, as the text since the colon after the type. -/
def HiddenField (whitelist : Whitelist) (text field : String) : Prop :=
  whitelist.allows field = false ∧ field ≠ ""
    ∧ ∃ front back clauses type, text.toList = front ++ ':' :: back
      ∧ Reached whitelist front clauses ⟨.outside (.typed type) field, false⟩

/-- Under two whitelists of which one is narrower the same is found, unless the narrower one refuses
a field. Then it finds the same up to there. -/
theorem items_of_within (within : narrow.Within wide) (text : String) :
    items narrow text = items wide text
      ∨ ∃ (clauses : List RawClause) (field : String) (others : List (Except Fault RawClause)),
        HiddenField narrow text field
        ∧ items narrow text = clauses.map .ok ++ [.error (.fieldNotListed field)]
        ∧ items wide text = clauses.map .ok ++ others := by
  rcases reached_or_refused narrow text.toList with ⟨clauses, state, reached⟩
    | ⟨front, char, back, clauses, state, fault, split, reached, refused⟩
  · refine .inl ?_
    rw [items, items, reached.itemsFrom_eq, (reached.widen within).itemsFrom_eq]
  · have found := reached.itemsFrom_eq_of_refused refused back
    rcases refused.refused_any wide with also | ⟨type, field, rfl, rfl, nonempty, hidden, rfl⟩
    · refine .inl ?_
      rw [items, items, split, found, (reached.widen within).itemsFrom_eq_of_refused also]
    · -- the wider run goes on behind the colon
      have longer := (reached.widen within).itemsFrom_append (':' :: back)
      have names : HiddenField narrow text field :=
        ⟨hidden, nonempty, front, back, clauses, type, split, reached⟩
      rw [← split] at found longer
      exact .inr ⟨clauses, field, _, names, found, longer⟩

/-- Collecting what is found under two whitelists, of which one is narrower, gives the same answer,
unless the narrower one refuses a field. -/
theorem mapM_items_of_within {treat : Except Fault RawClause → Except Fault β}
    (fails : ∀ fault, treat (.error fault) = .error fault) (within : narrow.Within wide)
    (text : String) :
    (items narrow text).mapM treat = (items wide text).mapM treat
      ∨ ∃ field, HiddenField narrow text field
        ∧ (items narrow text).mapM treat = .error (.fieldNotListed field) := by
  rcases items_of_within within text with same
    | ⟨clauses, field, others, hidden, found, further⟩
  · exact .inl (by rw [same])
  · -- a clause before the field may have a fault of its own, which both runs report
    rw [found, further, List.mapM_append, List.mapM_append]
    cases (clauses.map .ok).mapM treat with
    | error fault => exact .inl rfl
    | ok values =>
        refine .inr ⟨field, hidden, ?_⟩
        rw [List.mapM_cons, fails]
        rfl

/-- The clauses of a text as they are written, under two whitelists. -/
theorem readRaw_of_within (within : narrow.Within wide) (text : String) :
    readRaw narrow text = readRaw wide text
      ∨ ∃ field, HiddenField narrow text field
        ∧ readRaw narrow text = .error (.fieldNotListed field) :=
  mapM_items_of_within (fun _ => rfl) within text

/-- The typed clauses of a text under two whitelists. -/
theorem read_of_within (within : narrow.Within wide) (text : String) :
    read narrow text = read wide text
      ∨ ∃ field, HiddenField narrow text field
        ∧ read narrow text = .error (.fieldNotListed field) :=
  mapM_items_of_within (fun _ => rfl) within text

/-- The fields of the clauses of a text are admitted. -/
theorem allows_of_readRaw (accepted : readRaw whitelist text = .ok clauses) :
    ∀ clause ∈ clauses, whitelist.allows clause.field = true := by
  intro clause member
  have found : .ok clause ∈ itemsFrom whitelist 0 .initial text.toList := by
    rw [readRaw_eq_ok_iff.1 accepted]
    exact List.mem_map_of_mem member
  exact (writable_of_mem_itemsFrom found).allowed

/-- The fields of the typed clauses of a text are admitted. -/
theorem allows_of_read {typed : List Clause} (accepted : read whitelist text = .ok typed) :
    ∀ clause ∈ typed, whitelist.allows clause.field = true := by
  intro clause member
  obtain ⟨raws, written, all⟩ := read_eq_ok_iff.1 accepted
  obtain ⟨raw, isRaw, made⟩ := exists_of_mem_of_forall₂ (mapM_eq_ok_iff_forall₂.1 all) member
  rw [Clause.field_of_ofRaw made]
  exact allows_of_readRaw written raw isRaw

/-- **A whitelist only refuses fields.** Under a whitelist a text has the clauses or the fault that
it has without one, unless it is refused for a field that it names and that is not admitted. If it
is accepted, all fields of its clauses are admitted, and every wider whitelist accepts it with the
same clauses. This holds for the clauses as they are written and for the typed ones. -/
theorem restriction_refuses_only (whitelist : Whitelist) (text : String) :
    (readRaw whitelist text = readRaw .unrestricted text
      ∨ ∃ field, HiddenField whitelist text field
        ∧ readRaw whitelist text = .error (.fieldNotListed field))
    ∧ (read whitelist text = read .unrestricted text
      ∨ ∃ field, HiddenField whitelist text field
        ∧ read whitelist text = .error (.fieldNotListed field))
    ∧ (∀ clauses, readRaw whitelist text = .ok clauses →
      (∀ clause ∈ clauses, whitelist.allows clause.field = true)
      ∧ ∀ wide, whitelist.Within wide → readRaw wide text = .ok clauses)
    ∧ ∀ typed, read whitelist text = .ok typed →
      (∀ clause ∈ typed, whitelist.allows clause.field = true)
      ∧ ∀ wide, whitelist.Within wide → read wide text = .ok typed := by
  refine ⟨readRaw_of_within whitelist.within_unrestricted text,
    read_of_within whitelist.within_unrestricted text, ?_, ?_⟩
  · intro clauses accepted
    refine ⟨allows_of_readRaw accepted, fun wide within => ?_⟩
    -- an accepted text is not refused for a field, so both whitelists find the same
    rcases readRaw_of_within within text with same | ⟨field, -, refused⟩
    · rw [← same, accepted]
    · rw [accepted] at refused
      cases refused
  · intro typed accepted
    refine ⟨allows_of_read accepted, fun wide within => ?_⟩
    rcases read_of_within within text with same | ⟨field, -, refused⟩
    · rw [← same, accepted]
    · rw [accepted] at refused
      cases refused

/-- A text that one name suffices for, and a text that names a second field with a backslash. -/
theorem restriction_refuses_only_second_field :
    (Whitelist.listed ["a"]).Within (.listed ["a", "b"])
      ∧ readRaw (.listed ["a"]) "s:a:=:x" = .ok [⟨⟨.string, "a", .equal⟩, .one "x"⟩]
      ∧ readRaw (.listed ["a", "b"]) "s:a:=:x" = .ok [⟨⟨.string, "a", .equal⟩, .one "x"⟩]
      ∧ (∃ typed, read (.listed ["a"]) "s:a:=:x" = .ok typed
        ∧ read (.listed ["a", "b"]) "s:a:=:x" = .ok typed)
      ∧ ∃ field, HiddenField (.listed ["a"]) "s:a:=:x,s:\\b:=:y" field
        ∧ read (.listed ["a"]) "s:a:=:x,s:\\b:=:y" = .error (.fieldNotListed field) := by
  have within : (Whitelist.listed ["a"]).Within (.listed ["a", "b"]) := by
    intro field allowed
    simp only [Whitelist.allows, List.contains_eq_mem, List.mem_cons, List.not_mem_nil, or_false,
      decide_eq_true_eq] at allowed ⊢
    exact .inl allowed
  have written : readRaw (.listed ["a"]) "s:a:=:x" = .ok [⟨⟨.string, "a", .equal⟩, .one "x"⟩] := rfl
  have one := restriction_refuses_only (.listed ["a"]) "s:a:=:x"
  refine ⟨within, written, (one.2.2.1 _ written).2 _ within, ?_, ?_⟩
  · obtain ⟨typed, accepted⟩ : ∃ typed, read (.listed ["a"]) "s:a:=:x" = .ok typed := ⟨_, rfl⟩
    exact ⟨typed, accepted, (one.2.2.2 _ accepted).2 _ within⟩
  · have two := restriction_refuses_only (.listed ["a"]) "s:a:=:x,s:\\b:=:y"
    exact two.2.1.resolve_left (by decide +kernel)

end QueryText

end RecordFilter
