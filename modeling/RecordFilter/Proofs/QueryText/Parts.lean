import Mathlib.Data.List.Basic
import RecordFilter.Proofs.QueryText.Recognition

/-! # The parts of an accepted text

An accepted text is divided into parts, and each of its clauses is written in a part of its own. The
part shows whether the value of the clause is a bracketed group.

* `Part`: an item of a text or its tail, with the clause it stands for if it stands for one.
* `exists_parts_of_readRaw`: an accepted text is its parts one after the other, and its clauses are
  those of the parts.
* `Bracketed`, `Part.delimiter?_eq_some_iff`: the clauses that are written with a group. -/

namespace RecordFilter.QueryText

variable {whitelist : Whitelist} {state : State} {chars barred text : List Char}
  {clause : RawClause} {clauses : List RawClause} {delimiter : Delimiter}

/-! ## Division into parts -/

/-- A part of a query text, with the clause it stands for if it stands for one. -/
def Part (whitelist : Whitelist) (chars : List Char) (clause? : Option RawClause) : Prop :=
  Item whitelist chars clause? ∨ Tail whitelist chars clause?

/-- What is read up to a state is finished items and the text of the unfinished clause. -/
theorem Reached.exists_items (reached : Reached whitelist chars clauses state) :
    ∃ (parts : List (List Char × Option RawClause)) (pending : List Char),
      chars = parts.flatMap Prod.fst ++ pending ∧ clauses = parts.filterMap Prod.snd
        ∧ (∀ part ∈ parts, Item whitelist part.1 part.2) ∧ Pending whitelist pending state := by
  -- a character lengthens the text of the unfinished clause, or makes an item of it
  induction reached with
  | start => exact ⟨[], [], rfl, rfl, by simp, .initial⟩
  | @read chars clauses state next char before rule induction =>
      obtain ⟨parts, pending, rfl, rfl, items, unfinished⟩ := induction
      rcases unfinished.reading rule with longer | ⟨rfl, item⟩
      · exact ⟨parts, pending ++ [char], by simp, rfl, items, longer⟩
      · refine ⟨parts ++ [(pending ++ [char], none)], [], by simp, by simp, ?_, .initial⟩
        exact List.forall_mem_append.2 ⟨items, List.forall_mem_singleton.2 item⟩
  | @complete chars clauses state char clause before rule induction =>
      obtain ⟨parts, pending, rfl, rfl, items, unfinished⟩ := induction
      refine ⟨parts ++ [(pending ++ [char], some clause)], [], by simp, by simp, ?_, .initial⟩
      exact List.forall_mem_append.2
        ⟨items, List.forall_mem_singleton.2 (unfinished.complete rule)⟩

/-- An accepted text is its parts, and its clauses are those of the parts, in order. -/
theorem exists_parts_of_readRaw {text : String} (accepted : readRaw whitelist text = .ok clauses) :
    ∃ parts : List (List Char × Option RawClause),
      parts.flatMap Prod.fst = text.toList ∧ parts.filterMap Prod.snd = clauses
        ∧ ∀ part ∈ parts, Part whitelist part.1 part.2 := by
  obtain ⟨seen, state, last?, reached, ending, rfl⟩ :=
    itemsFrom_eq_map_ok_iff.1 (readRaw_eq_ok_iff.1 accepted)
  obtain ⟨parts, pending, split, rfl, items, unfinished⟩ := reached.exists_items
  -- the text that is left at the end is the tail
  refine ⟨parts ++ [(pending, last?)], by simp [split], ?_, ?_⟩
  · cases last? <;> simp
  · exact List.forall_mem_append.2 ⟨fun part member => .inl (items part member),
      List.forall_mem_singleton.2 (.inr (unfinished.finish ending))⟩

/-! ## Bracketed groups -/

/-- The text of a clause whose value is a bracketed group: a heading, text that is dropped, and the
group from its opening to its closing bracket. -/
inductive Bracketed (whitelist : Whitelist) : List Char → Delimiter → Prop
  /-- The closing bracket is that of the delimiter. -/
  | group {front lead inner text : List Char} {header : Header} {lost : String} {bracket : Char}
      {segments : List (Delimiter × List Char)}
      (heading : Heading whitelist front (.headed header)) (run : PlainRun lead lost.toList)
      (opening : bracket = '[' ∨ bracket = '(') (inside : Segments inner text segments)
      (delimiter : Delimiter) :
      Bracketed whitelist (front ++ lead ++ bracket :: inner ++ [delimiter.closing]) delimiter

/-- A group ends with its closing bracket. -/
theorem Bracketed.getLast? (bracketed : Bracketed whitelist chars delimiter) :
    chars.getLast? = some delimiter.closing := by
  cases bracketed with
  | group heading run opening inside delimiter => exact List.getLast?_concat

/-- The last character of a list is that of its tail, unless the tail is empty. -/
theorem getLast?_cons_eq_some {first last : Char} (ends : (first :: chars).getLast? = some last) :
    chars.getLast? = some last ∨ first = last := by
  rw [List.getLast?_cons, Option.some_inj] at ends
  cases tail : chars.getLast? with
  | none =>
      rw [tail] at ends
      exact .inr ends
  | some other =>
      rw [tail] at ends
      exact .inl (congrArg some ends)

/-- A literal run does not end with a barred character, as the barred characters are structural. -/
theorem Literal.notMem_of_getLast? (run : Literal barred chars text)
    (special : ∀ char ∈ barred, char ∈ structural) :
    ∀ char, chars.getLast? = some char → char ∉ barred := by
  induction run with
  | nil => exact nofun
  | plain ordinary rest induction =>
      intro char ends
      rcases getLast?_cons_eq_some ends with later | rfl
      · exact induction char later
      · exact fun isBarred => ordinary (special _ isBarred)
  | escaped free rest induction =>
      intro char ends
      rw [List.getLast?_cons_cons] at ends
      rcases getLast?_cons_eq_some ends with later | rfl
      · exact induction char later
      · exact free

/-- A closing bracket is no separator. -/
theorem closing_ne_separator (delimiter separator : Delimiter) :
    separator.char ≠ delimiter.closing := by
  cases delimiter <;> cases separator <;> decide

/-- The text of a clause with a single value does not end with a closing bracket. -/
theorem Part.getLast?_ne_closing {header : Header} {value : String}
    (part : Part whitelist chars (some ⟨header, .one value⟩)) (delimiter : Delimiter) :
    chars.getLast? ≠ some delimiter.closing := by
  rcases part with item | tail
  · cases item with
    | scalar heading run nonempty separator =>
        rw [List.getLast?_concat]
        exact fun same => closing_ne_separator delimiter separator (Option.some_inj.1 same)
  · cases tail with
    | @scalar front run _ _ heading literal nonempty =>
        -- the value is not empty, so the text ends with a character of the value
        have some : run ≠ [] := by
          rintro rfl
          generalize written : value.toList = text at literal
          cases literal
          exact nonempty (String.toList_eq_nil_iff.1 written)
        rw [List.getLast?_append_of_ne_nil _ some]
        intro last
        refine literal.notMem_of_getLast? (by simp [structural]) _ last ?_
        cases delimiter <;> decide

/-- The value of a clause is a group of a delimiter exactly if the clause is written with a
bracketed group that the bracket of the delimiter closes. -/
theorem Part.delimiter?_eq_some_iff (part : Part whitelist chars (some clause)) :
    clause.value.delimiter? = some delimiter ↔ Bracketed whitelist chars delimiter := by
  obtain ⟨header, value⟩ := clause
  cases value with
  | one value =>
      constructor
      · exact nofun
      · exact fun bracketed => absurd bracketed.getLast? (part.getLast?_ne_closing delimiter)
  | group values closed =>
      rcases part with item | tail
      · cases item with
        | group heading run opening inside closed =>
            have written := Bracketed.group heading run opening inside closed
            constructor
            · rintro ⟨⟩
              exact written
            · intro bracketed
              -- the last character is one closing bracket, which chooses one delimiter
              have last := Option.some_inj.1 (written.getLast?.symm.trans bracketed.getLast?)
              have same : closed = delimiter := by
                simpa using congrArg Delimiter.ofClosing? last
              exact congrArg some same
      · cases tail

end RecordFilter.QueryText
