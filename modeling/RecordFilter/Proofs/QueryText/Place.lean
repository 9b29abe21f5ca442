import Mathlib.Data.List.Basic
import RecordFilter.Proofs.QueryText.Ending

/-! # Places in a query text

Where the characters of a text stand, and whether a backslash escapes them there. A place is told
from the characters alone, without reading them.

* `UnescapedAt`, `EscapedAt`: a character with or without an active backslash before it.
* `OpenAt`: an opening bracket that no closing bracket follows. Reading is inside a group exactly if
  there is one, and it is the one whose position the group keeps (`Reached.opened?_eq_some_iff`). -/

namespace RecordFilter.QueryText

variable {whitelist : Whitelist} {state : State} {scope : Scope} {position size : Nat}
  {char : Char} {chars among front : List Char} {clauses : List RawClause}

/-! ## Single characters -/

/-- The brackets that open a group. -/
def openings : List Char := ['[', '(']

/-- The brackets that close a group. -/
def closings : List Char := [']', ')']

/-- The separators. -/
def separators : List Char := [',', '|']

/-- One of the given characters stands at the position, and no backslash escapes it. -/
def UnescapedAt (chars : List Char) (position : Nat) (among : List Char) : Prop :=
  ∃ char ∈ among, chars[position]? = some char ∧ ¬ EndsEscaped (chars.take position)

/-- The character stands at the position, right after a backslash that escapes it. -/
def EscapedAt (chars : List Char) (position : Nat) (char : Char) : Prop :=
  chars[position]? = some char ∧ ∃ before, before + 1 = position ∧ UnescapedAt chars before ['\\']

/-- Brackets of either shape open a group. -/
theorem mem_openings : char ∈ openings ↔ char = '[' ∨ char = '(' := by
  simp [openings]

/-- The closing brackets are those that choose a delimiter. -/
theorem mem_closings : char ∈ closings ↔ ∃ delimiter : Delimiter, char = delimiter.closing := by
  constructor
  · intro member
    rcases List.mem_pair.1 member with rfl | rfl
    · exact ⟨.comma, rfl⟩
    · exact ⟨.pipe, rfl⟩
  · rintro ⟨delimiter, rfl⟩
    cases delimiter <;> decide

/-- The separators are the characters of the delimiters. -/
theorem mem_separators : char ∈ separators ↔ ∃ delimiter : Delimiter, char = delimiter.char := by
  constructor
  · intro member
    rcases List.mem_pair.1 member with rfl | rfl
    · exact ⟨.comma, rfl⟩
    · exact ⟨.pipe, rfl⟩
  · rintro ⟨delimiter, rfl⟩
    cases delimiter <;> decide

/-- A character after which others stand. -/
theorem unescapedAt_append_cons {back : List Char} :
    UnescapedAt (front ++ char :: back) front.length among
      ↔ char ∈ among ∧ ¬ EndsEscaped front := by
  simp [UnescapedAt]

/-- The places in a longer text: those before its last character, and that character. -/
theorem unescapedAt_concat :
    UnescapedAt (chars ++ [char]) position among
      ↔ UnescapedAt chars position among
        ∨ position = chars.length ∧ char ∈ among ∧ ¬ EndsEscaped chars := by
  rcases Nat.lt_trichotomy position chars.length with inside | rfl | beyond
  · rw [UnescapedAt, List.getElem?_append_left inside,
      List.take_append_of_le_length (Nat.le_of_lt inside), UnescapedAt]
    simp [Nat.ne_of_lt inside]
  · rw [unescapedAt_append_cons]
    simp [UnescapedAt]
  · -- the longer text has no character there either
    have shorter : chars[position]? = none := List.getElem?_eq_none (Nat.le_of_lt beyond)
    have longer : (chars ++ [char])[position]? = none := List.getElem?_eq_none (by simpa)
    simp [UnescapedAt, shorter, longer, Nat.ne_of_gt beyond]

/-- A place is a position of the text. -/
theorem UnescapedAt.lt_length (place : UnescapedAt chars position among) :
    position < chars.length := by
  obtain ⟨char, -, found, -⟩ := place
  exact (List.getElem?_eq_some_iff.1 found).1

/-- Characters that escape the next one end with a backslash that is not escaped. -/
theorem EndsEscaped.escapedAt (escaped : EndsEscaped front) (char : Char) (back : List Char) :
    EscapedAt (front ++ char :: back) front.length char := by
  refine ⟨by simp, ?_⟩
  rcases List.eq_nil_or_concat front with rfl | ⟨before, last, rfl⟩
  · exact absurd escaped not_endsEscaped_nil
  · rw [List.concat_eq_append] at escaped ⊢
    obtain ⟨rfl, unescaped⟩ := (endsEscaped_concat before last).1 escaped
    refine ⟨before.length, by simp, ?_⟩
    rw [List.append_assoc, List.singleton_append]
    exact unescapedAt_append_cons.2 ⟨List.mem_singleton_self _, unescaped⟩

/-! ## Open groups -/

/-- An opening bracket stands at the position, and no closing bracket stands after it. -/
def OpenAt (chars : List Char) (position : Nat) : Prop :=
  UnescapedAt chars position openings
    ∧ ∀ later, position < later → ¬ UnescapedAt chars later closings

/-- An open group stays open unless it is closed, and an opening bracket opens one. -/
theorem openAt_concat :
    OpenAt (chars ++ [char]) position
      ↔ OpenAt chars position ∧ (char ∈ closings → EndsEscaped chars)
        ∨ position = chars.length ∧ char ∈ openings ∧ ¬ EndsEscaped chars := by
  simp only [OpenAt, unescapedAt_concat, not_or, not_and, not_not]
  constructor
  · rintro ⟨before | last, unclosed⟩
    · refine .inl ⟨⟨before, fun later after => (unclosed later after).1⟩, ?_⟩
      exact (unclosed chars.length before.lt_length).2 rfl
    · exact .inr last
  · rintro (⟨⟨before, unclosed⟩, goesOn⟩ | ⟨rfl, opening, unescaped⟩)
    · exact ⟨.inl before, fun later after => ⟨unclosed later after, fun _ => goesOn⟩⟩
    · -- nothing stands after the last character
      refine ⟨.inr ⟨rfl, opening, unescaped⟩, fun later after => ⟨?_, ?_⟩⟩
      · exact fun closing => Nat.lt_asymm after closing.lt_length
      · exact fun same => absurd same (Nat.ne_of_gt after)

/-- The position of the open group, if there is one. -/
def Scope.opened? : Scope → Option Nat
  | outside _ _ => none
  | group _ opened _ => some opened

/-- Literal characters neither open nor close a group. -/
@[simp] theorem Scope.opened?_push (char : Char) (scope : Scope) :
    (scope.push char).opened? = scope.opened? := by
  cases scope <;> rfl

/-- A step that goes on opens a group exactly at an opening bracket, and closes none. -/
theorem Transition.opened?_of_reading {next : State}
    (rule : Transition whitelist size state char (.reading next)) (position : Nat) :
    (next.scope.opened? = some position
        ↔ state.scope.opened? = some position
          ∨ position = size ∧ char ∈ openings ∧ ¬ state.escaped = true)
      ∧ (char ∈ closings → state.escaped = true) := by
  cases rule with
  | escape => simp [openings, closings]
  | literal free => simp
  | plain ordinary =>
      simp only [structural, List.mem_cons, List.not_mem_nil, or_false, not_or] at ordinary
      simp [openings, closings, ordinary]
  | settle settled => simp [Scope.opened?, openings, closings]
  | skip delimiter => cases delimiter <;> simp [Scope.opened?, openings, closings, Delimiter.char]
  | dropStray delimiter nonempty =>
      cases delimiter <;>
        simp [State.initial, Scope.opened?, openings, closings, Delimiter.char]
  | dropTyped delimiter nonempty =>
      cases delimiter <;>
        simp [State.initial, Scope.opened?, openings, closings, Delimiter.char]
  | openGroup bracket =>
      rcases bracket with rfl | rfl <;> simp [Scope.opened?, openings, closings, eq_comm]
  | separate delimiter =>
      cases delimiter <;> simp [Scope.opened?, openings, closings, Delimiter.char]

/-- A step that completes a clause opens no group, and closes the one that is open. -/
theorem Transition.closes_of_complete {clause : RawClause}
    (rule : Transition whitelist size state char (.complete clause)) (position : Nat) :
    char ∉ openings ∧ state.escaped = false
      ∧ (state.scope.opened? = some position → char ∈ closings) := by
  cases rule with
  | value delimiter nonempty => cases delimiter <;> simp [Scope.opened?, openings, Delimiter.char]
  | closeGroup delimiter => cases delimiter <;> simp [openings, closings, Delimiter.closing]

/-- The group that reading is inside of is the one whose opening bracket no closing bracket
follows. -/
theorem Reached.opened?_eq_some_iff (reached : Reached whitelist chars clauses state) :
    state.scope.opened? = some position ↔ OpenAt chars position := by
  induction reached with
  | start => simp [State.initial, Scope.opened?, OpenAt, UnescapedAt]
  | read before rule induction =>
      obtain ⟨opens, unclosed⟩ := rule.opened?_of_reading position
      rw [before.escaped_iff] at opens unclosed
      rw [opens, openAt_concat, induction, and_iff_left unclosed]
  | complete before rule induction =>
      obtain ⟨noOpening, unescaped, closes⟩ := rule.closes_of_complete position
      have free := mt before.escaped_iff.2 (Bool.not_eq_true _ ▸ unescaped)
      rw [induction] at closes
      simp only [State.initial, Scope.opened?, reduceCtorEq, openAt_concat, false_iff, not_or]
      constructor
      · intro goesOn
        exact free (goesOn.2 (closes goesOn.1))
      · intro opens
        exact noOpening opens.2.1

end RecordFilter.QueryText
