import RecordFilter.Proofs.Time.Forms

/-! # Which texts stand for an instant

No two readings take the same text, so the order in which they are tried does not matter, and the
texts that stand for an instant are those of the four forms. They are more than the documented ones.

* `findSome?_eq_some_iff_of_apart`: the first answer of questions that exclude each other.
* `Instant.readings_apart`, `Instant.readings_in_any_order`: the order of the readings.
* `Instant.leapEndsMinute_of_ofText?`: leap seconds that are read end a minute.
* `Instant.ofText?_eq_some_iff_form`: the texts that stand for an instant.
* `DocumentedText`, `Instant.undocumented_texts_read`: the documented texts, and other ones. -/

namespace RecordFilter

variable {α β : Type} {answers : α → Option β} {questions order : List α} {text : String}
  {chars : List Char} {date : CivilDate} {instant : Instant}

/-! ## Answers that exclude each other -/

/-- If at most one question has an answer, then the first answer is any answer. -/
theorem findSome?_eq_some_iff_of_apart {answer : β}
    (apart : questions.Pairwise fun first second => answers first = none ∨ answers second = none) :
    questions.findSome? answers = some answer
      ↔ ∃ question ∈ questions, answers question = some answer := by
  refine ⟨List.exists_of_findSome?_eq_some, ?_⟩
  rintro ⟨question, member, answered⟩
  induction apart with
  | nil => cases member
  | @cons first others unanswered _ induction =>
      rw [List.findSome?_cons]
      rcases List.mem_cons.1 member with rfl | later
      · rw [answered]
      · -- the first question has no answer if a later one has
        have none : answers first = none :=
          (unanswered question later).resolve_right (by simp [answered])
        rw [none]
        exact induction later

/-- Then the order of the questions does not matter. -/
theorem findSome?_eq_of_perm (permuted : order.Perm questions)
    (apart : questions.Pairwise fun first second => answers first = none ∨ answers second = none) :
    order.findSome? answers = questions.findSome? answers := by
  have apartToo : order.Pairwise fun first second => answers first = none ∨ answers second = none :=
    (permuted.pairwise_iff Or.symm).2 apart
  ext answer
  simp only [findSome?_eq_some_iff_of_apart apart, findSome?_eq_some_iff_of_apart apartToo,
    permuted.mem_iff]

namespace Instant

/-! ## The order of the readings -/

/-- Of two forms at most one reads a text. -/
theorem Form.read_eq_none {form other : Form} (differ : form ≠ other) (chars : List Char) :
    form.read chars = none ∨ other.read chars = none := by
  cases first : form.read chars with
  | none => exact .inl rfl
  | some instant =>
      refine .inr (Option.eq_none_iff_forall_ne_some.2 fun further second => differ ?_)
      exact (Form.read_eq_some_iff.1 first).form_unique (Form.read_eq_some_iff.1 second)

/-- Of two readings at most one takes a text. -/
theorem readings_apart :
    readings.Pairwise fun first second => ∀ chars, first chars = none ∨ second chars = none := by
  have forms : [Form.offset, .letter, .space, .date].Pairwise (· ≠ ·) := by decide
  rw [readings_eq_map, List.pairwise_map]
  exact forms.imp Form.read_eq_none

/-- Of two readings at most one takes a given text. -/
theorem readings_apart_at (chars : List Char) :
    readings.Pairwise fun first second => first chars = none ∨ second chars = none :=
  readings_apart.imp fun apart => apart chars

/-- A text stands for an instant if some reading takes it so. -/
theorem ofText?_eq_some_iff_exists_mem :
    ofText? text = some instant ↔ ∃ reading ∈ readings, reading text.toList = some instant :=
  findSome?_eq_some_iff_of_apart (readings_apart_at text.toList)

/-- None of the readings is in vain. -/
theorem exists_texts_of_readings :
    ∃ texts, List.Forall₂ (fun reading chars => (reading chars).isSome = true) readings texts :=
  ⟨["2024-04-01T10:30:00Z".toList, "2024-04-01T10:30:00".toList, "2024-04-01 10:30:00".toList,
      "2024-04-01".toList],
    .cons rfl (.cons rfl (.cons rfl (.cons rfl .nil)))⟩

/-- **The order of the readings does not matter.** Each of them takes some text, but no two take the
same one, so that they give the same answer for every text, in whichever order they are tried. -/
theorem readings_in_any_order :
    (∃ texts, List.Forall₂ (fun reading chars => (reading chars).isSome = true) readings texts)
    ∧ (readings.Pairwise fun first second => ∀ chars, first chars = none ∨ second chars = none)
    ∧ ∀ order : List (List Char → Option Instant), order.Perm readings → ∀ text : String,
      (order.findSome? fun reading => reading text.toList) = ofText? text :=
  ⟨exists_texts_of_readings, readings_apart, fun _ permuted text =>
    findSome?_eq_of_perm permuted (readings_apart_at text.toList)⟩

/-- The plain date first and the offset last. -/
theorem readings_in_any_order_reversed :
    readings.reverse.Perm readings
      ∧ (readings.reverse.findSome? fun reading => reading "2024-04-01T10:30:00+02:00".toList)
        = some ⟨1711960200, 0, by decide⟩ := by
  have reversed := readings.reverse_perm
  exact ⟨reversed, readings_in_any_order.2.2 _ reversed "2024-04-01T10:30:00+02:00"⟩

end Instant

/-! ## Texts of instants -/

/-- The texts of each form are read. -/
theorem InstantText.ofText? {form : Instant.Form} (isText : InstantText form text.toList instant) :
    Instant.ofText? text = some instant :=
  Instant.ofText?_eq_some_iff_exists_mem.2
    ⟨form.read, Instant.mem_readings.2 ⟨form, rfl⟩, Instant.Form.read_eq_some_iff.2 isText⟩

/-- So are lists of characters that are made into a text. -/
theorem InstantText.ofText?_ofList {form : Instant.Form} (isText : InstantText form chars instant) :
    Instant.ofText? (String.ofList chars) = some instant :=
  ofText? (by rwa [String.toList_ofList])

/-- What is read has one of the forms. -/
theorem Instant.exists_form (read : ofText? text = some instant) :
    ∃ form, InstantText form text.toList instant := by
  obtain ⟨_, member, taken⟩ := ofText?_eq_some_iff_exists_mem.1 read
  obtain ⟨form, rfl⟩ := mem_readings.1 member
  exact ⟨form, Form.read_eq_some_iff.1 taken⟩

/-- A leap second that a text of some form stands for ends its minute. -/
theorem InstantText.leapEndsMinute {form : Instant.Form} (isText : InstantText form chars instant) :
    instant.LeapEndsMinute := by
  cases isText with
  | offset _ _ _ _ real => exact Instant.leapEndsMinute_of_ofCivil? real
  | letter _ _ _ real => exact Instant.leapEndsMinute_of_ofCivil? real
  | spaced _ _ _ _ real => exact Instant.leapEndsMinute_of_ofCivil? real
  | joined _ _ _ real => exact Instant.leapEndsMinute_of_ofCivil? real
  | date _ _ real => exact Instant.leapEndsMinute_of_ofCivil? real

/-- A leap second that is read from a text ends its minute. -/
theorem Instant.leapEndsMinute_of_ofText? (read : ofText? text = some instant) :
    instant.LeapEndsMinute := by
  obtain ⟨form, isText⟩ := exists_form read
  exact isText.leapEndsMinute

/-! ## Documented texts -/

/-- The documented texts: a strict date, alone or before a letter or a space, a strict time and, if
there is one, an offset. -/
inductive DocumentedText : List Char → Prop
  /-- The date alone. -/
  | date {chars : List Char} {date : CivilDate} (isDate : StrictDate chars date) :
      DocumentedText chars
  /-- The date and the time, with an offset or without. -/
  | time {dateChars timeChars offsetChars : List Char} {between : Char} {date : CivilDate}
      {time : TimeOfDay} (isDate : StrictDate dateChars date)
      (isBetween : between ∈ ['T', 't', ' ']) (isTime : StrictTime timeChars time)
      (isOffset : offsetChars = [] ∨ ∃ offset, OffsetText offsetChars offset) :
      DocumentedText (dateChars ++ between :: (timeChars ++ offsetChars))

/-- Texts with an offset are documented. -/
theorem InstantText.documented (isText : InstantText .offset chars instant) :
    DocumentedText chars := by
  cases isText with
  | offset isDate isBetween isTime isOffset =>
      exact .time isDate isBetween isTime (.inr ⟨_, isOffset⟩)

/-- A strict date has ten characters. -/
theorem StrictDate.length_eq (strict : StrictDate chars date) : chars.length = 10 := by
  cases strict with
  | mk isYear isMonth isDay =>
      cases isYear with
      | mk digits =>
          have year := Nat.le_antisymm digits.within digits.enough
          have month := Nat.le_antisymm isMonth.within isMonth.enough
          have day := Nat.le_antisymm isDay.within isDay.enough
          rw [List.length_append, List.length_cons, List.length_append, List.length_cons, year,
            month, day]

/-- A documented text has ten characters or more, and the next one is a letter or a space. -/
theorem DocumentedText.eleventh (documented : DocumentedText chars) :
    10 ≤ chars.length ∧ ∀ char ∈ (chars.drop 10).head?, char ∈ ['T', 't', ' '] := by
  have split : ∃ dateChars date rest, chars = dateChars ++ rest ∧ StrictDate dateChars date
      ∧ ∀ char ∈ rest.head?, char ∈ ['T', 't', ' '] := by
    cases documented with
    | date isDate => exact ⟨_, _, [], (List.append_nil _).symm, isDate, nofun⟩
    | time isDate isBetween =>
        refine ⟨_, _, _, rfl, isDate, ?_⟩
        rintro char ⟨⟩
        exact isBetween
  obtain ⟨dateChars, date, rest, rfl, isDate, first⟩ := split
  rw [List.length_append, isDate.length_eq, List.drop_left' isDate.length_eq]
  exact ⟨Nat.le_add_right 10 _, first⟩

namespace Instant

/-- **The texts that stand for an instant.** They are those of the four forms: strict numbers with a
letter or a space and an offset, or loose numbers with the letter `T`, with any white space or with
nothing between date and time, or a loose date alone. Those with an offset are documented. -/
theorem ofText?_eq_some_iff_form (text : String) (instant : Instant) :
    (ofText? text = some instant ↔ ∃ form, InstantText form text.toList instant)
    ∧ (InstantText .offset text.toList instant → DocumentedText text.toList) := by
  refine ⟨⟨exists_form, ?_⟩, ?_⟩
  · rintro ⟨form, isText⟩
    exact isText.ofText?
  · exact InstantText.documented

/-- A text with an offset. -/
theorem ofText?_eq_some_iff_form_offset :
    InstantText .offset "2024-04-01T10:30:00+02:00".toList ⟨1711960200, 0, by decide⟩
    ∧ DocumentedText "2024-04-01T10:30:00+02:00".toList := by
  have isText : InstantText .offset "2024-04-01T10:30:00+02:00".toList
      ⟨1711960200, 0, by decide⟩ := ofOffsetText?_eq_some_iff.1 rfl
  exact ⟨isText, (ofText?_eq_some_iff_form _ _).2 isText⟩

/-- A date and a time with nothing between them are read, and a date with white space before it and
with single digits. Neither text is documented. -/
theorem undocumented_texts_read :
    ofText? "2024-04-0110:30:00" = some ⟨1711967400, 0, by decide⟩
    ∧ ¬ DocumentedText "2024-04-0110:30:00".toList
    ∧ ofText? " 2024-4-1" = some ⟨1711929600, 0, by decide⟩
    ∧ ¬ DocumentedText " 2024-4-1".toList := by
  refine ⟨rfl, fun documented => ?_, rfl, fun documented => ?_⟩
  · have letter := documented.eleventh.2 '1' rfl
    revert letter
    decide
  · have length := documented.eleventh.1
    revert length
    decide

end Instant

end RecordFilter
