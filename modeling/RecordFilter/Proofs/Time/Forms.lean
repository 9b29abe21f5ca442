import RecordFilter.Proofs.Time.TimeText

/-! # The grammar of instants

The texts that stand for an instant, in four forms, one for each way in which texts are read. The
forms are told apart by what follows the date, so that no text has two of them.

* `Instant.Form`, `InstantText`: the four forms and their texts.
* `InstantText.form_unique`: a text has one form.
* `Instant.Form.read_eq_some_iff`: each reading takes exactly the texts of its form.
* `Instant.ofText?_eq_some_iff_exists_form`: the texts that stand for an instant. -/

namespace RecordFilter

variable {text chars rest : List Char} {date : CivilDate} {time : TimeOfDay} {instant : Instant}

/-! ## Forms -/

/-- The forms of a text of an instant, by what follows the date. -/
inductive Instant.Form where
  /-- A letter or a space, a time of day and an offset. -/
  | offset
  /-- The letter `T` and a time of day. -/
  | letter
  /-- White space, which may be missing, and a time of day. -/
  | space
  /-- Nothing. -/
  | date
  deriving DecidableEq

open Instant (Form)

/-- The texts of each form, with their instants. A day directly before a time has two digits. -/
inductive InstantText : Form → List Char → Instant → Prop
  /-- Every number has all of its digits, and the offset is taken off. -/
  | offset {dateChars timeChars offsetChars : List Char} {between : Char} {date : CivilDate}
      {time : TimeOfDay} {offset : Int} {instant : Instant} (isDate : StrictDate dateChars date)
      (isBetween : between ∈ ['T', 't', ' ']) (isTime : StrictTime timeChars time)
      (isOffset : OffsetText offsetChars offset)
      (real : Instant.ofCivil? date time offset = some instant) :
      InstantText .offset (dateChars ++ between :: (timeChars ++ offsetChars)) instant
  /-- The letter between date and time. -/
  | letter {dateChars timeChars : List Char} {date : CivilDate} {time : TimeOfDay}
      {instant : Instant} (isDate : LooseDate 1 dateChars date)
      (held : Loose.yearInRange date.year = true) (isTime : LooseTime timeChars time)
      (real : Instant.ofCivil? date time 0 = some instant) :
      InstantText .letter (dateChars ++ 'T' :: timeChars) instant
  /-- White space between date and time. -/
  | spaced {dateChars timeChars : List Char} {blank : Char} {date : CivilDate} {time : TimeOfDay}
      {instant : Instant} (isDate : LooseDate 1 dateChars date)
      (held : Loose.yearInRange date.year = true) (isBlank : isWhiteSpace blank = true)
      (isTime : LooseTime timeChars time) (real : Instant.ofCivil? date time 0 = some instant) :
      InstantText .space (dateChars ++ blank :: timeChars) instant
  /-- Nothing between date and time. -/
  | joined {dateChars timeChars : List Char} {date : CivilDate} {time : TimeOfDay}
      {instant : Instant} (isDate : LooseDate 2 dateChars date)
      (held : Loose.yearInRange date.year = true) (isTime : LooseTime timeChars time)
      (real : Instant.ofCivil? date time 0 = some instant) :
      InstantText .space (dateChars ++ timeChars) instant
  /-- The date alone, at midnight. -/
  | date {chars : List Char} {date : CivilDate} {instant : Instant}
      (isDate : LooseDate 1 chars date) (held : Loose.yearInRange date.year = true)
      (real : Instant.ofCivil? date .midnight 0 = some instant) : InstantText .date chars instant

/-! ## One form for each text -/

/-- Whether the whole text is taken as a time of day. -/
def Loose.endsWithTime (text : List Char) : Bool :=
  (takeTime? text).any fun (_, rest) => rest.isEmpty

/-- The form that a text must have if it goes on like this after its date. -/
def Instant.Form.ofRest : List Char → Form
  | [] => .date
  | head :: rest =>
      if head = 'T' then if Loose.endsWithTime rest then .letter else .offset
      else if Loose.endsWithTime (head :: rest) then .space else .offset

namespace Loose

/-- A loose time is taken as one. -/
theorem endsWithTime_of_looseTime (isTime : LooseTime chars time) : endsWithTime chars = true := by
  rw [endsWithTime, takeTime?_eq_some_nil_iff.2 isTime]
  rfl

/-- A strict time with an offset is taken as a time with something after it. -/
theorem endsWithTime_strict_append {offset : Int} (isTime : StrictTime chars time)
    (isOffset : OffsetText rest offset) : endsWithTime (chars ++ rest) = false := by
  have taken : takeTime? (chars ++ rest) = some (time, rest) :=
    takesNumber_loose.takeTimeBy? isTime.loose isOffset.endsTime
  rw [endsWithTime, taken]
  exact List.isEmpty_eq_false_iff.2 isOffset.ne_nil

/-- Before a time of day there is no letter. -/
theorem endsWithTime_letter (text : List Char) :
    endsWithTime ('T' :: text) = false ∧ endsWithTime ('t' :: text) = false := by
  have upper : takeTime? ('T' :: text) = none := rfl
  have lower : takeTime? ('t' :: text) = none := rfl
  rw [endsWithTime, endsWithTime, upper, lower]
  exact ⟨rfl, rfl⟩

/-- A space before it does not matter. -/
theorem endsWithTime_space (text : List Char) : endsWithTime (' ' :: text) = endsWithTime text := by
  have blank : ∀ char ∈ [' '], isWhiteSpace char = true := List.forall_mem_singleton.2 rfl
  have same : takeTime? (' ' :: text) = takeTime? text := takeTime?_space blank text
  rw [endsWithTime, same, ← endsWithTime]

end Loose

/-- Before a loose time there can only be white space. -/
theorem Instant.Form.ofRest_of_looseTime (isTime : LooseTime chars time) :
    ofRest chars = .space := by
  have ends := Loose.endsWithTime_of_looseTime isTime
  cases chars with
  | nil => cases ends
  | cons head rest =>
      have other : head ≠ 'T' := by
        rintro rfl
        rw [(Loose.endsWithTime_letter rest).1] at ends
        cases ends
      rw [ofRest, if_neg other, ends, if_pos rfl]

namespace InstantText

/-- The loose date of a text of an instant is followed by what tells its form. -/
theorem exists_rest {form : Form} (isText : InstantText form text instant) :
    ∃ date rest, Loose.takeDate? text = some (date, rest) ∧ Form.ofRest rest = form := by
  cases isText with
  | @offset dateChars timeChars offsetChars between date _ _ _ isDate isBetween isTime isOffset =>
      refine ⟨date, between :: (timeChars ++ offsetChars),
        Loose.takeDate?_eq_some_iff.2 ⟨dateChars, rfl, isDate.yearInRange, .inr isDate.loose⟩, ?_⟩
      -- the loose time, if any, is not the whole rest, because the offset follows it
      have more := Loose.endsWithTime_strict_append isTime isOffset
      have last : between = 'T' ∨ between = 't' ∨ between = ' ' := by simpa using isBetween
      rcases last with rfl | rfl | rfl
      · rw [Form.ofRest, if_pos rfl, more]
        rfl
      · rw [Form.ofRest, if_neg (by decide), (Loose.endsWithTime_letter _).2]
        rfl
      · rw [Form.ofRest, if_neg (by decide), Loose.endsWithTime_space, more]
        rfl
  | @letter dateChars timeChars date _ _ isDate held isTime =>
      refine ⟨date, 'T' :: timeChars,
        Loose.takeDate?_eq_some_iff.2 ⟨dateChars, rfl, held, .inl ⟨isDate, .cons rfl⟩⟩, ?_⟩
      rw [Form.ofRest, if_pos rfl, Loose.endsWithTime_of_looseTime isTime, if_pos rfl]
  | @spaced dateChars timeChars blank date _ _ isDate held isBlank isTime =>
      have ends : NoDigitFirst (blank :: timeChars) := .of_isWhiteSpace isBlank
      exact ⟨date, blank :: timeChars,
        Loose.takeDate?_eq_some_iff.2 ⟨dateChars, rfl, held, .inl ⟨isDate, ends⟩⟩,
        Form.ofRest_of_looseTime (isTime.cons isBlank)⟩
  | @joined dateChars timeChars date _ _ isDate held isTime =>
      exact ⟨date, timeChars, Loose.takeDate?_eq_some_iff.2 ⟨dateChars, rfl, held, .inr isDate⟩,
        Form.ofRest_of_looseTime isTime⟩
  | @date chars date _ isDate held =>
      have whole : text = text ++ [] := (List.append_nil text).symm
      exact ⟨date, [],
        Loose.takeDate?_eq_some_iff.2 ⟨text, whole, held, .inl ⟨isDate, nofun⟩⟩, rfl⟩

/-- **A text of an instant has one form.** -/
theorem form_unique {form other : Form} {further : Instant} (isText : InstantText form text instant)
    (isOther : InstantText other text further) : form = other := by
  obtain ⟨date, rest, taken, same⟩ := isText.exists_rest
  obtain ⟨_, _, takenOther, sameOther⟩ := isOther.exists_rest
  rw [taken] at takenOther
  cases takenOther
  rw [← same, sameOther]

end InstantText

/-! ## Readings -/

namespace Instant

/-- The reading for each form. -/
def Form.read : Form → List Char → Option Instant
  | .offset => ofOffsetText?
  | .letter => ofLocalText? (takeChar? 'T')
  | .space => ofLocalText? (some ∘ dropWhiteSpace)
  | .date => ofDateText?

/-- The readings, by their forms, in the order they are tried. -/
theorem readings_eq_map : readings = [Form.offset, .letter, .space, .date].map Form.read := rfl

/-- The readings are those of the forms. -/
theorem mem_readings {reading : List Char → Option Instant} :
    reading ∈ readings ↔ ∃ form : Form, form.read = reading := by
  rw [readings_eq_map, List.mem_map]
  constructor
  · rintro ⟨form, -, same⟩
    exact ⟨form, same⟩
  · rintro ⟨form, same⟩
    exact ⟨form, by cases form <;> decide, same⟩

/-- The characters that may stand between date and time. -/
theorem isBetween_eq_true_iff {char : Char} :
    Strict.isBetween char = true ↔ char ∈ ['T', 't', ' '] := by
  simp [Strict.isBetween, or_assoc]

/-- The reading with an offset takes the texts of its form. -/
theorem ofOffsetText?_eq_some_iff :
    ofOffsetText? text = some instant ↔ InstantText .offset text instant := by
  constructor
  · intro read
    simp only [ofOffsetText?, Option.bind_eq_bind, Option.bind_eq_some_iff, Prod.exists,
      Strict.takeDate?_eq_some_iff] at read
    obtain ⟨date, _, ⟨dateChars, rfl, isDate⟩, read⟩ := read
    split at read
    · next between rest =>
        simp only [Option.ite_none_right_eq_some, isBetween_eq_true_iff, Option.bind_eq_some_iff,
          Prod.exists, Strict.takeTime?_eq, Strict.offset?_eq_some_iff] at read
        obtain ⟨isBetween, time, offsetChars, taken, offset, isOffset, real⟩ := read
        obtain ⟨timeChars, rfl, isTime⟩ := takesNumber_strict.exists_timeText taken
        exact .offset isDate isBetween isTime isOffset real
    · cases read
  · intro isText
    cases isText with
    | offset isDate isBetween isTime isOffset real =>
        have taken := takesNumber_strict.takeTimeBy? isTime isOffset.endsTime
        simp only [ofOffsetText?, Strict.takeDate?_eq_some_iff.2 ⟨_, rfl, isDate⟩,
          isBetween_eq_true_iff.2 isBetween, if_true, Strict.takeTime?_eq, taken,
          Strict.offset?_eq_some_iff.2 isOffset, Option.bind_eq_bind, Option.bind_some, real]

/-- A reading without an offset takes a loose date, a separator and a loose time. -/
theorem ofLocalText?_eq_some_iff {separator? : List Char → Option (List Char)} :
    ofLocalText? separator? text = some instant
      ↔ ∃ date rest timeChars time, Loose.takeDate? text = some (date, rest)
        ∧ separator? rest = some timeChars ∧ LooseTime timeChars time
        ∧ ofCivil? date time 0 = some instant := by
  simp only [ofLocalText?, Option.bind_eq_bind, Option.bind_eq_some_iff, Prod.exists,
    Option.ite_none_right_eq_some]
  constructor
  · rintro ⟨date, rest, takenDate, timeChars, separated, time, _, takenTime, rfl, real⟩
    exact ⟨date, rest, timeChars, time, takenDate, separated,
      Loose.takeTime?_eq_some_nil_iff.1 takenTime, real⟩
  · rintro ⟨date, rest, timeChars, time, takenDate, separated, isTime, real⟩
    exact ⟨date, rest, takenDate, timeChars, separated, time, [],
      Loose.takeTime?_eq_some_nil_iff.2 isTime, rfl, real⟩

/-- The reading with a letter takes the texts of its form. -/
theorem ofLetterText?_eq_some_iff :
    ofLocalText? (takeChar? 'T') text = some instant ↔ InstantText .letter text instant := by
  simp only [ofLocalText?_eq_some_iff, Loose.takeDate?_eq_some_iff, takeChar?_eq_some_iff]
  constructor
  · rintro ⟨date, _, timeChars, time, ⟨dateChars, rfl, held, isDate⟩, rfl, isTime, real⟩
    refine .letter ?_ held isTime real
    rcases isDate with ⟨isDate, -⟩ | isDate
    · exact isDate
    · exact isDate.one
  · intro isText
    cases isText with
    | letter isDate held isTime real =>
        exact ⟨_, _, _, _, ⟨_, rfl, held, .inl ⟨isDate, .cons rfl⟩⟩, rfl, isTime, real⟩

/-- The reading with white space takes the texts of its form. -/
theorem ofSpaceText?_eq_some_iff :
    ofLocalText? (some ∘ dropWhiteSpace) text = some instant
      ↔ InstantText .space text instant := by
  simp only [ofLocalText?_eq_some_iff, Loose.takeDate?_eq_some_iff, Function.comp_apply,
    Option.some.injEq]
  constructor
  · rintro ⟨date, rest, _, time, ⟨dateChars, rfl, held, isDate⟩, rfl, isTime, real⟩
    rw [LooseTime.dropWhiteSpace_iff] at isTime
    -- without two digits of the day, the time cannot begin with a digit
    rcases isDate with ⟨isDate, noDigit⟩ | isDate
    · obtain ⟨blank, timeChars, rfl, isBlank, isTime⟩ := isTime.exists_blank noDigit
      exact .spaced isDate held isBlank isTime real
    · exact .joined isDate held isTime real
  · intro isText
    cases isText with
    | spaced isDate held isBlank isTime real =>
        exact ⟨_, _, _, _, ⟨_, rfl, held, .inl ⟨isDate, .of_isWhiteSpace isBlank⟩⟩, rfl,
          LooseTime.dropWhiteSpace_iff.2 (isTime.cons isBlank), real⟩
    | joined isDate held isTime real =>
        exact ⟨_, _, _, _, ⟨_, rfl, held, .inr isDate⟩, rfl,
          LooseTime.dropWhiteSpace_iff.2 isTime, real⟩

/-- The reading of a date alone takes the texts of its form. -/
theorem ofDateText?_eq_some_iff :
    ofDateText? text = some instant ↔ InstantText .date text instant := by
  simp only [ofDateText?, Option.bind_eq_bind, Option.bind_eq_some_iff, Prod.exists,
    Option.ite_none_right_eq_some, Loose.takeDate?_eq_some_iff]
  constructor
  · rintro ⟨date, _, ⟨dateChars, rfl, held, isDate⟩, rfl, real⟩
    rw [List.append_nil]
    rcases isDate with ⟨isDate, -⟩ | isDate
    · exact .date isDate held real
    · exact .date isDate.one held real
  · intro isText
    cases isText with
    | date isDate held real =>
        exact ⟨_, [], ⟨_, (List.append_nil _).symm, held, .inl ⟨isDate, nofun⟩⟩, rfl, real⟩

/-- **Each reading takes exactly the texts of its form.** -/
theorem Form.read_eq_some_iff {form : Form} :
    form.read text = some instant ↔ InstantText form text instant := by
  cases form with
  | offset => exact ofOffsetText?_eq_some_iff
  | letter => exact ofLetterText?_eq_some_iff
  | space => exact ofSpaceText?_eq_some_iff
  | date => exact ofDateText?_eq_some_iff

end Instant

end RecordFilter
