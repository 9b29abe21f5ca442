import RecordFilter.Proofs.Clause.Shown
import RecordFilter.Proofs.Clause.Typing
import RecordFilter.Proofs.Number.Numeral
import RecordFilter.Proofs.QueryText.Clauses
import RecordFilter.Proofs.QueryText.RoundTrip
import RecordFilter.Proofs.Time.Readings

/-! # Writing typed clauses and reading them back

Every typed clause that a query text can express is read back from each of its texts, with the same
values. A leap second inside a minute, which no text shows, is read back as the second after it.

* `Clause.Expressible`: the clauses that have a text.
* `RawClause.Writes`: the clauses as written that stand for a comparison. A number may have any
  numeral and the missing value one of two words.
* `Clause.Texts`: the texts of a list of clauses.
* `Clause.leapsEndMinutes_of_read`: the clauses of a text have no leap second inside a minute.
* `Clause.read_of_texts`: reading any of their texts gives the clauses. -/

namespace RecordFilter

open QueryText

variable {α : Type} {whitelist : Whitelist} {marks : List Char} {raw : RawClause}
  {comparison : Comparison} {clause : Clause}

/-! ## Clauses that have a text -/

/-- Whether the value of a comparison can be written: texts as they can stand in a query text,
groups with at least one value, and instants of years with four digits. -/
def Comparison.Expressible : Comparison → Prop
  | .string _ texts => WritableValue texts
  | .number _ numbers => numbers.values ≠ []
  | .date _ instants =>
      instants.values ≠ []
        ∧ ∀ instant ∈ instants.values, 0 ≤ instant.date.year ∧ instant.date.year ≤ 9999
  | .boolean _ _ | .null _ => True

/-- Whether a clause can be written under a whitelist. -/
structure Clause.Expressible (whitelist : Whitelist) (clause : Clause) : Prop where
  /-- The field has a name. -/
  field_ne : clause.field ≠ ""
  /-- The field is admitted. -/
  allowed : whitelist.allows clause.field = true
  /-- The field name can stand outside a group. -/
  field_plain : PlainText clause.field
  /-- The value can be written. -/
  value : clause.comparison.Expressible

/-! ## Clauses as written -/

/-- A clause as written that stands for a comparison, with the standard texts of its values. -/
inductive RawClause.Writes : RawClause → Comparison → Prop
  /-- Texts are written as they are. -/
  | string (field : String) (operator : Operator) (texts : Argument String) :
      Writes ⟨⟨.string, field, operator⟩, texts⟩ (.string operator texts)
  /-- Truth values are the words `true` and `false`. -/
  | boolean (field : String) (operator : Operator) (value : Bool) :
      Writes ⟨⟨.boolean, field, operator⟩, .one (if value then "true" else "false")⟩
        (.boolean operator value)
  /-- A number is any numeral that is read as the number. -/
  | number (field : String) (operator : Operator) {texts : Argument String}
      {numbers : Argument Binary64}
      (numerals : texts.Forall₂ (fun text number => Binary64.ofText? text = some number) numbers) :
      Writes ⟨⟨.number, field, operator⟩, texts⟩ (.number operator numbers)
  /-- An instant is its standard text. -/
  | date (field : String) (operator : Operator) {texts : Argument String}
      {instants : Argument Instant}
      (standard : texts.Forall₂ (fun text instant => text = instant.text) instants) :
      Writes ⟨⟨.date, field, operator⟩, texts⟩ (.date operator instants)
  /-- The missing value is one of the words `null` and `undefined`. -/
  | null (field : String) (operator : Operator) {word : String}
      (named : word = "null" ∨ word = "undefined") :
      Writes ⟨⟨.null, field, operator⟩, .one word⟩ (.null operator)

/-- A clause as written that stands for a typed clause. -/
structure RawClause.WritesClause (raw : RawClause) (clause : Clause) : Prop where
  /-- Its value is that of the comparison. -/
  comparison : raw.Writes clause.comparison
  /-- Its field is that of the clause. -/
  field : raw.field = clause.field

/-- The texts of a list of clauses: each clause as written, with escapes, and at least one separator
between two of them. -/
def Clause.Texts (clauses : List Clause) (text : String) : Prop :=
  ∃ raws, List.Forall₂ RawClause.WritesClause raws clauses ∧ Spellings raws text.toList

/-- Every finite comparison can be written. -/
theorem Comparison.exists_writes (valid : comparison.Valid) (field : String) :
    ∃ raw : RawClause, raw.Writes comparison ∧ raw.field = field := by
  cases comparison with
  | string operator texts => exact ⟨_, .string field operator texts, rfl⟩
  | boolean operator value => exact ⟨_, .boolean field operator value, rfl⟩
  | number operator numbers =>
      have finite : ∀ number ∈ numbers.values, number.isFinite = true := by
        simpa [nonFinite?] using valid.2.2
      have each : ∀ number ∈ numbers.values, ∃ text, Binary64.ofText? text = some number :=
        fun number member => ⟨_, Binary64.ofText?_expansion (finite number member)⟩
      obtain ⟨texts, numerals⟩ := Argument.exists_forall₂ each
      exact ⟨_, .number field operator numerals, rfl⟩
  | date operator instants =>
      have each : ∀ instant ∈ instants.values, ∃ text, text = instant.text :=
        fun instant _ => ⟨_, rfl⟩
      obtain ⟨texts, standard⟩ := Argument.exists_forall₂ each
      exact ⟨_, .date field operator standard, rfl⟩
  | null operator => exact ⟨_, .null field operator (.inl rfl), rfl⟩

/-! ## Written values are read back -/

/-- Values that are related to converted ones are related to the converted argument. -/
theorem Argument.Forall₂.map {β γ : Type} {relation : α → γ → Prop} {convert : β → γ}
    {left : Argument α} {right : Argument β}
    (related : left.Forall₂ (fun value result => relation value (convert result)) right) :
    left.Forall₂ relation (right.map convert) := by
  cases related with
  | one head => exact .one head
  | group delimiter each => exact .group delimiter (List.forall₂_map_right_iff.2 each)

/-- What is written for an expressible comparison stands for what it shows of the comparison. -/
theorem RawClause.Writes.means (writes : raw.Writes comparison)
    (expressible : comparison.Expressible) : raw.Means comparison.shown := by
  cases writes with
  | string field operator texts => exact .string field operator texts
  | boolean field operator value =>
      refine .boolean field operator ?_
      cases value <;> rfl
  | number field operator numerals => exact .number field operator numerals
  | date field operator standard =>
      obtain ⟨-, years⟩ := expressible
      refine .date field operator (standard.imp_of_mem ?_).map
      rintro _ instant member rfl
      obtain ⟨first, last⟩ := years instant member
      exact instant.ofText?_text first last
  | null field operator named => exact .null field operator (if_pos named)

/-! ## Written values can stand in a query text -/

/-- Digits and marks that are neither separators nor brackets can stand outside a group. The
condition is computed, so that it is evaluated on the marks. -/
theorem DigitsAnd.plainText {text : String} (only : DigitsAnd marks text.toList)
    (free : (marks.all fun mark => decide (mark ∉ [',', '|', ']', ')'])) = true) :
    PlainText text := by
  refine plainText_iff.2 fun char member => ?_
  rcases only char member with digit | mark
  · intro structural
    simp only [List.mem_cons, List.not_mem_nil, or_false] at structural
    rcases structural with rfl | rfl | rfl | rfl <;> cases digit
  · exact of_decide_eq_true (List.all_eq_true.1 free char mark)

/-- Texts of values can be written if each of them can stand alone and there is one at least. -/
theorem Argument.Forall₂.writableValue {relation : String → α → Prop} {texts : Argument String}
    {values : Argument α} (related : texts.Forall₂ relation values) (some : values.values ≠ [])
    (plain : ∀ text value, relation text value → text ≠ "" ∧ PlainText text) :
    WritableValue texts := by
  cases related with
  | one head => exact plain _ _ head
  | @group texts values delimiter each =>
      constructor
      · rintro rfl
        exact some (List.forall₂_nil_left_iff.1 each)
      · intro text member
        obtain ⟨value, -, head⟩ := exists_of_mem_of_forall₂ each.flip member
        exact fun char isChar delimiter => ((plain text value head).2 char isChar delimiter).2

/-- What is written for an expressible comparison can be written. -/
theorem RawClause.Writes.writableValue (writes : raw.Writes comparison)
    (expressible : comparison.Expressible) : WritableValue raw.value := by
  cases writes with
  | string field operator texts => exact expressible
  | boolean field operator value => cases value <;> exact ⟨by decide, by decide⟩
  | number field operator numerals =>
      refine numerals.writableValue expressible fun text number found => ⟨?_, ?_⟩
      · rintro rfl
        rw [Binary64.ofText?_empty] at found
        cases found
      · exact (Binary64.digitsAnd_of_ofText? found).plainText rfl
  | date field operator standard =>
      refine standard.writableValue expressible.1 ?_
      rintro _ instant rfl
      exact ⟨instant.text_ne_empty, instant.digitsAnd_text.plainText rfl⟩
  | null field operator named => rcases named with rfl | rfl <;> exact ⟨by decide, by decide⟩

namespace RawClause.WritesClause

/-- A clause as written for an expressible clause can be written. -/
theorem writable (writes : raw.WritesClause clause) (expressible : clause.Expressible whitelist) :
    Writable whitelist raw := by
  have value := writes.comparison.writableValue expressible.value
  obtain ⟨field_ne, allowed, field_plain, -⟩ := expressible
  rw [← writes.field] at field_ne allowed field_plain
  exact ⟨field_ne, allowed, field_plain, value⟩

/-- A clause as written for an expressible clause is typed as what it shows of that clause. -/
theorem ofRaw_eq (writes : raw.WritesClause clause) (expressible : clause.Expressible whitelist) :
    Clause.ofRaw raw = .ok clause.shown :=
  Clause.ofRaw_eq_ok_iff.2 ⟨writes.comparison.means expressible.value, writes.field.symm⟩

end RawClause.WritesClause

/-! ## Texts of clauses are read back -/

/-- The clauses of a query text have no leap second inside a minute. -/
theorem Clause.leapsEndMinutes_of_read {text : String} {clauses : List Clause}
    (accepted : read whitelist text = .ok clauses) :
    ∀ clause ∈ clauses, clause.LeapsEndMinutes := by
  intro clause member
  obtain ⟨raws, -, typed⟩ := read_eq_ok_iff.1 accepted
  obtain ⟨raw, -, found⟩ := exists_of_mem_of_forall₂ (mapM_eq_ok_iff_forall₂.1 typed) member
  obtain ⟨means, -⟩ := ofRaw_eq_ok_iff.1 found
  rw [LeapsEndMinutes]
  generalize clause.comparison = comparison at means
  cases means with
  | date field operator reads =>
      intro instant isValue
      obtain ⟨text, -, read⟩ := exists_of_mem_of_forall₂ reads.values isValue
      exact Instant.leapEndsMinute_of_ofText? read
  | _ => exact trivial

/-- **Reading undoes writing, with values.** Every list of expressible clauses has a text. Each of
its texts is read back as what it shows of the clauses, which is the same list exactly if every leap
second of the list ends its minute, so that the number 60 is written for it. -/
theorem Clause.read_of_texts (whitelist : Whitelist) (clauses : List Clause)
    (expressible : ∀ clause ∈ clauses, clause.Expressible whitelist) :
    (∃ text, Texts clauses text)
      ∧ ∀ text, Texts clauses text →
        (read whitelist text = .ok clauses ↔ ∀ clause ∈ clauses, clause.LeapsEndMinutes)
        ∧ read whitelist text = .ok (clauses.map shown) := by
  constructor
  · have each : ∀ clause ∈ clauses, ∃ raw : RawClause, raw.WritesClause clause := by
      intro clause _
      obtain ⟨raw, comparison, field⟩ := Comparison.exists_writes clause.valid clause.field
      exact ⟨raw, comparison, field⟩
    obtain ⟨raws, writes⟩ := exists_forall₂ each
    exact ⟨write raws, raws, writes, spellings_write raws⟩
  · rintro text ⟨raws, writes, spellings⟩
    have writable : ∀ raw ∈ raws, Writable whitelist raw := by
      intro raw member
      obtain ⟨clause, isClause, written⟩ := exists_of_mem_of_forall₂ writes.flip member
      exact written.writable (expressible clause isClause)
    have accepted : readRaw whitelist text = .ok raws :=
      readRaw_eq_ok_iff.2 (spellings.query writable).itemsFrom_eq
    have each : List.Forall₂ (fun raw clause => ofRaw raw = .ok clause) raws (clauses.map shown) :=
      List.forall₂_map_right_iff.2 <| forall₂_imp_of_mem writes fun raw clause member written =>
        written.ofRaw_eq (expressible clause member)
    have typed : read whitelist text = .ok (clauses.map shown) :=
      read_eq_ok_iff.2 ⟨raws, accepted, mapM_eq_ok_iff_forall₂.2 each⟩
    refine ⟨?_, typed⟩
    rw [typed, Except.ok.injEq]
    exact map_shown_eq_self_iff

/-- A leap second and a group of numerals. -/
theorem Clause.read_of_texts_leap_second_and_numerals :
    (∀ clause ∈ [(⟨"at", .date .less (.one ⟨1483228799, 1500000000, by decide⟩),
          ⟨rfl, nofun, rfl⟩⟩ : Clause),
        ⟨"n", .number .oneOf (.group [⟨true, 0x3ff8000000000000, by decide⟩, .zero] .pipe),
          ⟨rfl, nofun, rfl⟩⟩],
      clause.Expressible (.listed ["at", "n"]))
    ∧ read (.listed ["at", "n"]) "d:at:<:2016-12-31T23\\:59\\:60.500Z,,n:n:<>:[-15e-1|0)"
      = .ok [⟨"at", .date .less (.one ⟨1483228799, 1500000000, by decide⟩),
          ⟨rfl, nofun, rfl⟩⟩,
        ⟨"n", .number .oneOf (.group [⟨true, 0x3ff8000000000000, by decide⟩, .zero] .pipe),
          ⟨rfl, nofun, rfl⟩⟩] := by
  have each : ∀ clause ∈ [(⟨"at", .date .less (.one ⟨1483228799, 1500000000, by decide⟩),
        ⟨rfl, nofun, rfl⟩⟩ : Clause),
      ⟨"n", .number .oneOf (.group [⟨true, 0x3ff8000000000000, by decide⟩, .zero] .pipe),
        ⟨rfl, nofun, rfl⟩⟩],
      clause.Expressible (.listed ["at", "n"]) ∧ clause.LeapsEndMinutes := by
    intro clause member
    simp only [List.mem_cons, List.not_mem_nil, or_false] at member
    rcases member with rfl | rfl
    · constructor
      · refine ⟨by decide, by decide, by decide, List.cons_ne_nil _ _, fun instant member => ?_⟩
        obtain rfl := List.mem_singleton.1 member
        decide
      · intro instant member
        obtain rfl := List.mem_singleton.1 member
        decide
    · exact ⟨⟨by decide, by decide, by decide, List.cons_ne_nil _ _⟩, trivial⟩
  have expressible := fun clause member => (each clause member).1
  refine ⟨expressible, ((read_of_texts _ _ expressible).2 _ ?_).1.2 fun clause member =>
    (each clause member).2⟩
  refine ⟨[⟨⟨.date, "at", .less⟩, .one "2016-12-31T23:59:60.500Z"⟩,
    ⟨⟨.number, "n", .oneOf⟩, .group ["-15e-1", "0"] .pipe⟩], ?_, ?_⟩
  · have instant : "2016-12-31T23:59:60.500Z"
        = Instant.text ⟨1483228799, 1500000000, by decide⟩ := by decide +kernel
    have negative : Binary64.ofText? "-15e-1" = some ⟨true, 0x3ff8000000000000, by decide⟩ := by
      decide +kernel
    have zero : Binary64.ofText? "0" = some .zero := by decide +kernel
    exact .cons ⟨.date "at" .less (.one instant), rfl⟩ <|
      .cons ⟨.number "n" .oneOf (.group .pipe (.cons negative (.cons zero .nil))), rfl⟩ .nil
  · exact Spellings.cons (.one ⟨.date, "at", .less⟩ "2016-12-31T23:59:60.500Z")
      ((separators_singleton .comma).append (separators_singleton .comma)) (List.cons_ne_nil _ _)
      (.single (.group ⟨.number, "n", .oneOf⟩ ["-15e-1", "0"] .pipe (.inl rfl)))

end RecordFilter
