import RecordFilter.Clause.Typing
import RecordFilter.Proofs.Traversal

/-! # What the texts of a clause mean

A clause as written is given a type exactly if its texts stand for values of that type and the
comparison they make is valid. The field, the operator, the shape of the argument and the order of
the values stay as they are written.

* `Argument.Forall₂`: two arguments of one shape whose values are related one by one.
* `RawClause.Means`: the comparison that a clause as written stands for.
* `Clause.ofRaw_eq_ok_iff`: typing finds exactly that comparison. -/

namespace RecordFilter

variable {α β : Type} {raw : RawClause} {clause : Clause}

/-! ## Arguments value by value -/

/-- Two arguments have the same shape, and their values are related in order. -/
inductive Argument.Forall₂ (relation : α → β → Prop) : Argument α → Argument β → Prop
  /-- Two related values that stand alone. -/
  | one {left : α} {right : β} (related : relation left right) :
      Forall₂ relation (.one left) (.one right)
  /-- Two groups with the same delimiter and related values. -/
  | group {lefts : List α} {rights : List β} (delimiter : Delimiter)
      (related : List.Forall₂ relation lefts rights) :
      Forall₂ relation (.group lefts delimiter) (.group rights delimiter)

/-- A relation of values can be replaced by an equivalent one. -/
theorem Argument.forall₂_congr {relation other : α → β → Prop} {left : Argument α}
    {right : Argument β} (same : ∀ value result, relation value result ↔ other value result) :
    left.Forall₂ relation right ↔ left.Forall₂ other right := by
  have equal : relation = other := funext₂ fun value result => propext (same value result)
  rw [equal]

/-- The values of related arguments are related in order. -/
theorem Argument.Forall₂.values {relation : α → β → Prop} {left : Argument α} {right : Argument β}
    (related : left.Forall₂ relation right) : List.Forall₂ relation left.values right.values := by
  cases related with
  | one head => exact .cons head .nil
  | group delimiter each => exact each

/-- A relation to the values of an argument can be replaced by one that it implies there. -/
theorem Argument.Forall₂.imp_of_mem {relation other : α → β → Prop} {left : Argument α}
    {right : Argument β} (related : left.Forall₂ relation right)
    (implies : ∀ value, ∀ result ∈ right.values, relation value result → other value result) :
    left.Forall₂ other right := by
  cases related with
  | one head => exact .one (implies _ _ List.mem_cons_self head)
  | group delimiter each => exact .group delimiter (forall₂_imp_of_mem each implies)

/-- An argument is related to another one if each value of that one has a relative. -/
theorem Argument.exists_forall₂ {relation : α → β → Prop} {right : Argument β}
    (each : ∀ result ∈ right.values, ∃ value, relation value result) :
    ∃ left : Argument α, left.Forall₂ relation right := by
  cases right with
  | one result =>
      obtain ⟨value, head⟩ := each result List.mem_cons_self
      exact ⟨.one value, .one head⟩
  | group results delimiter =>
      obtain ⟨values, related⟩ := RecordFilter.exists_forall₂ each
      exact ⟨.group values delimiter, .group delimiter related⟩

/-- An argument is converted exactly if each of its values is. -/
theorem Argument.traverse_eq_ok_iff {convert : α → Except Fault β} {argument : Argument α}
    {converted : Argument β} :
    argument.traverse convert = .ok converted
      ↔ argument.Forall₂ (fun value result => convert value = .ok result) converted := by
  cases argument with
  | one value =>
      constructor
      · intro success
        cases found : convert value with
        | error fault =>
            rw [traverse, found] at success
            cases success
        | ok result =>
            rw [traverse, found] at success
            cases success
            exact .one found
      · intro related
        cases related with
        | one found =>
            rw [traverse, found]
            rfl
  | group values delimiter =>
      constructor
      · intro success
        cases found : values.mapM convert with
        | error fault =>
            rw [traverse, found] at success
            cases success
        | ok results =>
            rw [traverse, found] at success
            cases success
            exact .group delimiter (mapM_eq_ok_iff_forall₂.1 found)
      · intro related
        cases related with
        | group _ each =>
            rw [traverse, mapM_eq_ok_iff_forall₂.2 each]
            rfl

/-! ## Texts with values -/

/-- The values of a clause are read exactly if each text is. -/
theorem RawClause.readValues_eq_ok_iff {read? : String → Option α} {argument : Argument α} :
    raw.readValues read? = .ok argument
      ↔ raw.value.Forall₂ (fun text value => read? text = some value) argument := by
  rw [readValues, Argument.traverse_eq_ok_iff]
  refine Argument.forall₂_congr fun text value => ?_
  cases read? text <;> simp

/-- A word is read exactly if the operator is legal and the word stands alone and has a value. -/
theorem RawClause.readWord_eq_ok_iff {read? : String → Option α} {value : α} :
    raw.readWord read? = .ok value
      ↔ raw.type.allows raw.operator = true
        ∧ ∃ text, raw.value = .one text ∧ read? text = some value := by
  unfold readWord
  by_cases legal : raw.type.allows raw.operator = true
  · rw [if_pos legal]
    cases raw.value with
    | one text => cases found : read? text <;> simp [legal, found]
    | group texts delimiter => simp
  · simp [legal]

/-! ## Clauses with comparisons -/

/-- The comparison that a clause as written stands for. -/
inductive RawClause.Means : RawClause → Comparison → Prop
  /-- Texts stand for themselves. -/
  | string (field : String) (operator : Operator) (argument : Argument String) :
      Means ⟨⟨.string, field, operator⟩, argument⟩ (.string operator argument)
  /-- One of two words stands for a truth value. -/
  | boolean (field : String) (operator : Operator) {word : String} {value : Bool}
      (reads : flagOfWord? word = some value) :
      Means ⟨⟨.boolean, field, operator⟩, .one word⟩ (.boolean operator value)
  /-- Numerals stand for numbers. -/
  | number (field : String) (operator : Operator) {texts : Argument String}
      {numbers : Argument Binary64}
      (reads : texts.Forall₂ (fun text number => Binary64.ofText? text = some number) numbers) :
      Means ⟨⟨.number, field, operator⟩, texts⟩ (.number operator numbers)
  /-- Dates and times stand for instants. -/
  | date (field : String) (operator : Operator) {texts : Argument String}
      {instants : Argument Instant}
      (reads : texts.Forall₂ (fun text instant => Instant.ofText? text = some instant) instants) :
      Means ⟨⟨.date, field, operator⟩, texts⟩ (.date operator instants)
  /-- One of two words stands for the missing value. -/
  | null (field : String) (operator : Operator) {word : String}
      (reads : nullOfWord? word = some ()) :
      Means ⟨⟨.null, field, operator⟩, .one word⟩ (.null operator)

/-- A clause as written is typed exactly if it stands for the comparison of the clause and names its
field. -/
theorem Clause.ofRaw_eq_ok_iff :
    ofRaw raw = .ok clause ↔ raw.Means clause.comparison ∧ clause.field = raw.field := by
  obtain ⟨⟨type, field, operator⟩, value⟩ := raw
  constructor
  · intro typed
    cases type with
    | string =>
        obtain ⟨named, same⟩ := ofComparison_eq_ok_iff.1 typed
        exact ⟨same ▸ .string field operator value, named⟩
    | boolean =>
        obtain ⟨flag, read, made⟩ := bind_eq_ok_iff.1 typed
        obtain ⟨-, word, rfl, reads⟩ := RawClause.readWord_eq_ok_iff.1 read
        obtain ⟨named, same⟩ := ofComparison_eq_ok_iff.1 made
        exact ⟨same ▸ .boolean field operator reads, named⟩
    | number =>
        obtain ⟨numbers, read, made⟩ := bind_eq_ok_iff.1 typed
        obtain ⟨named, same⟩ := ofComparison_eq_ok_iff.1 made
        exact ⟨same ▸ .number field operator (RawClause.readValues_eq_ok_iff.1 read), named⟩
    | date =>
        obtain ⟨instants, read, made⟩ := bind_eq_ok_iff.1 typed
        obtain ⟨named, same⟩ := ofComparison_eq_ok_iff.1 made
        exact ⟨same ▸ .date field operator (RawClause.readValues_eq_ok_iff.1 read), named⟩
    | null =>
        obtain ⟨_, read, made⟩ := bind_eq_ok_iff.1 typed
        obtain ⟨-, word, rfl, reads⟩ := RawClause.readWord_eq_ok_iff.1 read
        obtain ⟨named, same⟩ := ofComparison_eq_ok_iff.1 made
        exact ⟨same ▸ .null field operator reads, named⟩
  · rintro ⟨means, named⟩
    -- the comparison of a clause has a legal operator and passes the checked constructor
    have legal := clause.valid.1
    have made : ofComparison field clause.comparison = .ok clause :=
      ofComparison_eq_ok_iff.2 ⟨named, rfl⟩
    generalize clause.comparison = comparison at means legal made
    cases means with
    | string => exact made
    | boolean _ _ reads =>
        exact bind_eq_ok_iff.2 ⟨_, RawClause.readWord_eq_ok_iff.2 ⟨legal, _, rfl, reads⟩, made⟩
    | number _ _ reads =>
        exact bind_eq_ok_iff.2 ⟨_, RawClause.readValues_eq_ok_iff.2 reads, made⟩
    | date _ _ reads =>
        exact bind_eq_ok_iff.2 ⟨_, RawClause.readValues_eq_ok_iff.2 reads, made⟩
    | null _ _ reads =>
        exact bind_eq_ok_iff.2 ⟨_, RawClause.readWord_eq_ok_iff.2 ⟨legal, _, rfl, reads⟩, made⟩

/-- Typing keeps the field. -/
theorem Clause.field_of_ofRaw (typed : ofRaw raw = .ok clause) : clause.field = raw.field :=
  (ofRaw_eq_ok_iff.1 typed).2

end RecordFilter
