import RecordFilter.FieldValue
import RecordFilter.Proofs.Clause.Construction
import RecordFilter.Proofs.Number.Grammar

/-! # Texts and the values they stand for

A clause as written can be typed only if its operator is legal, each of its texts stands for a value
of the declared type, only types that allow it have a group, and a range has its two bounds. The
typed clause keeps everything but the values.

* `FieldType.Coerces`: the values that a text stands for.
* `RawClause.Coercible`: the conditions, and `RawClause.CoercesTo`: the typed clause.
* `FieldType.ReadBy`: the types whose values a function reads from texts.
* `RawClause.means_iff`: what a clause as written stands for, value by value.
* `Clause.ofRaw_eq_ok_iff_coercesTo`, `RawClause.CoercesTo.coercible`: what is typed. -/

namespace RecordFilter

variable {α : Type} {type : FieldType} {text : String} {raw : RawClause} {comparison : Comparison}
  {clause : Clause} {read? : String → Option α} {wrap : α → FieldValue}

/-! ## Texts and their values -/

/-- The value of the type that a text stands for. -/
inductive FieldType.Coerces : FieldType → String → FieldValue → Prop
  /-- A text stands for itself. -/
  | string (text : String) : Coerces .string text (.string text)
  /-- The word for what holds. -/
  | holds : Coerces .boolean "true" (.boolean true)
  /-- The word for what does not hold. -/
  | fails : Coerces .boolean "false" (.boolean false)
  /-- A numeral stands for the number nearest to its value, if that is finite. -/
  | number {text : String} {decimal : Decimal} (numeral : Numeral text.toList decimal)
      (finite : (Binary64.ofDecimal decimal).isFinite = true) :
      Coerces .number text (.number (.ofDecimal decimal))
  /-- A date, or a date and a time, stands for an instant. -/
  | date {text : String} {instant : Instant} (reads : Instant.ofText? text = some instant) :
      Coerces .date text (.date instant)
  /-- One word for the missing value. -/
  | null : Coerces .null "null" .null
  /-- The other word for the missing value. -/
  | undefined : Coerces .null "undefined" .null

/-- The types whose values are single words. -/
def FieldType.IsWord (type : FieldType) : Prop := type = .boolean ∨ type = .null

/-- The types whose values have an order. -/
def FieldType.IsOrdered (type : FieldType) : Prop := type = .number ∨ type = .date

/-- The values of a comparison in order. The missing value is one. -/
def Comparison.fieldValues : Comparison → List FieldValue
  | string _ texts => texts.values.map .string
  | boolean _ value => [.boolean value]
  | number _ numbers => numbers.values.map .number
  | date _ instants => instants.values.map .date
  | null _ => [.null]

namespace RawClause

/-- What a clause as written has to satisfy to be typed. -/
structure Coercible (raw : RawClause) : Prop where
  /-- The operator is legal for the type. -/
  legal : raw.type.allows raw.operator = true
  /-- A word stands alone. -/
  single : raw.type.IsWord → raw.value.delimiter? = none
  /-- Every text stands for a value. -/
  values : ∀ text ∈ raw.value.values, ∃ value, raw.type.Coerces text value
  /-- A range of ordered values has two bounds. -/
  bounds : raw.type.IsOrdered → raw.operator.isRange = true → raw.value.values.length = 2

/-- The typed clause: everything but the values stays, and the values are those of the texts. -/
structure CoercesTo (raw : RawClause) (clause : Clause) : Prop where
  /-- The type stays. -/
  type : clause.type = raw.type
  /-- The field stays. -/
  field : clause.field = raw.field
  /-- The operator stays. -/
  operator : clause.operator = raw.operator
  /-- A group stays a group with its delimiter, and a single value stays one. -/
  shape : clause.comparison.delimiter? = raw.value.delimiter?
  /-- Text by text, the values are those that the texts stand for. -/
  values : List.Forall₂ raw.type.Coerces raw.value.values clause.comparison.fieldValues

end RawClause

/-! ## Reading functions -/

/-- A type whose values are what a function reads from texts. -/
def FieldType.ReadBy (type : FieldType) (read? : String → Option α) (wrap : α → FieldValue) :
    Prop :=
  ∀ text value, type.Coerces text value ↔ ∃ inner, read? text = some inner ∧ value = wrap inner

namespace FieldType

/-- Truth values are read from words. -/
theorem readBy_boolean : boolean.ReadBy flagOfWord? .boolean := by
  intro text value
  unfold flagOfWord?
  constructor
  · rintro (_ | _)
    · exact ⟨true, rfl, rfl⟩
    · exact ⟨false, rfl, rfl⟩
  · rintro ⟨flag, reads, rfl⟩
    split at reads
    · next word =>
        cases reads
        exact word ▸ .holds
    · split at reads
      · next word =>
          cases reads
          exact word ▸ .fails
      · cases reads

/-- The missing value is read from words. -/
theorem readBy_null : null.ReadBy nullOfWord? fun _ => .null := by
  intro text value
  unfold nullOfWord?
  constructor
  · rintro (_ | _)
    · exact ⟨(), rfl, rfl⟩
    · exact ⟨(), rfl, rfl⟩
  · rintro ⟨_, reads, rfl⟩
    split at reads
    · next word =>
        rcases word with rfl | rfl
        · exact .null
        · exact .undefined
    · cases reads

/-- Numbers are read from numerals, and only finite ones are. -/
theorem readBy_number : number.ReadBy Binary64.ofText? .number := by
  intro text value
  constructor
  · intro coerces
    cases coerces with
    | number numeral finite =>
        exact ⟨_, Binary64.ofText?_eq_some_iff.2 ⟨_, numeral, rfl, finite⟩, rfl⟩
  · rintro ⟨_, reads, rfl⟩
    obtain ⟨decimal, numeral, rfl, finite⟩ := Binary64.ofText?_eq_some_iff.1 reads
    exact .number numeral finite

/-- Instants are read from dates and times. -/
theorem readBy_date : date.ReadBy Instant.ofText? .date := by
  intro text value
  constructor
  · intro coerces
    cases coerces with
    | date reads => exact ⟨_, reads, rfl⟩
  · rintro ⟨_, reads, rfl⟩
    exact .date reads

/-- A text stands for a value exactly if the function reads one. -/
theorem ReadBy.exists_iff (readBy : type.ReadBy read? wrap) :
    (∃ value, type.Coerces text value) ↔ ∃ inner, read? text = some inner := by
  simp only [readBy text]
  constructor
  · rintro ⟨value, inner, reads, -⟩
    exact ⟨inner, reads⟩
  · rintro ⟨inner, reads⟩
    exact ⟨wrap inner, inner, reads, rfl⟩

end FieldType

/-! ## What a clause stands for, value by value -/

/-- Arguments are related exactly if they have one shape and their values are related in order. -/
theorem Argument.forall₂_iff {β : Type} {relation : α → β → Prop} {left : Argument α}
    {right : Argument β} :
    left.Forall₂ relation right
      ↔ right.delimiter? = left.delimiter? ∧ List.Forall₂ relation left.values right.values := by
  constructor
  · exact fun related => ⟨related.delimiter?_eq, related.values⟩
  · rintro ⟨shape, related⟩
    cases left with
    | one value =>
        cases right with
        | one other =>
            cases related with
            | cons head tail => exact .one head
        | group others delimiter => cases shape
    | group values delimiter =>
        cases right with
        | one other => cases shape
        | group others closed =>
            obtain rfl := Option.some_inj.1 shape
            exact .group _ related

/-- An argument is a single value exactly if it has no delimiter. -/
theorem Argument.delimiter?_eq_none_iff {argument : Argument α} :
    argument.delimiter? = none ↔ ∃ value, argument = .one value := by
  cases argument <;> simp [delimiter?]

/-- Values that a function reads are those that the texts stand for. -/
theorem FieldType.ReadBy.forall₂_iff (readBy : type.ReadBy read? wrap)
    (tells : Function.Injective wrap) {texts : List String} {values : List α} :
    List.Forall₂ type.Coerces texts (values.map wrap)
      ↔ List.Forall₂ (fun text value => read? text = some value) texts values := by
  rw [List.forall₂_map_right_iff]
  have same : ∀ text value, type.Coerces text (wrap value) ↔ read? text = some value := by
    intro text value
    rw [readBy]
    constructor
    · rintro ⟨inner, reads, wrapped⟩
      rwa [tells wrapped]
    · exact fun reads => ⟨value, reads, rfl⟩
  simp only [same]

/-- Texts stand for themselves. -/
theorem FieldType.forall₂_coerces_string_iff {texts others : List String} :
    List.Forall₂ string.Coerces texts (others.map .string) ↔ texts = others := by
  have same : ∀ text other, string.Coerces text (.string other) ↔ text = other := by
    intro text other
    constructor
    · rintro ⟨_⟩
      rfl
    · rintro rfl
      exact .string _
  simp only [List.forall₂_map_right_iff, same, List.forall₂_eq_eq_eq]

/-- Arguments of one shape with the same values are the same. -/
theorem Argument.eq_of_values {left right : Argument α} (shape : right.delimiter? = left.delimiter?)
    (values : left.values = right.values) : left = right := by
  cases left with
  | one value =>
      cases right with
      | one other => exact congrArg one (List.singleton_inj.1 values)
      | group others delimiter => cases shape
  | group texts delimiter =>
      cases right with
      | one other => cases shape
      | group others closed =>
          obtain rfl := Option.some_inj.1 shape
          exact congrArg (group · closed) values

/-- A clause as written stands for a comparison exactly if it has its type, operator and shape, and
its texts stand for the values. -/
theorem RawClause.means_iff :
    raw.Means comparison
      ↔ comparison.type = raw.type ∧ comparison.operator = raw.operator
        ∧ comparison.delimiter? = raw.value.delimiter?
        ∧ List.Forall₂ raw.type.Coerces raw.value.values comparison.fieldValues := by
  constructor
  · intro means
    have shape := means.delimiter?_eq
    cases means with
    | string field operator argument =>
        exact ⟨rfl, rfl, shape, FieldType.forall₂_coerces_string_iff.2 rfl⟩
    | boolean field operator reads =>
        have coerces := (FieldType.readBy_boolean _ _).2 ⟨_, reads, rfl⟩
        exact ⟨rfl, rfl, shape, .cons coerces .nil⟩
    | number field operator reads =>
        have each := (FieldType.readBy_number.forall₂_iff fun _ _ => FieldValue.number.inj).2
          reads.values
        exact ⟨rfl, rfl, shape, each⟩
    | date field operator reads =>
        have each := (FieldType.readBy_date.forall₂_iff fun _ _ => FieldValue.date.inj).2
          reads.values
        exact ⟨rfl, rfl, shape, each⟩
    | null field operator reads =>
        have coerces := (FieldType.readBy_null _ _).2 ⟨_, reads, rfl⟩
        exact ⟨rfl, rfl, shape, .cons coerces .nil⟩
  · obtain ⟨⟨type, field, operator⟩, value⟩ := raw
    rintro ⟨rfl, rfl, shape, each⟩
    cases comparison with
    | string operator texts =>
        have same : value = texts :=
          Argument.eq_of_values shape (FieldType.forall₂_coerces_string_iff.1 each)
        exact same ▸ .string field operator value
    | boolean operator flag =>
        obtain ⟨word, rfl⟩ := Argument.delimiter?_eq_none_iff.1 shape.symm
        cases each with
        | cons head tail =>
            obtain ⟨_, reads, same⟩ := (FieldType.readBy_boolean _ _).1 head
            cases same
            exact .boolean field operator reads
    | number operator numbers =>
        have reads := (FieldType.readBy_number.forall₂_iff fun _ _ => FieldValue.number.inj).1 each
        exact .number field operator (Argument.forall₂_iff.2 ⟨shape, reads⟩)
    | date operator instants =>
        have reads := (FieldType.readBy_date.forall₂_iff fun _ _ => FieldValue.date.inj).1 each
        exact .date field operator (Argument.forall₂_iff.2 ⟨shape, reads⟩)
    | null operator =>
        obtain ⟨word, rfl⟩ := Argument.delimiter?_eq_none_iff.1 shape.symm
        cases each with
        | cons head tail =>
            obtain ⟨_, reads, -⟩ := (FieldType.readBy_null _ _).1 head
            exact .null field operator reads

/-! ## Typed clauses -/

/-- A clause as written is typed exactly as the clause whose values its texts stand for. -/
theorem Clause.ofRaw_eq_ok_iff_coercesTo : ofRaw raw = .ok clause ↔ raw.CoercesTo clause := by
  rw [ofRaw_eq_ok_iff, RawClause.means_iff]
  constructor
  · rintro ⟨⟨type, operator, shape, values⟩, field⟩
    exact ⟨type, field, operator, shape, values⟩
  · rintro ⟨type, field, operator, shape, values⟩
    exact ⟨⟨type, operator, shape, values⟩, field⟩

/-- A comparison with a word has no group. -/
theorem Comparison.delimiter?_of_isWord (word : comparison.type.IsWord) :
    comparison.delimiter? = none := by
  cases comparison with
  | boolean operator value => rfl
  | null operator => rfl
  | _ => rcases word with same | same <;> cases same

/-- The values of a comparison that have an order are all of its values. -/
theorem Comparison.orderedSize?_of_isOrdered (ordered : comparison.type.IsOrdered) :
    comparison.orderedSize? = some comparison.fieldValues.length := by
  cases comparison with
  | number operator numbers => simp [orderedSize?, fieldValues, Argument.size]
  | date operator instants => simp [orderedSize?, fieldValues, Argument.size]
  | _ => rcases ordered with same | same <;> cases same

/-- What is typed is coercible. -/
theorem RawClause.CoercesTo.coercible (coerces : raw.CoercesTo clause) : raw.Coercible := by
  obtain ⟨(type : clause.comparison.type = raw.type), -,
    (operator : clause.comparison.operator = raw.operator), shape, values⟩ := coerces
  obtain ⟨legal, bounds, -⟩ := clause.valid
  refine ⟨?_, fun word => ?_, fun text member => ?_, fun ordered range => ?_⟩
  · exact type ▸ operator ▸ legal
  · exact shape.symm.trans (Comparison.delimiter?_of_isWord (type ▸ word))
  · obtain ⟨value, -, stands⟩ := exists_of_mem_left_of_forall₂ values member
    exact ⟨value, stands⟩
  · rw [values.length_eq]
    exact bounds (operator ▸ range) _ (Comparison.orderedSize?_of_isOrdered (type ▸ ordered))

end RecordFilter
