import Mathlib.Data.List.Forall2
import RecordFilter.Clause.Export
import RecordFilter.Proofs.Clause.Shown
import RecordFilter.Proofs.Time.AnyYear

/-! # What the object of a clause tells

The object of a clause tells all that is shown of the clause: its type, its field, its operator,
whether it has a group, the delimiter of the group and every value. This is the whole clause, unless
it has a leap second inside a minute. An object has a delimiter exactly if it is marked as having a
group, and exactly then its value is a list.

* `Json.member?`: the member of an object with a name.
* `Argument.toJson_eq_toJson_iff`, `Comparison.shown_eq_of_valueJson`: values of one type and shape
  are told apart.
* `Clause.toJson_eq_toJson_iff`: what objects tell.
* `Clause.toJson_tells`: all of this together. -/

namespace RecordFilter

variable {α β : Type} {comparison : Comparison}

/-! ## Members of an object -/

/-- The member of an object with the name. -/
def Json.member? (name : String) : Json → Option Json
  | object members => members.lookup name
  | _ => none

namespace Clause

variable (clause : Clause)

/-- Every object names the type of the clause. -/
theorem member?_type : clause.toJson.member? "type" = some (.string clause.type.name) := rfl

/-- Every object names the field of the clause. -/
theorem member?_field : clause.toJson.member? "field" = some (.string clause.field) := rfl

/-- Every object names the operator of the clause. -/
theorem member?_operator :
    clause.toJson.member? "operator" = some (.string clause.operator.token) := rfl

/-- Every object tells whether the clause has a group. -/
theorem member?_isMulti :
    clause.toJson.member? "isMulti" = some (.boolean clause.comparison.isGroup) := rfl

/-- An object names the delimiter of a group, and nothing where there is none. -/
theorem member?_groupDelimiter :
    clause.toJson.member? "groupDelimiter" = clause.comparison.delimiter?.map Delimiter.toJson := by
  unfold toJson Json.member?
  cases clause.comparison.delimiter? <;> rfl

/-- Every object has the value of the clause, with and without a delimiter before it. -/
theorem member?_value :
    clause.toJson.member? "value" = some clause.comparison.valueJson := by
  unfold toJson Json.member?
  cases clause.comparison.delimiter? <;> rfl

end Clause

/-! ## Values -/

/-- The types have different names. -/
theorem FieldType.name_injective {left right : FieldType} (same : left.name = right.name) :
    left = right := by
  revert same
  cases left <;> cases right <;> decide

/-- The delimiters are different texts. -/
theorem Delimiter.toJson_injective : Function.Injective Delimiter.toJson := by
  intro left right same
  have texts : toString left.char = toString right.char := Json.string.inj same
  revert texts
  cases left <;> cases right <;> decide

/-- Arguments of one shape are told apart as far as their values are. -/
theorem Argument.toJson_eq_toJson_iff {convert : α → Json} {told : α → β}
    (tells : ∀ value other, convert value = convert other ↔ told value = told other)
    {left right : Argument α} (shape : left.delimiter? = right.delimiter?) :
    left.toJson convert = right.toJson convert ↔ left.map told = right.map told := by
  cases left with
  | one value =>
      cases right with
      | one other =>
          rw [toJson, toJson, map, map, one.injEq]
          exact tells value other
      | group others delimiter => cases shape
  | group values delimiter =>
      cases right with
      | one other => cases shape
      | group others closed =>
          obtain rfl := Option.some_inj.1 shape
          rw [toJson, toJson, map, map, group.injEq, and_iff_left rfl, Json.array.injEq]
          -- lists of answers are equal exactly if the answers are equal one by one
          simp only [← List.forall₂_eq_eq_eq, List.forall₂_map_left_iff,
            List.forall₂_map_right_iff, tells]

/-- Arguments of one shape are told apart by answers that tell their values apart. -/
theorem Argument.eq_of_toJson_eq {convert : α → Json} (injective : Function.Injective convert)
    {left right : Argument α} (shape : left.delimiter? = right.delimiter?)
    (same : left.toJson convert = right.toJson convert) : left = right := by
  have told : left.map id = right.map id :=
    (toJson_eq_toJson_iff (fun _ _ => injective.eq_iff) shape).1 same
  rwa [map_id, map_id] at told

/-- What is told of converted values is told of the values. -/
theorem Argument.toJson_map (convert : β → Json) (change : α → β) (argument : Argument α) :
    (argument.map change).toJson convert = argument.toJson (convert ∘ change) := by
  cases argument with
  | one value => rfl
  | group values delimiter => rw [map, toJson, toJson, List.map_map]

/-- An argument is a list exactly if it is a group, as no value is a list. -/
theorem Argument.exists_toJson_eq_array_iff {convert : α → Json} {argument : Argument α}
    (scalar : ∀ value elements, convert value ≠ .array elements) :
    (∃ elements, argument.toJson convert = .array elements) ↔ argument.delimiter?.isSome := by
  cases argument with
  | one value =>
      constructor
      · rintro ⟨elements, list⟩
        exact absurd list (scalar value elements)
      · exact nofun
  | group values delimiter => exact ⟨fun _ => rfl, fun _ => ⟨_, rfl⟩⟩

/-- Texts as values are told apart as what they show is. -/
theorem Instant.string_text_eq_iff (value other : Instant) :
    Json.string value.text = Json.string other.text ↔ value.shown = other.shown := by
  rw [Json.string.injEq]
  exact text_eq_text_iff

namespace Comparison

/-- The value of a comparison is a list exactly if the comparison has a group. -/
theorem exists_valueJson_eq_array_iff :
    (∃ elements, comparison.valueJson = .array elements) ↔ comparison.isGroup = true := by
  cases comparison with
  | string operator texts => exact Argument.exists_toJson_eq_array_iff nofun
  | number operator numbers => exact Argument.exists_toJson_eq_array_iff nofun
  | date operator instants => exact Argument.exists_toJson_eq_array_iff nofun
  | boolean operator value => exact ⟨nofun, nofun⟩
  | null operator => exact ⟨nofun, nofun⟩

/-- The value tells what is shown of a comparison. -/
theorem valueJson_shown (comparison : Comparison) :
    comparison.shown.valueJson = comparison.valueJson := by
  cases comparison with
  | date operator instants =>
      rw [shown, valueJson, valueJson, Argument.toJson_map]
      congr 1
      funext instant
      show Json.string instant.shown.text = _
      rw [Instant.text_shown]
  | _ => rfl

/-- Of comparisons of one type, operator and shape with one value the same is shown. -/
theorem shown_eq_of_valueJson {left right : Comparison} (type : left.type = right.type)
    (operator : left.operator = right.operator) (shape : left.delimiter? = right.delimiter?)
    (value : left.valueJson = right.valueJson) : left.shown = right.shown := by
  -- another type on the right is refuted by the first hypothesis
  cases left with
  | string used texts =>
      cases right with
      | string other others =>
          obtain rfl : used = other := operator
          exact congrArg (string used)
            (Argument.eq_of_toJson_eq (fun _ _ => Json.string.inj) shape value)
      | _ => cases type
  | boolean used flag =>
      cases right with
      | boolean other second =>
          obtain rfl : used = other := operator
          exact congrArg (boolean used) (Json.boolean.inj value)
      | _ => cases type
  | number used numbers =>
      cases right with
      | number other others =>
          obtain rfl : used = other := operator
          exact congrArg (number used)
            (Argument.eq_of_toJson_eq (fun _ _ => Json.number.inj) shape value)
      | _ => cases type
  | date used instants =>
      cases right with
      | date other others =>
          obtain rfl : used = other := operator
          have instants_eq :=
            (Argument.toJson_eq_toJson_iff Instant.string_text_eq_iff shape).1 value
          exact congrArg (date used) instants_eq
      | _ => cases type
  | null used =>
      cases right with
      | null other => exact congrArg null operator
      | _ => cases type

end Comparison

namespace Clause

/-! ## Whole objects -/

/-- The object tells what is shown of a clause. -/
theorem toJson_shown (clause : Clause) : clause.shown.toJson = clause.toJson := by
  have type : clause.shown.type = clause.type := clause.comparison.type_shown
  have operator : clause.shown.operator = clause.operator := clause.comparison.operator_shown
  have delimiter : clause.shown.comparison.delimiter? = clause.comparison.delimiter? :=
    clause.comparison.delimiter?_shown
  have value : clause.shown.comparison.valueJson = clause.comparison.valueJson :=
    clause.comparison.valueJson_shown
  rw [toJson, toJson, Comparison.isGroup, Comparison.isGroup, type, operator, delimiter, value]
  rfl

/-- Of clauses with the same object the same is shown. -/
theorem shown_eq_of_toJson_eq {left right : Clause} (same : left.toJson = right.toJson) :
    left.shown = right.shown := by
  have members (name : String) : left.toJson.member? name = right.toJson.member? name :=
    congrArg (Json.member? name) same
  have type := members "type"
  have field := members "field"
  have operator := members "operator"
  have delimiter := members "groupDelimiter"
  have value := members "value"
  rw [member?_type, member?_type] at type
  rw [member?_field, member?_field] at field
  rw [member?_operator, member?_operator] at operator
  rw [member?_groupDelimiter, member?_groupDelimiter] at delimiter
  rw [member?_value, member?_value] at value
  -- each part is told by its member
  have sameType := FieldType.name_injective (Json.string.inj (Option.some_inj.1 type))
  have sameField := Json.string.inj (Option.some_inj.1 field)
  have sameOperator := Operator.token_injective (Json.string.inj (Option.some_inj.1 operator))
  have sameShape := Option.map_injective Delimiter.toJson_injective delimiter
  have sameShown := Comparison.shown_eq_of_valueJson sameType sameOperator sameShape
    (Option.some_inj.1 value)
  rw [shown, shown, mk.injEq]
  exact ⟨sameField, sameShown⟩

/-- Two clauses have the same object exactly if the same is shown of them. -/
theorem toJson_eq_toJson_iff {left right : Clause} :
    left.toJson = right.toJson ↔ left.shown = right.shown := by
  constructor
  · exact shown_eq_of_toJson_eq
  · intro same
    rw [← toJson_shown left, same, toJson_shown]

/-- **The object of a clause tells the clause.** Two clauses whose leap seconds end their minutes
have the same object exactly if they are the same, in type, field, operator, shape, delimiter and
every value. The text of an instant in a leap second inside a minute is that of the second after it,
so in general the same is shown of two clauses with the same object. In every object there is a
delimiter exactly if it is marked as having a group, and it is so marked exactly if its value is a
list. -/
theorem toJson_tells (left right : Clause) :
    (left.LeapsEndMinutes → right.LeapsEndMinutes → (left.toJson = right.toJson ↔ left = right))
    ∧ (left.toJson = right.toJson ↔ left.shown = right.shown)
    ∧ ∀ clause : Clause,
      ((∃ delimiter, clause.toJson.member? "groupDelimiter" = some delimiter)
        ↔ clause.toJson.member? "isMulti" = some (.boolean true))
      ∧ (clause.toJson.member? "isMulti" = some (.boolean true)
        ↔ ∃ elements, clause.toJson.member? "value" = some (.array elements)) := by
  refine ⟨?_, toJson_eq_toJson_iff, fun clause => ⟨?_, ?_⟩⟩
  · intro leftEnds rightEnds
    rw [toJson_eq_toJson_iff, shown_eq_self_iff.2 leftEnds, shown_eq_self_iff.2 rightEnds]
  · rw [member?_groupDelimiter, member?_isMulti, Comparison.isGroup]
    cases clause.comparison.delimiter? <;> simp
  · simp only [member?_isMulti, member?_value, Option.some_inj, Json.boolean.injEq,
      Comparison.exists_valueJson_eq_array_iff]

/-- A leap second and the second after it. -/
theorem toJson_tells_leap_second :
    Comparison.LeapsEndMinutes (.date .equal (.one ⟨1483228799, 1000000000, by decide⟩))
    ∧ Comparison.LeapsEndMinutes (.date .equal (.one ⟨1483228800, 0, by decide⟩))
    ∧ toJson ⟨"at", .date .equal (.one ⟨1483228799, 1000000000, by decide⟩), ⟨rfl, nofun, rfl⟩⟩
      ≠ toJson ⟨"at", .date .equal (.one ⟨1483228800, 0, by decide⟩), ⟨rfl, nofun, rfl⟩⟩ := by
  have leap : Comparison.LeapsEndMinutes
      (.date .equal (.one ⟨1483228799, 1000000000, by decide⟩)) := by
    intro instant member
    obtain rfl := List.mem_singleton.1 member
    decide
  have regular : Comparison.LeapsEndMinutes
      (.date .equal (.one ⟨1483228800, 0, by decide⟩)) := by
    intro instant member
    obtain rfl := List.mem_singleton.1 member
    decide
  refine ⟨leap, regular, fun same => ?_⟩
  obtain ⟨told, -⟩ := toJson_tells
    ⟨"at", .date .equal (.one ⟨1483228799, 1000000000, by decide⟩), ⟨rfl, nofun, rfl⟩⟩
    ⟨"at", .date .equal (.one ⟨1483228800, 0, by decide⟩), ⟨rfl, nofun, rfl⟩⟩
  exact absurd ((told leap regular).1 same) (by decide)

end Clause

end RecordFilter
