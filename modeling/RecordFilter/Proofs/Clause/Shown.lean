import RecordFilter.Clause.Basic
import RecordFilter.Proofs.Time.RoundTrip

/-! # What the texts of a clause show of it

Of all values only an instant is not told by its text, and only if it lies in a leap second inside a
minute. What the texts show of a clause is the clause with such instants replaced.

* `Argument.map`: convert every value of an argument, keeping its shape.
* `Clause.shown`: what the texts show of a clause.
* `Clause.LeapsEndMinutes`: the condition under which they show the clause itself
  (`Clause.shown_eq_self_iff`). -/

namespace RecordFilter

variable {α β : Type}

/-! ## Converted arguments -/

namespace Argument

/-- Convert every value, keeping the shape. -/
def map (convert : α → β) : Argument α → Argument β
  | one value => one (convert value)
  | group values delimiter => group (values.map convert) delimiter

@[simp] theorem values_map (convert : α → β) (argument : Argument α) :
    (argument.map convert).values = argument.values.map convert := by
  cases argument <;> rfl

@[simp] theorem delimiter?_map (convert : α → β) (argument : Argument α) :
    (argument.map convert).delimiter? = argument.delimiter? := by
  cases argument <;> rfl

@[simp] theorem size_map (convert : α → β) (argument : Argument α) :
    (argument.map convert).size = argument.size := by
  rw [size, values_map, List.length_map, ← size]

/-- An argument stays as it is exactly if each of its values does. -/
theorem map_eq_self_iff {convert : α → α} {argument : Argument α} :
    argument.map convert = argument ↔ ∀ value ∈ argument.values, convert value = value := by
  cases argument with
  | one value => simp [map]
  | group values delimiter =>
      have whole : values.map id = values := List.map_id values
      rw [map, group.injEq, and_iff_left rfl]
      nth_rewrite 2 [← whole]
      exact List.map_inj_left

@[simp] theorem map_id (argument : Argument α) : argument.map id = argument :=
  map_eq_self_iff.2 fun _ _ => rfl

end Argument

/-! ## What is shown -/

namespace Comparison

variable {comparison : Comparison}

/-- The leap seconds of a comparison end their minutes. -/
def LeapsEndMinutes : Comparison → Prop
  | date _ instants => ∀ instant ∈ instants.values, instant.LeapEndsMinute
  | string _ _ | boolean _ _ | number _ _ | null _ => True

/-- What the texts of its values show of a comparison. -/
def shown : Comparison → Comparison
  | date operator instants => date operator (instants.map Instant.shown)
  | comparison => comparison

@[simp] theorem type_shown (comparison : Comparison) : comparison.shown.type = comparison.type := by
  cases comparison <;> rfl

@[simp] theorem operator_shown (comparison : Comparison) :
    comparison.shown.operator = comparison.operator := by
  cases comparison <;> rfl

@[simp] theorem delimiter?_shown (comparison : Comparison) :
    comparison.shown.delimiter? = comparison.delimiter? := by
  cases comparison with
  | date operator instants => exact instants.delimiter?_map _
  | _ => rfl

@[simp] theorem orderedSize?_shown (comparison : Comparison) :
    comparison.shown.orderedSize? = comparison.orderedSize? := by
  cases comparison with
  | date operator instants => exact congrArg some (instants.size_map _)
  | _ => rfl

@[simp] theorem nonFinite?_shown (comparison : Comparison) :
    comparison.shown.nonFinite? = comparison.nonFinite? := by
  cases comparison <;> rfl

/-- What is shown of a valid comparison is valid. -/
theorem Valid.shown (valid : comparison.Valid) : comparison.shown.Valid := by
  rw [Valid, type_shown, operator_shown, orderedSize?_shown, nonFinite?_shown]
  exact valid

/-- A comparison is shown as it is exactly if its leap seconds end their minutes. -/
theorem shown_eq_self_iff : comparison.shown = comparison ↔ comparison.LeapsEndMinutes := by
  cases comparison with
  | date operator instants =>
      rw [Comparison.shown, date.injEq, and_iff_right rfl, Argument.map_eq_self_iff]
      exact forall₂_congr fun instant _ => Instant.shown_eq_self_iff
  | _ => exact iff_of_true rfl trivial

end Comparison

namespace Clause

variable {clause : Clause}

/-- The leap seconds of a clause end their minutes. -/
def LeapsEndMinutes (clause : Clause) : Prop := clause.comparison.LeapsEndMinutes

/-- What the texts of its values show of a clause. -/
def shown (clause : Clause) : Clause :=
  ⟨clause.field, clause.comparison.shown, clause.valid.shown⟩

/-- A clause is shown as it is exactly if its leap seconds end their minutes. -/
theorem shown_eq_self_iff : clause.shown = clause ↔ clause.LeapsEndMinutes := by
  obtain ⟨field, comparison, valid⟩ := clause
  rw [shown, mk.injEq, and_iff_right rfl]
  exact Comparison.shown_eq_self_iff

/-- Clauses are shown as they are exactly if all of their leap seconds end their minutes. -/
theorem map_shown_eq_self_iff {clauses : List Clause} :
    clauses.map shown = clauses ↔ ∀ clause ∈ clauses, clause.LeapsEndMinutes := by
  have whole : clauses.map id = clauses := List.map_id clauses
  nth_rewrite 2 [← whole]
  rw [List.map_inj_left]
  exact forall₂_congr fun clause _ => shown_eq_self_iff

end Clause

end RecordFilter
