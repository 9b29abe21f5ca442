import RecordFilter.Proofs.Clause.Typing
import RecordFilter.Proofs.QueryText.Clauses
import RecordFilter.Proofs.QueryText.Parts
import RecordFilter.Proofs.QueryText.RoundTrip

/-! # Checked construction of clauses

A comparison makes a clause exactly if it is well-formed, and otherwise it is refused for the first
condition that it fails. The clauses of a query text are made in this way, so they are well-formed,
and a group is a group of at least one value that the text writes in brackets.

* `Comparison.WellFormed`: the conditions on a comparison, and `Comparison.RefusedFor`: the fault of
  the first one that fails.
* `Comparison.refusedFor_of_fault?`, `Comparison.RefusedFor.fault?`: the checks find exactly that
  fault.
* `RawClause.Means.delimiter?_eq`, `RawClause.Means.valueCount_eq`: typing keeps the shape of a
  value.
* `QueryText.exists_parts_of_read`: the parts of a text with their typed clauses.
* `Clause.construction_exact`: all of this together. -/

namespace RecordFilter

variable {field : String} {comparison : Comparison} {fault : Fault} {raw : RawClause}

/-! ## Conditions on a comparison -/

namespace Comparison

/-- The comparisons with numbers are the number comparisons. -/
theorem numbers?_eq_some_iff {numbers : Argument Binary64} :
    comparison.numbers? = some numbers ↔ ∃ operator, comparison = .number operator numbers := by
  cases comparison <;> simp [numbers?]

/-- The comparisons with instants are the date comparisons. -/
theorem dates?_eq_some_iff {instants : Argument Instant} :
    comparison.dates? = some instants ↔ ∃ operator, comparison = .date operator instants := by
  cases comparison <;> simp [dates?]

/-- What a comparison has to satisfy to make a clause. -/
structure WellFormed (comparison : Comparison) : Prop where
  /-- The operator is legal for the type. -/
  legal : comparison.type.allows comparison.operator = true
  /-- A range of numbers has two bounds. -/
  numberBounds : comparison.operator.isRange = true →
    ∀ numbers, comparison.numbers? = some numbers → numbers.values.length = 2
  /-- A range of instants has two bounds. -/
  dateBounds : comparison.operator.isRange = true →
    ∀ instants, comparison.dates? = some instants → instants.values.length = 2
  /-- Every number is finite. -/
  finite : ∀ numbers, comparison.numbers? = some numbers →
    ∀ number ∈ numbers.values, number.isFinite = true

/-- The fault that a comparison of a field is refused for, which is that of the first condition it
fails: the operator, then the number of bounds, then the numbers in order. -/
inductive RefusedFor (field : String) : Comparison → Fault → Prop
  /-- The operator is not legal for the type. -/
  | operator {comparison : Comparison}
      (illegal : comparison.type.allows comparison.operator = false) :
      RefusedFor field comparison (.illegalOperator field comparison.operator comparison.type)
  /-- A range of numbers does not have two bounds. -/
  | numberBounds {operator : Operator} {numbers : Argument Binary64}
      (legal : FieldType.number.allows operator = true) (range : operator.isRange = true)
      (other : numbers.values.length ≠ 2) :
      RefusedFor field (.number operator numbers)
        (.boundCount field operator numbers.values.length)
  /-- A range of instants does not have two bounds. -/
  | dateBounds {operator : Operator} {instants : Argument Instant}
      (legal : FieldType.date.allows operator = true) (range : operator.isRange = true)
      (other : instants.values.length ≠ 2) :
      RefusedFor field (.date operator instants)
        (.boundCount field operator instants.values.length)
  /-- A number is not finite, and those before it are. -/
  | number {operator : Operator} {numbers : Argument Binary64} {before after : List Binary64}
      {number : Binary64} (legal : FieldType.number.allows operator = true)
      (bounds : operator.isRange = true → numbers.values.length = 2)
      (split : numbers.values = before ++ number :: after)
      (fine : ∀ earlier ∈ before, earlier.isFinite = true) (bad : number.isFinite = false) :
      RefusedFor field (.number operator numbers)
        (.valueMalformed field (nonFiniteText number) .number)

/-- The values of number and of date comparisons are ordered. -/
theorem orderedSize?_eq_some_iff {size : Nat} :
    comparison.orderedSize? = some size
      ↔ (∃ operator numbers, comparison = .number operator numbers ∧ numbers.values.length = size)
        ∨ ∃ operator instants, comparison = .date operator instants
          ∧ instants.values.length = size := by
  cases comparison <;> simp [orderedSize?, Argument.size]

/-- A number that is not finite is found after finite ones only. -/
theorem nonFinite?_eq_some_iff {number : Binary64} :
    comparison.nonFinite? = some number
      ↔ ∃ operator numbers, comparison = .number operator numbers ∧ number.isFinite = false
        ∧ ∃ before after, numbers.values = before ++ number :: after
          ∧ ∀ earlier ∈ before, earlier.isFinite = true := by
  cases comparison with
  | number operator numbers =>
      rw [nonFinite?, List.find?_eq_some_iff_append]
      simp
  | _ => simp [nonFinite?]

/-- The condition on clauses, part by part. -/
theorem valid_iff_wellFormed : comparison.Valid ↔ comparison.WellFormed := by
  constructor
  · rintro ⟨legal, bounds, finite⟩
    refine ⟨legal, ?_, ?_, ?_⟩
    · intro range numbers found
      obtain ⟨operator, rfl⟩ := numbers?_eq_some_iff.1 found
      exact bounds range _ rfl
    · intro range instants found
      obtain ⟨operator, rfl⟩ := dates?_eq_some_iff.1 found
      exact bounds range _ rfl
    · intro numbers found number member
      obtain ⟨operator, rfl⟩ := numbers?_eq_some_iff.1 found
      simpa using List.find?_eq_none.1 finite number member
  · rintro ⟨legal, numberBounds, dateBounds, finite⟩
    refine ⟨legal, fun range size ordered => ?_, ?_⟩
    · rcases orderedSize?_eq_some_iff.1 ordered with ⟨operator, numbers, rfl, rfl⟩
        | ⟨operator, instants, rfl, rfl⟩
      · exact numberBounds range numbers rfl
      · exact dateBounds range instants rfl
    · refine Option.eq_none_iff_forall_ne_some.2 fun number found => ?_
      obtain ⟨operator, numbers, rfl, bad, before, after, split, -⟩ :=
        nonFinite?_eq_some_iff.1 found
      have proper := finite numbers rfl number (split ▸ List.mem_append_cons_self)
      exact Bool.false_ne_true (bad.symm.trans proper)

/-! ## The fault of a comparison -/

/-- Bounds are missing exactly if a range of ordered values has another number of them. -/
theorem boundFault?_eq_some_iff :
    comparison.boundFault? field = some fault
      ↔ comparison.operator.isRange = true ∧ ∃ size, comparison.orderedSize? = some size ∧ size ≠ 2
        ∧ fault = .boundCount field comparison.operator size := by
  unfold boundFault?
  cases comparison.orderedSize? with
  | none => simp
  | some size =>
      by_cases range : comparison.operator.isRange = true <;> by_cases two : size = 2 <;>
        simp [range, two, eq_comm]

/-- The number of bounds is checked after the operator. -/
theorem fault?_of_boundFault? (legal : comparison.type.allows comparison.operator = true)
    (bounds : comparison.boundFault? field = some fault) :
    comparison.fault? field = some fault := by
  rw [fault?, if_pos legal, bounds]

/-- The numbers are checked last. -/
theorem fault?_of_nonFinite? {number : Binary64}
    (legal : comparison.type.allows comparison.operator = true)
    (bounds : comparison.boundFault? field = none)
    (first : comparison.nonFinite? = some number) :
    comparison.fault? field = some (.valueMalformed field (nonFiniteText number) .number) := by
  rw [fault?, if_pos legal, bounds, first]
  rfl

/-- A fault that the checks find is that of the first condition that fails. -/
theorem refusedFor_of_fault? (found : comparison.fault? field = some fault) :
    comparison.RefusedFor field fault := by
  unfold fault? at found
  split at found
  · next legal =>
      split at found
      · next bounds =>
          cases found
          obtain ⟨range, size, ordered, other, rfl⟩ := boundFault?_eq_some_iff.1 bounds
          rcases orderedSize?_eq_some_iff.1 ordered with ⟨operator, numbers, rfl, rfl⟩
            | ⟨operator, instants, rfl, rfl⟩
          · exact .numberBounds legal range other
          · exact .dateBounds legal range other
      · next bounds =>
          obtain ⟨number, first, rfl⟩ := Option.map_eq_some_iff.1 found
          obtain ⟨operator, numbers, rfl, bad, before, after, split, fine⟩ :=
            nonFinite?_eq_some_iff.1 first
          have two := (boundFault?_eq_none_iff field).1 bounds
          exact .number legal (fun range => two range _ rfl) split fine bad
  · next illegal =>
      cases found
      exact .operator (Bool.eq_false_iff.2 illegal)

/-- The checks find the fault of the first condition that fails. -/
theorem RefusedFor.fault? (refused : comparison.RefusedFor field fault) :
    comparison.fault? field = some fault := by
  cases refused with
  | operator illegal => simp [Comparison.fault?, illegal]
  | @numberBounds operator numbers legal range other =>
      have bounds : (Comparison.number operator numbers).boundFault? field = some _ :=
        boundFault?_eq_some_iff.2 ⟨range, _, rfl, other, rfl⟩
      exact fault?_of_boundFault? legal bounds
  | @dateBounds operator instants legal range other =>
      have bounds : (Comparison.date operator instants).boundFault? field = some _ :=
        boundFault?_eq_some_iff.2 ⟨range, _, rfl, other, rfl⟩
      exact fault?_of_boundFault? legal bounds
  | @number operator numbers before after number legal bounds split fine bad =>
      have two : (Comparison.number operator numbers).boundFault? field = none :=
        (boundFault?_eq_none_iff field).2 fun range size ordered =>
          Option.some_inj.1 ordered ▸ bounds range
      have first : (Comparison.number operator numbers).nonFinite? = some number :=
        nonFinite?_eq_some_iff.2 ⟨_, _, rfl, bad, before, after, split, fine⟩
      exact fault?_of_nonFinite? legal two first

/-- The number of values that a comparison names. A truth value is one, and so is null. -/
def valueCount : Comparison → Nat
  | string _ texts => texts.values.length
  | number _ numbers => numbers.values.length
  | date _ instants => instants.values.length
  | boolean _ _ | null _ => 1

end Comparison

namespace Clause

/-- The fault of the checked constructor is that of the comparison. -/
theorem ofComparison_eq_error_iff :
    ofComparison field comparison = .error fault ↔ comparison.RefusedFor field fault := by
  constructor
  · intro refused
    unfold ofComparison at refused
    split at refused
    · next other found =>
        cases refused
        exact Comparison.refusedFor_of_fault? found
    · cases refused
  · exact fun refused => ofComparison_of_fault refused.fault?

/-- There is a clause exactly if the comparison is well-formed. -/
theorem exists_ofComparison_eq_ok_iff :
    (∃ clause, ofComparison field comparison = .ok clause) ↔ comparison.WellFormed := by
  rw [← Comparison.valid_iff_wellFormed]
  constructor
  · rintro ⟨clause, made⟩
    obtain ⟨-, same⟩ := ofComparison_eq_ok_iff.1 made
    exact same ▸ clause.valid
  · exact fun valid => ⟨_, ofComparison_of_valid field valid⟩

end Clause

/-! ## Clauses of a query text -/

/-- Related arguments have the same shape. -/
theorem Argument.Forall₂.delimiter?_eq {α β : Type} {relation : α → β → Prop} {left : Argument α}
    {right : Argument β} (related : left.Forall₂ relation right) :
    right.delimiter? = left.delimiter? := by
  cases related <;> rfl

namespace RawClause.Means

/-- Typing keeps the shape of the value. -/
theorem delimiter?_eq (means : raw.Means comparison) :
    comparison.delimiter? = raw.value.delimiter? := by
  cases means with
  | string field operator texts => rfl
  | boolean field operator reads => rfl
  | number field operator reads => exact reads.delimiter?_eq
  | date field operator reads => exact reads.delimiter?_eq
  | null field operator reads => rfl

/-- Typing keeps the number of values. -/
theorem valueCount_eq (means : raw.Means comparison) :
    comparison.valueCount = raw.value.values.length := by
  cases means with
  | string field operator texts => rfl
  | boolean field operator reads => rfl
  | number field operator reads => exact reads.values.length_eq.symm
  | date field operator reads => exact reads.values.length_eq.symm
  | null field operator reads => rfl

end RawClause.Means

namespace QueryText

variable {whitelist : Whitelist} {text : String} {typed : List Clause}

/-- A part of a query text, with its typed clause if it stands for a clause. -/
def TypedPart (whitelist : Whitelist) (chars : List Char) : Option Clause → Prop
  | none => Part whitelist chars none
  | some clause => ∃ raw, Part whitelist chars (some raw) ∧ Clause.ofRaw raw = .ok clause

/-- The clauses of parts are typed part by part. -/
theorem exists_typed_parts {parts : List (List Char × Option RawClause)}
    (each : ∀ part ∈ parts, Part whitelist part.1 part.2)
    (related : List.Forall₂ (fun raw clause => Clause.ofRaw raw = .ok clause)
      (parts.filterMap Prod.snd) typed) :
    ∃ others : List (List Char × Option Clause),
      others.flatMap Prod.fst = parts.flatMap Prod.fst ∧ others.filterMap Prod.snd = typed
        ∧ ∀ part ∈ others, TypedPart whitelist part.1 part.2 := by
  induction parts generalizing typed with
  | nil =>
      obtain rfl := List.forall₂_nil_left_iff.1 related
      exact ⟨[], rfl, rfl, fun part none => absurd none List.not_mem_nil⟩
  | cons part rest induction =>
      obtain ⟨chars, clause?⟩ := part
      obtain ⟨first, later⟩ := List.forall_mem_cons.1 each
      cases clause? with
      | none =>
          obtain ⟨others, same, clauses, made⟩ := induction later related
          exact ⟨(chars, none) :: others, by simp [same], by simpa using clauses,
            List.forall_mem_cons.2 ⟨first, made⟩⟩
      | some raw =>
          obtain ⟨clause, typed, head, tail, rfl⟩ := List.forall₂_cons_left_iff.1 related
          obtain ⟨others, same, clauses, made⟩ := induction later tail
          exact ⟨(chars, some clause) :: others, by simp [same], by simp [clauses],
            List.forall_mem_cons.2 ⟨⟨raw, first, head⟩, made⟩⟩

/-- An accepted text is its parts, and its typed clauses are those of the parts, in order. -/
theorem exists_parts_of_read (accepted : read whitelist text = .ok typed) :
    ∃ parts : List (List Char × Option Clause),
      parts.flatMap Prod.fst = text.toList ∧ parts.filterMap Prod.snd = typed
        ∧ ∀ part ∈ parts, TypedPart whitelist part.1 part.2 := by
  obtain ⟨raws, written, all⟩ := read_eq_ok_iff.1 accepted
  obtain ⟨parts, whole, rfl, each⟩ := exists_parts_of_readRaw written
  obtain ⟨others, same, clauses, made⟩ :=
    exists_typed_parts each (mapM_eq_ok_iff_forall₂.1 all)
  exact ⟨others, same.trans whole, clauses, made⟩

/-- A group that is written has at least one value. -/
theorem Part.values_ne_nil {chars : List Char} (part : Part whitelist chars (some raw)) :
    raw.value.values ≠ [] := by
  have writable : Writable whitelist raw := by
    rcases part with item | tail
    · exact item.writable
    · exact tail.writable
  have value := writable.value
  cases shape : raw.value with
  | one text => exact List.cons_ne_nil _ _
  | group texts delimiter =>
      rw [shape] at value
      exact value.1

end QueryText

/-- **The checked constructor.** A clause is made exactly from a well-formed comparison, and it has
exactly that field and comparison. Every other comparison is refused for the first condition that
fails. So the clauses of a query text are well-formed. Each of them is written in a part of the text
of its own, it names at least one value, and its value is a group exactly if the part has it in
brackets. -/
theorem Clause.construction_exact (field : String) (comparison : Comparison)
    (whitelist : Whitelist) (text : String) :
    ((∃ clause, ofComparison field comparison = .ok clause) ↔ comparison.WellFormed)
    ∧ (∀ clause, ofComparison field comparison = .ok clause
      ↔ clause.field = field ∧ clause.comparison = comparison)
    ∧ (∀ fault, ofComparison field comparison = .error fault ↔ comparison.RefusedFor field fault)
    ∧ ∀ typed, QueryText.read whitelist text = .ok typed →
      (∀ clause ∈ typed, clause.comparison.WellFormed)
      ∧ ∃ parts : List (List Char × Option Clause),
        parts.flatMap Prod.fst = text.toList ∧ parts.filterMap Prod.snd = typed
        ∧ (∀ part ∈ parts, QueryText.TypedPart whitelist part.1 part.2)
        ∧ ∀ chars clause, (chars, some clause) ∈ parts →
          clause.comparison.valueCount ≠ 0
          ∧ ∀ delimiter, clause.comparison.delimiter? = some delimiter
            ↔ QueryText.Bracketed whitelist chars delimiter := by
  refine ⟨exists_ofComparison_eq_ok_iff, fun _ => ofComparison_eq_ok_iff,
    fun _ => ofComparison_eq_error_iff, fun typed accepted => ⟨?_, ?_⟩⟩
  · exact fun clause _ => Comparison.valid_iff_wellFormed.1 clause.valid
  · obtain ⟨parts, whole, clauses, each⟩ := QueryText.exists_parts_of_read accepted
    refine ⟨parts, whole, clauses, each, fun chars clause member => ?_⟩
    obtain ⟨raw, part, made⟩ := each _ member
    obtain ⟨means, -⟩ := ofRaw_eq_ok_iff.1 made
    refine ⟨?_, fun delimiter => ?_⟩
    · rw [means.valueCount_eq]
      exact fun none => part.values_ne_nil (List.length_eq_zero_iff.1 none)
    · rw [means.delimiter?_eq]
      exact part.delimiter?_eq_some_iff

/-- A value that is not a number, with a range operator and with a pattern operator, and a text with
a range in brackets. -/
theorem Clause.construction_exact_range :
    ofComparison "x" (.number .between (.one .nan)) = .error (.boundCount "x" .between 1)
      ∧ ofComparison "x" (.number .matching (.one .nan))
        = .error (.illegalOperator "x" .matching .number)
      ∧ QueryText.read .unrestricted "n:x:><:[1,2]"
        = .ok [⟨"x", .number .between (.group [⟨false, 0x3ff0000000000000, by decide⟩,
          ⟨false, 0x4000000000000000, by decide⟩] .comma), ⟨rfl, by decide, rfl⟩⟩]
      ∧ ∃ front chars back, "n:x:><:[1,2]".toList = front ++ chars ++ back
        ∧ QueryText.Bracketed .unrestricted chars .comma := by
  have accepted : QueryText.read .unrestricted "n:x:><:[1,2]"
      = .ok [⟨"x", .number .between (.group [⟨false, 0x3ff0000000000000, by decide⟩,
        ⟨false, 0x4000000000000000, by decide⟩] .comma), ⟨rfl, by decide, rfl⟩⟩] := by
    decide +kernel
  have bounds := construction_exact "x" (.number .between (.one .nan)) .unrestricted "n:x:><:[1,2]"
  have pattern := construction_exact "x" (.number .matching (.one .nan)) .unrestricted ""
  refine ⟨(bounds.2.2.1 _).2 (.numberBounds rfl rfl (by decide)),
    (pattern.2.2.1 _).2 (.operator rfl), accepted, ?_⟩
  obtain ⟨-, parts, whole, clauses, -, each⟩ := bounds.2.2.2 _ accepted
  -- the only clause has a part, which stands somewhere in the text
  obtain ⟨⟨chars, clause?⟩, member, rfl⟩ :=
    List.mem_filterMap.1 (clauses ▸ List.mem_cons_self)
  obtain ⟨before, after, rfl⟩ := List.append_of_mem member
  refine ⟨before.flatMap Prod.fst, chars, after.flatMap Prod.fst, ?_, ?_⟩
  · rw [← whole]
    simp
  · exact ((each chars _ member).2 .comma).1 rfl

end RecordFilter
