import RecordFilter.Proofs.Clause.Coercion
import RecordFilter.Proofs.Clause.Fault

/-! # Which fault a clause as written is refused for

A clause as written that cannot be typed is refused for one fault, that of the first condition that
fails. Which condition is looked at first depends on the type: words are looked at after the
operator, and the texts of ordered values before it.

* `RawClause.RefusedFor`: the fault of the first condition that fails.
* `RawClause.readWord_eq_error_iff`, `RawClause.readValues_eq_error_iff`: the faults of reading one
  word or several texts.
* `Clause.ofRaw_eq_error_iff`: typing finds exactly that fault.
* `Clause.coercion_exact`: which clauses are typed, as what, and what the others are refused for. -/

namespace RecordFilter

variable {α : Type} {type : FieldType} {fault : Fault} {raw : RawClause} {clause : Clause}
  {read? : String → Option α} {wrap : α → FieldValue}

/-! ## Refusals -/

/-- Words have no order. -/
theorem FieldType.IsWord.not_isOrdered (word : type.IsWord) : ¬ type.IsOrdered := by
  rcases word with rfl | rfl <;> simp [IsOrdered]

/-- A text is not a word. -/
theorem FieldType.not_isWord_string : ¬ string.IsWord := by
  simp [IsWord]

/-- Texts are not ordered. -/
theorem FieldType.not_isOrdered_string : ¬ string.IsOrdered := by
  simp [IsOrdered]

namespace RawClause

/-- The fault that a clause as written is refused for. Texts are refused for their operator only.
Words are looked at after the operator, and numbers and instants before it. -/
inductive RefusedFor : RawClause → Fault → Prop
  /-- The operator is not legal for texts. -/
  | string {field : String} {operator : Operator} {value : Argument String}
      (illegal : FieldType.string.allows operator = false) :
      RefusedFor ⟨⟨.string, field, operator⟩, value⟩ (.illegalOperator field operator .string)
  /-- The operator is not legal for the word. -/
  | wordOperator {type : FieldType} {field : String} {operator : Operator}
      {value : Argument String} (word : type.IsWord) (illegal : type.allows operator = false) :
      RefusedFor ⟨⟨type, field, operator⟩, value⟩ (.illegalOperator field operator type)
  /-- The operator is legal, but there is a group. -/
  | wordGroup {type : FieldType} {field : String} {operator : Operator} {texts : List String}
      {delimiter : Delimiter} (word : type.IsWord) (legal : type.allows operator = true) :
      RefusedFor ⟨⟨type, field, operator⟩, .group texts delimiter⟩ (.groupUnexpected field type)
  /-- The operator is legal, but the text is none of the words. -/
  | wordText {type : FieldType} {field text : String} {operator : Operator} (word : type.IsWord)
      (legal : type.allows operator = true) (other : ¬ ∃ value, type.Coerces text value) :
      RefusedFor ⟨⟨type, field, operator⟩, .one text⟩ (.valueMalformed field text type)
  /-- A text stands for no value, and those before it do. -/
  | orderedText {type : FieldType} {field text : String} {operator : Operator}
      {value : Argument String} {before after : List String} (ordered : type.IsOrdered)
      (split : value.values = before ++ text :: after)
      (fine : ∀ earlier ∈ before, ∃ value, type.Coerces earlier value)
      (other : ¬ ∃ value, type.Coerces text value) :
      RefusedFor ⟨⟨type, field, operator⟩, value⟩ (.valueMalformed field text type)
  /-- The texts stand for values, but the operator is not legal for them. -/
  | orderedOperator {type : FieldType} {field : String} {operator : Operator}
      {value : Argument String} (ordered : type.IsOrdered)
      (fine : ∀ text ∈ value.values, ∃ value, type.Coerces text value)
      (illegal : type.allows operator = false) :
      RefusedFor ⟨⟨type, field, operator⟩, value⟩ (.illegalOperator field operator type)
  /-- The texts stand for values and the operator is legal, but there are not two bounds. -/
  | orderedBounds {type : FieldType} {field : String} {operator : Operator}
      {value : Argument String} (ordered : type.IsOrdered)
      (fine : ∀ text ∈ value.values, ∃ value, type.Coerces text value)
      (legal : type.allows operator = true) (range : operator.isRange = true)
      (other : value.values.length ≠ 2) :
      RefusedFor ⟨⟨type, field, operator⟩, value⟩
        (.boundCount field operator value.values.length)

end RawClause

/-! ## Faults of reading -/

namespace RawClause

/-- A word is refused for its operator, then for being a group, then for what it is. -/
theorem readWord_eq_error_iff (readBy : raw.type.ReadBy read? wrap) :
    raw.readWord read? = .error fault
      ↔ raw.type.allows raw.operator = false
          ∧ fault = .illegalOperator raw.field raw.operator raw.type
        ∨ raw.type.allows raw.operator = true
          ∧ ((∃ texts delimiter, raw.value = .group texts delimiter
              ∧ fault = .groupUnexpected raw.field raw.type)
            ∨ ∃ text, raw.value = .one text ∧ (¬ ∃ value, raw.type.Coerces text value)
              ∧ fault = .valueMalformed raw.field text raw.type) := by
  simp only [readBy.exists_iff]
  unfold readWord
  by_cases legal : raw.type.allows raw.operator = true
  · rw [if_pos legal]
    cases raw.value with
    | one text => cases found : read? text <;> simp [legal, found, eq_comm]
    | group texts delimiter => simp [legal, eq_comm]
  · simp [legal, eq_comm]

/-- Texts are refused for the first one that stands for no value. -/
theorem readValues_eq_error_iff (readBy : raw.type.ReadBy read? wrap) :
    raw.readValues read? = .error fault
      ↔ ∃ before text after, raw.value.values = before ++ text :: after
        ∧ (∀ earlier ∈ before, ∃ value, raw.type.Coerces earlier value)
        ∧ (¬ ∃ value, raw.type.Coerces text value)
        ∧ fault = .valueMalformed raw.field text raw.type := by
  simp only [readBy.exists_iff]
  rw [readValues, traverse_eq_error_iff, mapM_eq_error_iff]
  -- a text is converted exactly if it is read
  refine exists₃_congr fun before text after => and_congr_right fun _ => and_congr ?_ ?_
  · refine forall₂_congr fun earlier _ => ?_
    cases read? earlier <;> simp
  · cases read? text <;> simp [eq_comm]

/-- All texts are read exactly if each of them stands for a value. -/
theorem exists_readValues_eq_ok_iff (readBy : raw.type.ReadBy read? wrap) :
    (∃ argument, raw.readValues read? = .ok argument)
      ↔ ∀ text ∈ raw.value.values, ∃ value, raw.type.Coerces text value := by
  constructor
  · rintro ⟨argument, read⟩ text member
    obtain ⟨value, -, reads⟩ :=
      exists_of_mem_left_of_forall₂ (readValues_eq_ok_iff.1 read).values member
    exact readBy.exists_iff.2 ⟨value, reads⟩
  · intro fine
    cases read : raw.readValues read? with
    | ok argument => exact ⟨argument, rfl⟩
    | error fault =>
        obtain ⟨before, text, after, split, -, other, -⟩ := (readValues_eq_error_iff readBy).1 read
        exact absurd (fine text (split ▸ List.mem_append_cons_self)) other

/-- There are as many values as texts. -/
theorem length_of_readValues {argument : Argument α} (read : raw.readValues read? = .ok argument) :
    argument.values.length = raw.value.values.length :=
  (readValues_eq_ok_iff.1 read).values.length_eq.symm

end RawClause

/-! ## Faults of typing -/

/-- What ordered values of the given number are refused for: their operator, or a range that does
not have two bounds. -/
def OrderedFault (field : String) (operator : Operator) (type : FieldType) (size : Nat)
    (fault : Fault) : Prop :=
  type.allows operator = false ∧ fault = .illegalOperator field operator type
    ∨ type.allows operator = true ∧ operator.isRange = true ∧ size ≠ 2
      ∧ fault = .boundCount field operator size

/-- Finite numbers are refused as ordered values are. -/
theorem Clause.ofComparison_number_eq_error_iff {field : String} {operator : Operator}
    {numbers : Argument Binary64} (finite : ∀ number ∈ numbers.values, number.isFinite = true) :
    ofComparison field (.number operator numbers) = .error fault
      ↔ OrderedFault field operator .number numbers.values.length fault := by
  rw [ofComparison_eq_error_iff]
  constructor
  · intro refused
    cases refused with
    | operator illegal => exact .inl ⟨illegal, rfl⟩
    | numberBounds legal range other => exact .inr ⟨legal, range, other, rfl⟩
    | number legal bounds split fine bad =>
        have proper := finite _ (split ▸ List.mem_append_cons_self)
        exact absurd (bad.symm.trans proper) Bool.false_ne_true
  · rintro (⟨illegal, rfl⟩ | ⟨legal, range, other, rfl⟩)
    · exact .operator illegal
    · exact .numberBounds legal range other

/-- Instants are refused as ordered values are. -/
theorem Clause.ofComparison_date_eq_error_iff {field : String} {operator : Operator}
    {instants : Argument Instant} :
    ofComparison field (.date operator instants) = .error fault
      ↔ OrderedFault field operator .date instants.values.length fault := by
  rw [ofComparison_eq_error_iff]
  constructor
  · intro refused
    cases refused with
    | operator illegal => exact .inl ⟨illegal, rfl⟩
    | dateBounds legal range other => exact .inr ⟨legal, range, other, rfl⟩
  · rintro (⟨illegal, rfl⟩ | ⟨legal, range, other, rfl⟩)
    · exact .operator illegal
    · exact .dateBounds legal range other

namespace RawClause

/-- A word is refused while it is read, as nothing but the operator is checked after that. -/
theorem refusedFor_iff_of_isWord (word : raw.type.IsWord) (readBy : raw.type.ReadBy read? wrap)
    {make : α → Comparison}
    (checked : ∀ value, raw.type.allows raw.operator = true →
      Clause.ofComparison raw.field (make value) ≠ .error fault) :
    (raw.readWord read? >>= fun value => Clause.ofComparison raw.field (make value)) = .error fault
      ↔ raw.RefusedFor fault := by
  rw [bind_eq_error_iff, readWord_eq_error_iff readBy]
  obtain ⟨⟨type, field, operator⟩, value⟩ := raw
  constructor
  · rintro ((⟨illegal, rfl⟩ | ⟨legal, ⟨texts, delimiter, rfl, rfl⟩ | ⟨text, rfl, other, rfl⟩⟩)
      | ⟨value, read, refused⟩)
    · exact .wordOperator word illegal
    · exact .wordGroup word legal
    · exact .wordText word legal other
    · exact absurd refused (checked value (readWord_eq_ok_iff.1 read).1)
  · intro refused
    cases refused with
    | string illegal => exact absurd word FieldType.not_isWord_string
    | wordOperator word illegal => exact .inl (.inl ⟨illegal, rfl⟩)
    | wordGroup word legal => exact .inl (.inr ⟨legal, .inl ⟨_, _, rfl, rfl⟩⟩)
    | wordText word legal other => exact .inl (.inr ⟨legal, .inr ⟨_, rfl, other, rfl⟩⟩)
    | orderedText ordered split fine other => exact absurd ordered word.not_isOrdered
    | orderedOperator ordered fine illegal => exact absurd ordered word.not_isOrdered
    | orderedBounds ordered fine legal range other => exact absurd ordered word.not_isOrdered

/-- Ordered values are refused for the first text that stands for none, and only then for their
operator or their number. -/
theorem refusedFor_iff_of_isOrdered (ordered : raw.type.IsOrdered)
    (readBy : raw.type.ReadBy read? wrap) {make : Argument α → Comparison}
    (checked : ∀ argument, raw.readValues read? = .ok argument →
      (Clause.ofComparison raw.field (make argument) = .error fault
        ↔ OrderedFault raw.field raw.operator raw.type argument.values.length fault)) :
    (raw.readValues read? >>= fun argument => Clause.ofComparison raw.field (make argument))
        = .error fault
      ↔ raw.RefusedFor fault := by
  rw [bind_eq_error_iff]
  constructor
  · rintro (unread | ⟨argument, read, refused⟩)
    · obtain ⟨before, text, after, split, fine, other, rfl⟩ :=
        (readValues_eq_error_iff readBy).1 unread
      exact .orderedText ordered split fine other
    · have fine := (exists_readValues_eq_ok_iff readBy).1 ⟨argument, read⟩
      rw [checked argument read, length_of_readValues read] at refused
      rcases refused with ⟨illegal, rfl⟩ | ⟨legal, range, other, rfl⟩
      · exact .orderedOperator ordered fine illegal
      · exact .orderedBounds ordered fine legal range other
  · intro refused
    -- where every text stands for a value, the values are read and then checked
    have after (fine : ∀ text ∈ raw.value.values, ∃ value, raw.type.Coerces text value)
        (found : OrderedFault raw.field raw.operator raw.type raw.value.values.length fault) :
        ∃ argument, raw.readValues read? = .ok argument
          ∧ Clause.ofComparison raw.field (make argument) = .error fault := by
      obtain ⟨argument, read⟩ := (exists_readValues_eq_ok_iff readBy).2 fine
      refine ⟨argument, read, ?_⟩
      rw [checked argument read, length_of_readValues read]
      exact found
    cases refused with
    | string illegal => exact absurd ordered FieldType.not_isOrdered_string
    | wordOperator word illegal => exact absurd ordered word.not_isOrdered
    | wordGroup word legal => exact absurd ordered word.not_isOrdered
    | wordText word legal other => exact absurd ordered word.not_isOrdered
    | orderedText ordered split fine other =>
        exact .inl ((readValues_eq_error_iff readBy).2 ⟨_, _, _, split, fine, other, rfl⟩)
    | orderedOperator ordered fine illegal => exact .inr (after fine (.inl ⟨illegal, rfl⟩))
    | orderedBounds ordered fine legal range other =>
        exact .inr (after fine (.inr ⟨legal, range, other, rfl⟩))

/-- A coercible clause is refused for nothing. -/
theorem RefusedFor.not_coercible (refused : raw.RefusedFor fault) : ¬ raw.Coercible := by
  rintro ⟨legal, single, values, bounds⟩
  cases refused with
  | string illegal => exact absurd (illegal.symm.trans legal) Bool.false_ne_true
  | wordOperator word illegal => exact absurd (illegal.symm.trans legal) Bool.false_ne_true
  | wordGroup word legal => exact absurd (single word) nofun
  | wordText word legal other => exact other (values _ List.mem_cons_self)
  | orderedText ordered split fine other =>
      exact other (values _ (split ▸ List.mem_append_cons_self))
  | orderedOperator ordered fine illegal =>
      exact absurd (illegal.symm.trans legal) Bool.false_ne_true
  | orderedBounds ordered fine legal range other => exact other (bounds ordered range)

end RawClause

namespace Clause

/-- A legal operator is all that a comparison with a truth value needs. -/
theorem ofComparison_boolean_ne_error {field : String} {operator : Operator} (value : Bool)
    (legal : FieldType.boolean.allows operator = true) :
    ofComparison field (.boolean operator value) ≠ .error fault := by
  intro refused
  cases ofComparison_eq_error_iff.1 refused with
  | operator illegal => exact absurd (illegal.symm.trans legal) Bool.false_ne_true

/-- A legal operator is all that a question for the missing value needs. -/
theorem ofComparison_null_ne_error {field : String} {operator : Operator}
    (legal : FieldType.null.allows operator = true) :
    ofComparison field (.null operator) ≠ .error fault := by
  intro refused
  cases ofComparison_eq_error_iff.1 refused with
  | operator illegal => exact absurd (illegal.symm.trans legal) Bool.false_ne_true

/-- A clause as written is refused exactly for the fault of the first condition that fails. -/
theorem ofRaw_eq_error_iff : ofRaw raw = .error fault ↔ raw.RefusedFor fault := by
  obtain ⟨⟨type, field, operator⟩, value⟩ := raw
  cases type with
  | string =>
      constructor
      · intro refused
        cases ofComparison_eq_error_iff.1 refused with
        | operator illegal => exact .string illegal
      · intro refused
        cases refused with
        | string illegal => exact ofComparison_eq_error_iff.2 (.operator illegal)
        | wordOperator word illegal => exact absurd word FieldType.not_isWord_string
        | wordGroup word legal => exact absurd word FieldType.not_isWord_string
        | wordText word legal other => exact absurd word FieldType.not_isWord_string
        | orderedText ordered split fine other =>
            exact absurd ordered FieldType.not_isOrdered_string
        | orderedOperator ordered fine illegal =>
            exact absurd ordered FieldType.not_isOrdered_string
        | orderedBounds ordered fine legal range other =>
            exact absurd ordered FieldType.not_isOrdered_string
  | boolean =>
      exact RawClause.refusedFor_iff_of_isWord (.inl rfl) FieldType.readBy_boolean
        fun value legal => ofComparison_boolean_ne_error value legal
  | number =>
      refine RawClause.refusedFor_iff_of_isOrdered (.inl rfl) FieldType.readBy_number
        fun numbers read => ofComparison_number_eq_error_iff fun number member => ?_
      -- only finite numbers are read
      obtain ⟨text, -, reads⟩ :=
        exists_of_mem_of_forall₂ (RawClause.readValues_eq_ok_iff.1 read).values member
      exact Binary64.isFinite_of_ofText? reads
  | date =>
      exact RawClause.refusedFor_iff_of_isOrdered (.inr rfl) FieldType.readBy_date
        fun instants read => ofComparison_date_eq_error_iff
  | null =>
      exact RawClause.refusedFor_iff_of_isWord (.inr rfl) FieldType.readBy_null
        fun _ legal => ofComparison_null_ne_error legal

end Clause

/-! ## Typing -/

/-- A clause as written can be typed exactly if it is coercible. -/
theorem Clause.exists_ofRaw_eq_ok_iff : (∃ clause, ofRaw raw = .ok clause) ↔ raw.Coercible := by
  constructor
  · rintro ⟨clause, typed⟩
    exact (ofRaw_eq_ok_iff_coercesTo.1 typed).coercible
  · intro coercible
    cases typed : ofRaw raw with
    | ok clause => exact ⟨clause, rfl⟩
    | error fault => exact absurd coercible (ofRaw_eq_error_iff.1 typed).not_coercible

/-- **Typing is exact.** A clause as written can be typed exactly if it is coercible. The typed
clause has its type, field, operator and shape, and exactly the values that its texts stand for, in
order. Every other clause is refused for the first condition that fails in the order of its type. -/
theorem Clause.coercion_exact (raw : RawClause) :
    ((∃ clause, ofRaw raw = .ok clause) ↔ raw.Coercible)
    ∧ (∀ clause, ofRaw raw = .ok clause ↔ raw.CoercesTo clause)
    ∧ ∀ fault, ofRaw raw = .error fault ↔ raw.RefusedFor fault :=
  ⟨exists_ofRaw_eq_ok_iff, fun _ => ofRaw_eq_ok_iff_coercesTo, fun _ => ofRaw_eq_error_iff⟩

/-- A number that cannot be read comes before an operator that is not legal, and a word after it. -/
example : Clause.ofRaw ⟨⟨.number, "x", .matching⟩, .group ["1", " 2"] .comma⟩
      = .error (.valueMalformed "x" " 2" .number)
    ∧ Clause.ofRaw ⟨⟨.boolean, "x", .less⟩, .group [] .comma⟩
      = .error (.illegalOperator "x" .less .boolean) := by
  decide +kernel

end RecordFilter
