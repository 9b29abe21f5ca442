import RecordFilter.Clause.Typing
import RecordFilter.Proofs.Traversal

/-! # Faults of typing

Giving a clause values of its declared type can only fail with a fault of typing, and such a fault
names no position.

* `traverse_eq_error_iff`, `exists_of_traverse_eq_error`: a failed conversion of an argument failed
  on one of its values.
* `Clause.kind_of_ofRaw_eq_error`: the kind of every fault of typing a clause. -/

namespace RecordFilter

variable {α β : Type} {fault : Fault} {raw : RawClause}

/-- A fault of typing stays as it is in a text further to the right. -/
theorem Fault.shift_of_kind_eq_typing (typing : fault.kind = .typing) (offset : Nat) :
    fault.shift offset = fault := by
  cases fault <;> first | rfl | cases typing

/-- Converting an argument fails exactly as converting the list of its values does. -/
theorem traverse_eq_error_iff {convert : α → Except Fault β} {argument : Argument α} :
    argument.traverse convert = .error fault ↔ argument.values.mapM convert = .error fault := by
  cases argument with
  | one value =>
      -- the value is the only member of the list of values
      rw [Argument.traverse, Argument.values_one, List.mapM_cons, List.mapM_nil]
      cases convert value <;> simp [Except.map, bind, Except.bind, pure, Except.pure]
  | group values delimiter =>
      rw [Argument.traverse, Argument.values_group]
      cases values.mapM convert <;> simp [Except.map]

/-- A conversion that fails on an argument fails on one of its values. -/
theorem exists_of_traverse_eq_error {convert : α → Except Fault β} {argument : Argument α}
    (failed : argument.traverse convert = .error fault) :
    ∃ value ∈ argument.values, convert value = .error fault :=
  exists_of_mapM_eq_error (traverse_eq_error_iff.1 failed)

/-- The faults of comparisons are faults of typing. -/
theorem Comparison.kind_of_fault?_eq_some {field : String} {comparison : Comparison}
    (found : comparison.fault? field = some fault) : fault.kind = .typing := by
  unfold fault? at found
  split at found
  · split at found
    · next bound bounds =>
        cases found
        unfold boundFault? at bounds
        split at bounds
        · split at bounds
          · cases bounds
            rfl
          · cases bounds
        · cases bounds
    · obtain ⟨value, -, rfl⟩ := Option.map_eq_some_iff.1 found
      rfl
  · cases found
    rfl

namespace Clause

/-- The faults of the checked constructor are faults of typing. -/
theorem kind_of_ofComparison_eq_error {field : String} {comparison : Comparison}
    (refused : ofComparison field comparison = .error fault) : fault.kind = .typing := by
  unfold ofComparison at refused
  split at refused
  · next other found =>
      cases refused
      exact Comparison.kind_of_fault?_eq_some found
  · cases refused

/-- A value that cannot be read is a fault of typing. -/
theorem kind_of_readValues_eq_error {read? : String → Option α}
    (refused : raw.readValues read? = .error fault) : fault.kind = .typing := by
  obtain ⟨text, -, unread⟩ := exists_of_traverse_eq_error refused
  split at unread
  · cases unread
  · cases unread
    rfl

/-- A word that cannot be read is a fault of typing. -/
theorem kind_of_readWord_eq_error {read? : String → Option α}
    (refused : raw.readWord read? = .error fault) : fault.kind = .typing := by
  unfold RawClause.readWord at refused
  split at refused
  · split at refused
    · split at refused
      · cases refused
      · cases refused
        rfl
    · cases refused
      rfl
  · cases refused
    rfl

/-- A step of typing that fails before or in the checked constructor fails with a fault of
typing. -/
theorem kind_of_bind_eq_error {values : Except Fault α} {field : String} {make : α → Comparison}
    (reading : ∀ found, values = .error found → found.kind = .typing)
    (refused : (values >>= fun value => ofComparison field (make value)) = .error fault) :
    fault.kind = .typing := by
  cases values with
  | error found =>
      cases refused
      exact reading _ rfl
  | ok value => exact kind_of_ofComparison_eq_error refused

/-- Typing a clause fails with faults of typing only. -/
theorem kind_of_ofRaw_eq_error (refused : ofRaw raw = .error fault) : fault.kind = .typing := by
  unfold ofRaw at refused
  split at refused
  · exact kind_of_ofComparison_eq_error refused
  · exact kind_of_bind_eq_error (fun _ => kind_of_readWord_eq_error) refused
  · exact kind_of_bind_eq_error (fun _ => kind_of_readValues_eq_error) refused
  · exact kind_of_bind_eq_error (fun _ => kind_of_readValues_eq_error) refused
  · exact kind_of_bind_eq_error (fun _ => kind_of_readWord_eq_error) refused

end Clause

end RecordFilter
