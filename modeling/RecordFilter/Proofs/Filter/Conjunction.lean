import RecordFilter.Filter
import RecordFilter.Pattern.Engine
import RecordFilter.Proofs.Traversal

/-! # Filters of more clauses

A filter is the conjunction of its clauses. So the filter of two lists of clauses side by side is
the conjunction of the two filters, and neither the order of the clauses nor how often one of them
is stated makes a difference.

* `Filter.compile_eq_ok_iff`, `Filter.ofText_eq_ok_iff`: when there is a filter at all.
* `Filter.append`: the criteria of two filters.
* `Filter.compile_append`: the filter of clauses side by side.
* `Filter.accepts_append`, `Filter.select_append`: what it accepts.
* `Filter.exists_compile_eq_ok_iff`, `Filter.accepts_iff_forall_clause`: when there is a filter and
  what it accepts, clause by clause.
* `Filter.accepts_of_subset`, `Filter.accepts_congr`: filters of fewer and of the same clauses.
* `Filter.conjunction_of_clauses`: all of this together. -/

namespace RecordFilter

namespace Filter

variable {engine : PatternEngine} {left right clauses : List Clause}
  {filter first second : Filter engine} {α : Type u} {read : α → String → FieldValue} {item : α}

/-- The criteria of two filters. -/
def append (first second : Filter engine) : Filter engine := ⟨first.criteria ++ second.criteria⟩

/-- A list of clauses has a filter exactly if each of them has its criterion. -/
theorem compile_eq_ok_iff :
    compile engine left = .ok first
      ↔ left.mapM (Criterion.compile engine) = .ok first.criteria := by
  unfold compile
  cases left.mapM (Criterion.compile engine) with
  | error fault => simp [Except.map]
  | ok criteria =>
      obtain ⟨expected⟩ := first
      simp [Except.map]

/-- A text describes a filter exactly if its clauses can be read and have a filter. -/
theorem ofText_eq_ok_iff {whitelist : Whitelist} {text : String} :
    ofText engine whitelist text = .ok first
      ↔ ∃ typed, QueryText.read whitelist text = .ok typed ∧ compile engine typed = .ok first := by
  unfold ofText
  cases QueryText.read whitelist text with
  | error fault => simp [bind, Except.bind]
  | ok typed => simp [bind, Except.bind]

/-- Clauses side by side have the criteria of both. -/
theorem compile_append (compiled : compile engine left = .ok first)
    (also : compile engine right = .ok second) :
    compile engine (left ++ right) = .ok (first.append second) := by
  rw [compile_eq_ok_iff] at compiled also ⊢
  rw [List.mapM_append, compiled, also]
  rfl

/-- The criteria of two filters are satisfied together. -/
theorem accepts_append (first second : Filter engine) (access : α → String → FieldValue)
    (item : α) :
    (first.append second).accepts access item
      = (first.accepts access item && second.accepts access item) := by
  simp only [accepts, append, List.all_append]

/-- The criteria of two filters select those of the items that one of them selects that the other
one selects. -/
theorem select_append (first second : Filter engine) (read : α → String → FieldValue)
    (items : List α) :
    (first.append second).select read items = second.select read (first.select read items) := by
  rw [select, select, select, List.filter_filter]
  refine List.filter_congr fun item _ => ?_
  rw [accepts_append, Bool.and_comm]

/-- It does not matter which of two filters selects first. -/
theorem select_comm (first second : Filter engine) (read : α → String → FieldValue)
    (items : List α) :
    second.select read (first.select read items) = first.select read (second.select read items) :=
  List.filter_comm _ _ _

/-! ## Clause by clause -/

/-- Clauses have a filter exactly if each of them has a criterion. -/
theorem exists_compile_eq_ok_iff :
    (∃ filter, compile engine clauses = .ok filter)
      ↔ ∀ clause ∈ clauses, ∃ criterion, Criterion.compile engine clause = .ok criterion := by
  rw [← exists_mapM_eq_ok_iff]
  constructor
  · rintro ⟨filter, compiled⟩
    exact ⟨filter.criteria, compile_eq_ok_iff.1 compiled⟩
  · rintro ⟨criteria, made⟩
    exact ⟨⟨criteria⟩, compile_eq_ok_iff.2 made⟩

/-- A filter accepts exactly the items that satisfy the criterion of each of its clauses. -/
theorem accepts_iff_forall_clause (compiled : compile engine clauses = .ok filter) :
    filter.accepts read item = true
      ↔ ∀ clause ∈ clauses, ∃ criterion, Criterion.compile engine clause = .ok criterion
        ∧ criterion.holds (read item clause.field) = true := by
  have each := mapM_eq_ok_iff_forall₂.1 (compile_eq_ok_iff.1 compiled)
  rw [accepts, List.all_eq_true]
  constructor
  · intro all clause member
    obtain ⟨criterion, isCriterion, made⟩ := exists_of_mem_of_forall₂ each.flip member
    exact ⟨criterion, made, Criterion.field_of_compile made ▸ all criterion isCriterion⟩
  · intro all criterion member
    obtain ⟨clause, isClause, made⟩ := exists_of_mem_of_forall₂ each member
    obtain ⟨other, found, holds⟩ := all clause isClause
    -- a clause has one criterion only, so the one that holds is the one of the filter
    obtain rfl : criterion = other := Except.ok.inj (made.symm.trans found)
    rw [Criterion.field_of_compile made]
    exact holds

/-- What more clauses accept is accepted by fewer. -/
theorem accepts_of_subset (fewer : left ⊆ right) (compiled : compile engine left = .ok first)
    (also : compile engine right = .ok second) (accepted : second.accepts read item = true) :
    first.accepts read item = true :=
  (accepts_iff_forall_clause compiled).2 fun clause member =>
    (accepts_iff_forall_clause also).1 accepted clause (fewer member)

/-- Lists with the same clauses accept the same items. -/
theorem accepts_congr (same : ∀ clause, clause ∈ left ↔ clause ∈ right)
    (compiled : compile engine left = .ok first) (also : compile engine right = .ok second) :
    first.accepts read item = second.accepts read item := by
  rw [Bool.eq_iff_iff, accepts_iff_forall_clause compiled, accepts_iff_forall_clause also]
  exact forall_congr' fun clause => imp_congr_left (same clause)

/-- Two lists of clauses side by side have a filter exactly if both of them have one. -/
theorem exists_compile_append_iff :
    (∃ whole, compile engine (left ++ right) = .ok whole)
      ↔ (∃ first, compile engine left = .ok first)
        ∧ ∃ second, compile engine right = .ok second := by
  rw [exists_compile_eq_ok_iff, exists_compile_eq_ok_iff, exists_compile_eq_ok_iff]
  exact List.forall_mem_append

/-- If more clauses have a filter, then fewer have one. -/
theorem exists_compile_of_subset (fewer : left ⊆ right)
    (made : ∃ second, compile engine right = .ok second) :
    ∃ first, compile engine left = .ok first := by
  rw [exists_compile_eq_ok_iff] at made ⊢
  exact fun clause member => made clause (fewer member)

/-- **A filter is the conjunction of its clauses.** Clauses have a filter exactly if each of them
has a criterion, and it accepts exactly the items that satisfy each of the criteria. So two lists of
clauses side by side have a filter exactly if both of them have one. It accepts exactly the items
that both of these accept, and it selects what is left when one of them selects and then the other
one, whichever comes first. With more clauses there is a filter only if there was one before, and it
selects none but the items that were selected before. Two lists with the same clauses, in any order
and any number of times, have filters together, and these select the same items. -/
theorem conjunction_of_clauses (engine : PatternEngine) (left right : List Clause)
    (read : α → String → FieldValue) (items : List α) :
    ((∃ first, compile engine left = .ok first)
      ↔ ∀ clause ∈ left, ∃ criterion, Criterion.compile engine clause = .ok criterion)
    ∧ (∀ first, compile engine left = .ok first → ∀ item, first.accepts read item = true
      ↔ ∀ clause ∈ left, ∃ criterion, Criterion.compile engine clause = .ok criterion
        ∧ criterion.holds (read item clause.field) = true)
    ∧ ((∃ whole, compile engine (left ++ right) = .ok whole)
      ↔ (∃ first, compile engine left = .ok first) ∧ ∃ second, compile engine right = .ok second)
    ∧ (∀ whole first second, compile engine (left ++ right) = .ok whole →
      compile engine left = .ok first → compile engine right = .ok second →
      (∀ item, whole.accepts read item = (first.accepts read item && second.accepts read item))
      ∧ whole.select read items = second.select read (first.select read items)
      ∧ whole.select read items = first.select read (second.select read items))
    ∧ (left ⊆ right →
      ((∃ second, compile engine right = .ok second) → ∃ first, compile engine left = .ok first)
      ∧ ∀ first second, compile engine left = .ok first → compile engine right = .ok second →
        (second.select read items).Sublist (first.select read items))
    ∧ ((∀ clause, clause ∈ left ↔ clause ∈ right) →
      ((∃ first, compile engine left = .ok first) ↔ ∃ second, compile engine right = .ok second)
      ∧ ∀ first second, compile engine left = .ok first → compile engine right = .ok second →
        first.select read items = second.select read items) := by
  refine ⟨exists_compile_eq_ok_iff, fun first compiled item => accepts_iff_forall_clause compiled,
    exists_compile_append_iff, ?_, ?_, ?_⟩
  · intro whole first second all compiled also
    -- the only filter of the clauses side by side has the criteria of both
    obtain rfl : first.append second = whole :=
      Except.ok.inj ((compile_append compiled also).symm.trans all)
    refine ⟨accepts_append first second read, select_append first second read items, ?_⟩
    rw [select_append, select_comm]
  · intro fewer
    refine ⟨exists_compile_of_subset fewer, fun first second compiled also => ?_⟩
    exact List.monotone_filter_right items fun _ => accepts_of_subset fewer compiled also
  · intro same
    have forward : left ⊆ right := fun clause => (same clause).1
    have backward : right ⊆ left := fun clause => (same clause).2
    refine ⟨⟨exists_compile_of_subset backward, exists_compile_of_subset forward⟩, ?_⟩
    intro first second compiled also
    exact List.filter_congr fun _ _ => accepts_congr same compiled also

/-- A clause that is stated once, and the same clause stated twice. -/
theorem conjunction_of_clauses_repeated :
    ∃ first second,
      compile regularExpressions
          [⟨"f", .string .matching (.one "a"), ⟨rfl, nofun, rfl⟩⟩] = .ok first
      ∧ compile regularExpressions
          [⟨"f", .string .matching (.one "a"), ⟨rfl, nofun, rfl⟩⟩,
            ⟨"f", .string .matching (.one "a"), ⟨rfl, nofun, rfl⟩⟩] = .ok second
      ∧ first.select Record.value [[("f", .string "ab")], [("f", .string "b")]]
        = second.select Record.value [[("f", .string "ab")], [("f", .string "b")]] := by
  have same := conjunction_of_clauses regularExpressions
    [⟨"f", .string .matching (.one "a"), ⟨rfl, nofun, rfl⟩⟩]
    [⟨"f", .string .matching (.one "a"), ⟨rfl, nofun, rfl⟩⟩,
      ⟨"f", .string .matching (.one "a"), ⟨rfl, nofun, rfl⟩⟩]
    Record.value [[("f", .string "ab")], [("f", .string "b")]]
  exact ⟨_, _, rfl, rfl, (same.2.2.2.2.2 (by simp)).2 _ _ rfl rfl⟩

end Filter

end RecordFilter
