import Mathlib.Data.List.Basic
import RecordFilter.Filter
import RecordFilter.Pattern.Engine

/-! # The operations of a filter on a list

All operations of a filter on a list can be told from the items it selects, which are those that it
accepts, in the order of the list and as often as they occur.

* `Filter.indicesWhere`: the indices of the accepted items. They determine which items are selected
  (`Filter.map_getElem?_indicesWhere`, `Filter.filter_eq_filterMap`).
* `Filter.any_eq_true_iff`, `Filter.all_eq_true_iff`, `Filter.position?_eq_some_iff`: what the
  answers mean.
* `Filter.accepts_of_isEmpty`: a filter without criteria accepts every item.
* `Filter.operations_agree`: all of this together. -/

namespace RecordFilter

namespace Filter

variable {engine : PatternEngine} {α : Type u}

/-! ## Indices of the accepted items -/

/-- The indices of the items that a test accepts, in order. -/
def indicesWhere (test : α → Bool) (items : List α) : List Nat :=
  (List.range items.length).filter fun index => items[index]?.any test

/-- An index is found exactly if its item is accepted. -/
theorem mem_indicesWhere {test : α → Bool} {items : List α} {index : Nat} :
    index ∈ indicesWhere test items ↔ ∃ item, items[index]? = some item ∧ test item = true := by
  rw [indicesWhere, List.mem_filter, List.mem_range, Option.any_eq_true]
  constructor
  · exact fun found => found.2
  · rintro ⟨item, here, accepted⟩
    exact ⟨(List.getElem?_eq_some_iff.1 here).1, item, here, accepted⟩

/-- The indices of a longer list are the first one, if it is found, and the others moved by one. -/
theorem indicesWhere_cons (test : α → Bool) (item : α) (items : List α) :
    indicesWhere test (item :: items)
      = (if test item then [0] else []) ++ (indicesWhere test items).map (· + 1) := by
  rw [indicesWhere, List.length_cons, List.range_succ_eq_map, List.filter_cons, List.filter_map]
  by_cases accepted : test item <;> simp [accepted, indicesWhere, Function.comp_def]

/-- At each of the indices there is an item, and these are the accepted items. -/
theorem map_getElem?_indicesWhere (test : α → Bool) (items : List α) :
    (indicesWhere test items).map (items[·]?) = (items.filter test).map some := by
  induction items with
  | nil => rfl
  | cons item items induction =>
      rw [indicesWhere_cons, List.map_append, List.map_map, List.filter_cons]
      -- behind the first item each index stands for the same item as in the shorter list
      change _ ++ (indicesWhere test items).map (items[·]?) = _
      rw [induction]
      by_cases accepted : test item <;> simp [accepted]

/-- The accepted items are the items at the indices. -/
theorem filter_eq_filterMap (test : α → Bool) (items : List α) :
    items.filter test = (indicesWhere test items).filterMap (items[·]?) := by
  -- no index is lost, as there is an item at each of them
  have same := congrArg (List.filterMap id) (map_getElem?_indicesWhere test items)
  rw [List.filterMap_map, List.filterMap_map] at same
  exact List.filterMap_some.symm.trans same.symm

/-! ## Answers -/

variable {filter : Filter engine} {read : α → String → FieldValue} {items : List α}

/-- Some item is accepted exactly if an item is selected. -/
theorem any_eq_true_iff : filter.any read items = true ↔ filter.select read items ≠ [] := by
  rw [any, select, List.any_eq_true, ne_eq, List.filter_eq_nil_iff]
  simp

/-- Every item is accepted exactly if as many are selected as there are. -/
theorem all_eq_true_iff :
    filter.all read items = true ↔ (filter.select read items).length = items.length := by
  rw [all, select, List.all_eq_true, List.length_filter_eq_length_iff]

/-- The position is that of the first accepted item. -/
theorem position?_eq_some_iff {index : Nat} :
    filter.position? read items = some index
      ↔ (∃ item, items[index]? = some item ∧ filter.accepts read item = true)
        ∧ ∀ earlier < index, ∀ item, items[earlier]? = some item →
          filter.accepts read item = false := by
  rw [position?, List.findIdx?_eq_some_iff_getElem]
  constructor
  · rintro ⟨bound, accepted, refused⟩
    refine ⟨⟨items[index], List.getElem?_eq_getElem bound, accepted⟩, ?_⟩
    intro earlier before item here
    obtain ⟨_, rfl⟩ := List.getElem?_eq_some_iff.1 here
    exact Bool.eq_false_iff.2 (refused earlier before)
  · rintro ⟨⟨item, here, accepted⟩, refused⟩
    obtain ⟨bound, rfl⟩ := List.getElem?_eq_some_iff.1 here
    refine ⟨bound, accepted, fun earlier before => ?_⟩
    exact Bool.eq_false_iff.1 (refused earlier before _ (List.getElem?_eq_getElem _))

/-- There is no position exactly if no item is accepted. -/
theorem position?_eq_none_iff :
    filter.position? read items = none ↔ filter.any read items = false := by
  rw [position?, any, List.findIdx?_eq_none_iff, List.any_eq_false]
  simp only [Bool.not_eq_true]

/-- A filter without criteria accepts every item. -/
theorem accepts_of_isEmpty (empty : filter.isEmpty = true) (item : α) :
    filter.accepts read item = true := by
  rw [accepts, List.isEmpty_iff.1 empty]
  rfl

/-- **All operations on a list agree.** A filter selects exactly the items that it accepts, in the
order of the list and as often as they occur. Clones of them are the same items, if a clone is the
same as its item, and they are what is left of an array. Their number is the count, and it tells
whether any item and whether every item is accepted. The first of them is the one that is found, the
position is its index, and no item before that index is accepted. Without criteria every list stays
as it is. -/
theorem operations_agree (filter : Filter engine) (read : α → String → FieldValue)
    (items : List α) :
    (∃ kept : List Nat, kept.Pairwise (· < ·)
      ∧ (∀ index, index ∈ kept
        ↔ ∃ item, items[index]? = some item ∧ filter.accepts read item = true)
      ∧ kept.map (items[·]?) = (filter.select read items).map some)
    ∧ (∀ clone : α → α, (∀ item ∈ items, clone item = item) →
      filter.selectCloned clone read items = filter.select read items)
    ∧ filter.retain read items.toArray = (filter.select read items).toArray
    ∧ filter.count read items = (filter.select read items).length
    ∧ (filter.any read items = true ↔ filter.select read items ≠ [])
    ∧ (filter.all read items = true ↔ (filter.select read items).length = items.length)
    ∧ filter.find? read items = (filter.select read items).head?
    ∧ filter.find? read items = (filter.position? read items).bind (items[·]?)
    ∧ (∀ index, filter.position? read items = some index
      ↔ (∃ item, items[index]? = some item ∧ filter.accepts read item = true)
        ∧ ∀ earlier < index, ∀ item, items[earlier]? = some item →
          filter.accepts read item = false)
    ∧ (filter.position? read items = none ↔ filter.any read items = false)
    ∧ (filter.isEmpty = true → filter.select read items = items) := by
  refine ⟨⟨indicesWhere (filter.accepts read) items, ?_, fun _ => mem_indicesWhere, ?_⟩, ?_, ?_, ?_,
    any_eq_true_iff, all_eq_true_iff, ?_, ?_, fun _ => position?_eq_some_iff,
    position?_eq_none_iff, ?_⟩
  · exact List.pairwise_lt_range.filter _
  · exact map_getElem?_indicesWhere _ items
  · intro clone same
    exact (List.map_congr_left fun item member => same item (List.mem_filter.1 member).1).trans
      (List.map_id _)
  · exact List.filter_toArray
  · exact List.countP_eq_length_filter
  · exact List.head?_filter.symm
  · exact List.find?_eq_bind_findIdx?_getElem?
  · exact fun empty => List.filter_eq_self.2 fun item _ => accepts_of_isEmpty empty item

/-- A text that occurs twice between others, for a filter with one criterion and for one without
criteria. -/
theorem operations_agree_repeated :
    (∃ filter : Filter regularExpressions,
      ofText regularExpressions .unrestricted "s:a:=:x" = .ok filter
      ∧ filter.selectCloned id (fun value _ => value)
          [.string "y", .string "x", .null, .string "x"] = [.string "x", .string "x"]
      ∧ filter.retain (fun value _ => value)
          #[.string "y", .string "x", .null, .string "x"] = #[.string "x", .string "x"]
      ∧ filter.count (fun value _ => value) [.string "y", .string "x", .null, .string "x"] = 2
      ∧ filter.any (fun value _ => value) [.string "y", .string "x", .null, .string "x"] = true
      ∧ filter.all (fun value _ => value) [.string "y", .string "x", .null, .string "x"] ≠ true
      ∧ filter.find? (fun value _ => value) [.string "y", .string "x", .null, .string "x"]
        = some (.string "x")
      ∧ filter.position? (fun value _ => value) [.string "y", .string "x", .null, .string "x"]
        = some 1)
    ∧ (⟨[]⟩ : Filter regularExpressions).select (fun value _ => value)
        [.string "x", .null, FieldValue.string "x"] = [.string "x", .null, .string "x"] := by
  constructor
  · let filter : Filter regularExpressions :=
      ⟨[⟨⟨"a", .string .equal (.one "x"), ⟨rfl, nofun, rfl⟩⟩, []⟩]⟩
    obtain ⟨-, cloned, retained, counted, someAccepted, allAccepted, found, -, first, -, -⟩ :=
      operations_agree filter (fun value _ => value)
        [.string "y", .string "x", .null, .string "x"]
    have selected : filter.select (fun value _ => value)
        [.string "y", .string "x", .null, .string "x"] = [.string "x", .string "x"] := rfl
    rw [selected] at cloned retained counted someAccepted allAccepted found
    refine ⟨filter, rfl, cloned id fun _ _ => rfl, retained, counted, someAccepted.2 nofun, ?_,
      found, (first 1).2 ⟨⟨_, rfl, rfl⟩, ?_⟩⟩
    · intro all
      exact absurd (allAccepted.1 all) (by decide)
    · intro earlier before item here
      obtain rfl := Nat.lt_one_iff.1 before
      cases here
      rfl
  · obtain ⟨-, -, -, -, -, -, -, -, -, -, unchanged⟩ :=
      operations_agree (⟨[]⟩ : Filter regularExpressions) (fun value _ => value)
        [.string "x", .null, FieldValue.string "x"]
    exact unchanged rfl

end Filter

end RecordFilter
