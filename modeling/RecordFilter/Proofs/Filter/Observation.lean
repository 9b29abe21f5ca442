import RecordFilter.Pattern.Engine
import RecordFilter.Proofs.Filter.Conjunction
import RecordFilter.Proofs.Filter.Selection
import RecordFilter.Proofs.QueryText.Restriction

/-! # What a filter can observe

A filter looks at the fields of its criteria and at nothing else, and those of a query text are
admitted by its whitelist. So items that agree on the admitted fields cannot be told apart, whatever
their other fields are.

* `Filter.allows_of_ofText`: the criteria of a text test admitted fields.
* `Filter.AgreeOn`, `Filter.accepts_eq_of_agreeOn`: items that agree on the admitted fields.
* `Filter.indicesWhere_eq_map`: the indices of the accepted items depend on the answers alone.
* `Filter.hidden_fields_unobservable`: the filter of a text and its hidden fields. -/

namespace RecordFilter

namespace Filter

variable {engine : PatternEngine} {whitelist : Whitelist} {text : String} {filter : Filter engine}
  {α : Type u} {β : Type v}

/-! ## Fields that are looked at -/

/-- The criteria of a text test fields that its whitelist admits. -/
theorem allows_of_ofText (described : ofText engine whitelist text = .ok filter) :
    ∀ criterion ∈ filter.criteria, whitelist.allows criterion.field = true := by
  intro criterion member
  obtain ⟨typed, accepted, compiled⟩ := ofText_eq_ok_iff.1 described
  have each := mapM_eq_ok_iff_forall₂.1 (compile_eq_ok_iff.1 compiled)
  obtain ⟨clause, isTyped, made⟩ := exists_of_mem_of_forall₂ each member
  rw [Criterion.field_of_compile made]
  exact QueryText.allows_of_read accepted clause isTyped

/-- Two items agree on the fields that a whitelist admits. -/
def AgreeOn (whitelist : Whitelist) (left : α → String → FieldValue)
    (right : β → String → FieldValue) (item : α) (other : β) : Prop :=
  ∀ field, whitelist.allows field = true → left item field = right other field

/-- A filter that tests admitted fields only does not tell apart items that agree on them. -/
theorem accepts_eq_of_agreeOn {left : α → String → FieldValue} {right : β → String → FieldValue}
    {item : α} {other : β}
    (admitted : ∀ criterion ∈ filter.criteria, whitelist.allows criterion.field = true)
    (agree : AgreeOn whitelist left right item other) :
    filter.accepts left item = filter.accepts right other := by
  rw [Bool.eq_iff_iff, accepts, accepts, List.all_eq_true, List.all_eq_true]
  refine forall₂_congr fun criterion member => ?_
  rw [agree criterion.field (admitted criterion member)]

/-! ## Answers for lists -/

/-- The indices can be told from the answers alone. -/
theorem indicesWhere_eq_map (test : α → Bool) (items : List α) :
    indicesWhere test items = indicesWhere id (items.map test) := by
  simp [indicesWhere, Option.any_map]

/-- Tests that agree item by item give the same answers. -/
theorem map_eq_map_of_forall₂ {test : α → Bool} {probe : β → Bool} {items : List α}
    {others : List β}
    (same : List.Forall₂ (fun item other => test item = probe other) items others) :
    items.map test = others.map probe := by
  rw [← List.forall₂_eq_eq_eq, List.forall₂_map_left_iff, List.forall₂_map_right_iff]
  exact same

/-- **Hidden fields cannot be observed.** Let two lists of items agree, item by item, on the fields
that the whitelist of a query text admits. Then the filter of the text accepts both items or none of
each pair, selects, clones and retains the items at the same indices, gives the same count and the
same answers about any item and all items, and finds its first item at the same index. -/
theorem hidden_fields_unobservable (engine : PatternEngine) (whitelist : Whitelist) (text : String)
    (filter : Filter engine) (described : ofText engine whitelist text = .ok filter)
    (left : α → String → FieldValue) (right : β → String → FieldValue) (items : List α)
    (others : List β) (agree : List.Forall₂ (AgreeOn whitelist left right) items others) :
    List.Forall₂ (fun item other => filter.accepts left item = filter.accepts right other) items
        others
    ∧ (∃ kept : List Nat, kept.Pairwise (· < ·)
      ∧ (∀ index, index ∈ kept
        ↔ ∃ item, items[index]? = some item ∧ filter.accepts left item = true)
      ∧ filter.select left items = kept.filterMap (items[·]?)
      ∧ filter.select right others = kept.filterMap (others[·]?)
      ∧ (∀ clone : α → α,
        filter.selectCloned clone left items = (kept.filterMap (items[·]?)).map clone)
      ∧ (∀ clone : β → β,
        filter.selectCloned clone right others = (kept.filterMap (others[·]?)).map clone)
      ∧ (filter.retain left items.toArray).toList = kept.filterMap (items[·]?)
      ∧ (filter.retain right others.toArray).toList = kept.filterMap (others[·]?))
    ∧ filter.count left items = filter.count right others
    ∧ filter.any left items = filter.any right others
    ∧ filter.all left items = filter.all right others
    ∧ filter.position? left items = filter.position? right others
    ∧ filter.find? left items = (filter.position? left items).bind (items[·]?)
    ∧ filter.find? right others = (filter.position? right others).bind (others[·]?) := by
  have admitted := allows_of_ofText described
  have same : List.Forall₂ (fun item other => filter.accepts left item = filter.accepts right other)
      items others := agree.imp fun _ _ => accepts_eq_of_agreeOn admitted
  -- every operation can be told from the answers for the items, and these are the same
  have answers := map_eq_map_of_forall₂ same
  have indices : indicesWhere (filter.accepts left) items
      = indicesWhere (filter.accepts right) others := by
    rw [indicesWhere_eq_map, answers, ← indicesWhere_eq_map]
  have selected : filter.select left items
      = (indicesWhere (filter.accepts left) items).filterMap (items[·]?) :=
    filter_eq_filterMap _ items
  have selectedToo : filter.select right others
      = (indicesWhere (filter.accepts left) items).filterMap (others[·]?) := by
    rw [indices]
    exact filter_eq_filterMap _ others
  refine ⟨same, ⟨indicesWhere (filter.accepts left) items, ?_, fun _ => mem_indicesWhere, selected,
    selectedToo, ?_, ?_, ?_, ?_⟩, ?_, ?_, ?_, ?_, ?_, ?_⟩
  · exact List.pairwise_lt_range.filter _
  · intro clone
    rw [selectCloned, selected]
  · intro clone
    rw [selectCloned, selectedToo]
  · rw [retain, Array.toList_filter, ← selected, select]
  · rw [retain, Array.toList_filter, ← selectedToo, select]
  · have count := congrArg (List.countP id) answers
    rwa [List.countP_map, List.countP_map] at count
  · have any := congrArg (List.any · id) answers
    simp only [List.any_map] at any
    exact any
  · have all := congrArg (List.all · id) answers
    simp only [List.all_map] at all
    exact all
  · have first := congrArg (List.findIdx? id) answers
    rwa [List.findIdx?_map, List.findIdx?_map] at first
  · exact List.find?_eq_bind_findIdx?_getElem?
  · exact List.find?_eq_bind_findIdx?_getElem?

/-- A filter over one field and two records that differ in another one. -/
theorem hidden_fields_unobservable_two_records :
    ∃ filter, ofText regularExpressions (.listed ["a"]) "s:a:=:x" = .ok filter
      ∧ List.Forall₂ (AgreeOn (.listed ["a"]) Record.value Record.value)
        [[("a", .string "x"), ("b", .boolean true)], [("b", .null)]]
        [[("a", .string "x")], [("b", .string "x")]]
      ∧ filter.selectCloned id Record.value
          [[("a", .string "x"), ("b", .boolean true)], [("b", .null)]]
        = [[("a", .string "x"), ("b", .boolean true)]]
      ∧ filter.selectCloned id Record.value [[("a", .string "x")], [("b", .string "x")]]
        = [[("a", .string "x")]]
      ∧ filter.position? Record.value [[("a", .string "x"), ("b", .boolean true)], [("b", .null)]]
        = filter.position? Record.value [[("a", .string "x")], [("b", .string "x")]] := by
  have agree : List.Forall₂ (AgreeOn (.listed ["a"]) Record.value Record.value)
      [[("a", .string "x"), ("b", .boolean true)], [("b", .null)]]
      [[("a", .string "x")], [("b", .string "x")]] := by
    refine .cons ?_ (.cons ?_ .nil)
    all_goals
      intro field allowed
      obtain rfl : field = "a" := by simpa [Whitelist.allows] using allowed
      rfl
  obtain ⟨-, ⟨kept, -, -, selected, selectedToo, cloned, clonedToo, -⟩, -, -, -, position, -⟩ :=
    hidden_fields_unobservable regularExpressions (.listed ["a"]) "s:a:=:x" _ rfl
      Record.value Record.value _ _ agree
  refine ⟨_, rfl, agree, ?_, ?_, position⟩
  · rw [cloned id, List.map_id, ← selected]
    rfl
  · rw [clonedToo id, List.map_id, ← selectedToo]
    rfl

end Filter

end RecordFilter
