import RecordFilter.Criterion
import RecordFilter.QueryText.Reader

/-! # Filters

A filter accepts the items that satisfy all of its criteria. Items are read through a function from
an item and a field name to the value of the field.

* `Filter.compile`, `Filter.ofText`: filters from clauses and from query texts.
* `Filter.accepts`: whether an item satisfies every criterion.
* `Filter.select`, `Filter.selectCloned`, `Filter.retain`: the accepted items of a list or an array.
* `Filter.count`, `Filter.any`, `Filter.all`, `Filter.find?`, `Filter.position?`: questions about
  the accepted items of a list. -/

namespace RecordFilter

/-- A conjunction of criteria. -/
structure Filter (engine : PatternEngine) where
  /-- The criteria. -/
  criteria : List (Criterion engine)

namespace Filter

variable {engine : PatternEngine} {α : Type u}

/-- The filter for a list of clauses. -/
def compile (engine : PatternEngine) (clauses : List Clause) : Except Fault (Filter engine) :=
  (clauses.mapM (Criterion.compile engine)).map Filter.mk

/-- The filter that a query text describes. -/
def ofText (engine : PatternEngine) (whitelist : Whitelist) (text : String) :
    Except Fault (Filter engine) := do
  compile engine (← QueryText.read whitelist text)

/-- Whether there are no criteria. -/
def isEmpty (filter : Filter engine) : Bool := filter.criteria.isEmpty

/-- The fields that are tested, in order. -/
def fields (filter : Filter engine) : List String := filter.criteria.map Criterion.field

/-- Whether the item satisfies every criterion. -/
def accepts (filter : Filter engine) (read : α → String → FieldValue) (item : α) : Bool :=
  filter.criteria.all fun criterion => criterion.holds (read item criterion.field)

/-- The accepted items in order. -/
def select (filter : Filter engine) (read : α → String → FieldValue) (items : List α) : List α :=
  items.filter (filter.accepts read)

/-- Clones of the accepted items in order. -/
def selectCloned (filter : Filter engine) (clone : α → α) (read : α → String → FieldValue)
    (items : List α) : List α :=
  (filter.select read items).map clone

/-- An array without the items that are not accepted. -/
def retain (filter : Filter engine) (read : α → String → FieldValue) (items : Array α) : Array α :=
  items.filter (filter.accepts read)

/-- The number of accepted items. -/
def count (filter : Filter engine) (read : α → String → FieldValue) (items : List α) : Nat :=
  items.countP (filter.accepts read)

/-- Whether some item is accepted. -/
def any (filter : Filter engine) (read : α → String → FieldValue) (items : List α) : Bool :=
  items.any (filter.accepts read)

/-- Whether every item is accepted. -/
def all (filter : Filter engine) (read : α → String → FieldValue) (items : List α) : Bool :=
  items.all (filter.accepts read)

/-- The first accepted item. -/
def find? (filter : Filter engine) (read : α → String → FieldValue) (items : List α) : Option α :=
  items.find? (filter.accepts read)

/-- The index of the first accepted item. -/
def position? (filter : Filter engine) (read : α → String → FieldValue) (items : List α) :
    Option Nat :=
  items.findIdx? (filter.accepts read)

end Filter

end RecordFilter
