/-! # Field whitelists

Which field names a query may use: any name at all, or only the listed ones.

* `Whitelist.ofNames`: a whitelist from names in any order; a `*` among them admits every name.
* `Whitelist.ofSetting`: a whitelist from a configuration value.
* `Whitelist.build`: the whitelist that a sequence of builder steps leaves.

A list of names is kept sorted and without repetitions, so lists with the same members give equal
whitelists. -/

namespace RecordFilter

/-- The entry that admits every field name. -/
def wildcard : String := "*"

/-- Put a name into a sorted list unless it is there. -/
def insertName (name : String) : List String → List String
  | [] => [name]
  | head :: rest =>
      if name < head then name :: head :: rest
      else if name = head then head :: rest
      else head :: insertName name rest

@[simp] theorem insertName_nil (name : String) : insertName name [] = [name] := rfl

/-- Insertion adds the name and loses none. -/
@[simp] theorem mem_insertName {name other : String} {names : List String} :
    other ∈ insertName name names ↔ other = name ∨ other ∈ names := by
  induction names with
  | nil => simp
  | cons head rest induction =>
      by_cases below : name < head
      · simp [insertName, below]
      · by_cases same : name = head
        · simp [insertName, same]
        · simp only [insertName, below, same, if_false, List.mem_cons, induction]
          grind

/-- The distinct members of a list of names in order. -/
def sortNames (names : List String) : List String :=
  names.foldr insertName []

/-- Sorting keeps the members. -/
@[simp] theorem mem_sortNames {name : String} {names : List String} :
    name ∈ sortNames names ↔ name ∈ names := by
  induction names with
  | nil => simp [sortNames]
  | cons head rest induction =>
      simp only [sortNames, List.foldr_cons, mem_insertName, List.mem_cons] at induction ⊢
      rw [induction]

/-- The field names that a query may use. -/
inductive Whitelist
  /-- Every name. -/
  | unrestricted
  /-- The listed names only. -/
  | listed (names : List String)
  deriving DecidableEq, Repr

namespace Whitelist

/-- A whitelist from names. The wildcard among them admits every name. -/
def ofNames (names : List String) : Whitelist :=
  if wildcard ∈ names then unrestricted else listed (sortNames names)

/-- Whether the whitelist admits the field name. -/
def allows (whitelist : Whitelist) (field : String) : Bool :=
  match whitelist with
  | unrestricted => true
  | listed names => names.contains field

/-- Whether the whitelist admits every name. -/
def isUnrestricted : Whitelist → Bool
  | unrestricted => true
  | listed _ => false

/-- The admitted names in order, if they are listed. -/
def names? : Whitelist → Option (List String)
  | unrestricted => none
  | listed names => some names

/-- A whitelist from names admits exactly them, or every name if the wildcard is among them. -/
theorem allows_ofNames {names : List String} {field : String} :
    (ofNames names).allows field = true ↔ wildcard ∈ names ∨ field ∈ names := by
  by_cases wild : wildcard ∈ names <;> simp [ofNames, allows, wild]

/-! ## Configuration -/

/-- The value of the setting that names the admitted fields. -/
inductive Setting
  /-- One text. -/
  | text (value : String)
  /-- A list of texts. -/
  | list (values : List String)
  deriving DecidableEq, Repr

/-- A setting that is one text other than the wildcard. -/
structure SettingFault where
  /-- The refused text. -/
  given : String
  deriving DecidableEq, Repr

/-- The wording of a refused setting. -/
def SettingFault.message (fault : SettingFault) : String :=
  s!"allowed keys must be \"{wildcard}\" or a list of field names, got \"{fault.given}\""

/-- The whitelist that a setting describes. -/
def ofSetting : Setting → Except SettingFault Whitelist
  | .text value => if value = wildcard then .ok unrestricted else .error ⟨value⟩
  | .list values => .ok (ofNames values)

/-! ## Builder -/

/-- One step of building a whitelist. -/
inductive Step
  /-- Admit exactly the given names. -/
  | names (values : List String)
  /-- Admit every name. -/
  | anyName
  /-- Start over. -/
  | fresh
  deriving DecidableEq, Repr

/-- The whitelist that a builder starts from: every name is admitted. -/
def initial : Whitelist := unrestricted

/-- The whitelist that a step sets, whatever was built before. -/
def Step.whitelist : Step → Whitelist
  | .names values => ofNames values
  | .anyName => unrestricted
  | .fresh => initial

/-- The whitelist that a sequence of steps leaves. -/
def build (steps : List Step) : Whitelist :=
  steps.foldl (fun _ step => step.whitelist) initial

end Whitelist

end RecordFilter
