import Mathlib.Data.List.Sort
import RecordFilter.Whitelist

/-! # Configured whitelists

A whitelist is built step by step or read from a setting. Both ways end in one normal form, so a
whitelist shows what was listed last and nothing of the way it was configured.

* `sortNames_eq_iff`: lists with the same members, and no others, are sorted into one list.
* `Whitelist.build_eq`: the last step decides.
* `Whitelist.ofNames_eq_iff`: the lists of names that describe one whitelist.
* `Whitelist.Configured`, `Whitelist.IsNormal`: the whitelists that can be configured, and those
  that do not list the wildcard as a name. They are the same (`Whitelist.configured_iff`).
* `Whitelist.configurations_agree`: all of this together. -/

namespace RecordFilter

variable {name : String} {names others : List String}

/-! ## Sorted names -/

/-- Of two names that are not in order and not the same the other one comes first. -/
theorem lt_of_not_lt_of_ne {head : String} (after : ¬ name < head) (different : name ≠ head) :
    head < name :=
  Decidable.by_contra fun before =>
    different (String.le_antisymm (String.not_lt.1 before) (String.not_lt.1 after))

/-- Insertion keeps a list in strict order. -/
theorem pairwise_insertName (sorted : names.Pairwise (· < ·)) :
    (insertName name names).Pairwise (· < ·) := by
  induction names with
  | nil => exact List.pairwise_singleton _ _
  | cons head rest induction =>
      obtain ⟨first, tail⟩ := List.pairwise_cons.1 sorted
      by_cases below : name < head
      · rw [insertName, if_pos below]
        refine List.pairwise_cons.2 ⟨?_, sorted⟩
        intro other member
        rcases List.mem_cons.1 member with rfl | later
        · exact below
        · exact String.lt_trans below (first other later)
      · by_cases same : name = head
        · rw [insertName, if_neg below, if_pos same]
          exact sorted
        · rw [insertName, if_neg below, if_neg same]
          refine List.pairwise_cons.2 ⟨?_, induction tail⟩
          intro other member
          rcases mem_insertName.1 member with rfl | later
          · exact lt_of_not_lt_of_ne below same
          · exact first other later

/-- Sorted names are in strict order. -/
theorem pairwise_sortNames (names : List String) : (sortNames names).Pairwise (· < ·) := by
  induction names with
  | nil => exact .nil
  | cons name rest induction => exact pairwise_insertName induction

/-- Lists are sorted into one list exactly if they have the same members. -/
theorem sortNames_eq_iff :
    sortNames names = sortNames others ↔ ∀ name, name ∈ names ↔ name ∈ others := by
  constructor
  · intro same name
    rw [← mem_sortNames, same, mem_sortNames]
  · intro same
    refine (pairwise_sortNames names).eq_of_mem_iff (pairwise_sortNames others) fun name => ?_
    rw [mem_sortNames, mem_sortNames, same name]

/-- Names in strict order are sorted already. -/
theorem sortNames_of_pairwise (sorted : names.Pairwise (· < ·)) : sortNames names = names :=
  (pairwise_sortNames names).eq_of_mem_iff sorted fun _ => mem_sortNames

/-! ## The last step -/

namespace Whitelist

variable {whitelist : Whitelist} {steps : List Step} {field : String}

/-- The last step decides, and without steps the whitelist is the initial one. -/
theorem build_eq (steps : List Step) :
    build steps = (steps.getLast?.map Step.whitelist).getD initial := by
  rcases List.eq_nil_or_concat steps with rfl | ⟨before, step, rfl⟩
  · rfl
  · simp [build, List.concat_eq_append]

/-- After a step that lists names the whitelist is made from these names. -/
theorem build_of_names (last : steps.getLast? = some (.names names)) :
    build steps = ofNames names := by
  rw [build_eq, last]
  rfl

/-- Unless the last step lists names, every name is admitted. -/
theorem build_of_no_names (last : ∀ names, steps.getLast? ≠ some (.names names)) :
    build steps = unrestricted := by
  rw [build_eq]
  cases ending : steps.getLast? with
  | none => rfl
  | some step =>
      cases step with
      | names values => exact absurd ending (last values)
      | anyName => rfl
      | fresh => rfl

/-! ## Names and settings -/

/-- A whitelist from names admits every name exactly if the wildcard is among them. -/
theorem isUnrestricted_ofNames : (ofNames names).isUnrestricted = true ↔ wildcard ∈ names := by
  by_cases wild : wildcard ∈ names <;> simp [ofNames, isUnrestricted, wild]

/-- Lists of names describe one whitelist exactly if both have the wildcard or both have the same
members. -/
theorem ofNames_eq_iff :
    ofNames names = ofNames others
      ↔ wildcard ∈ names ∧ wildcard ∈ others ∨ ∀ name, name ∈ names ↔ name ∈ others := by
  by_cases wild : wildcard ∈ names <;> by_cases also : wildcard ∈ others
  · simp [ofNames, wild, also]
  · have differ : ¬ ∀ name, name ∈ names ↔ name ∈ others := fun same => also ((same _).1 wild)
    simp [ofNames, wild, also, differ]
  · have differ : ¬ ∀ name, name ∈ names ↔ name ∈ others := fun same => wild ((same _).2 also)
    simp [ofNames, wild, also, differ]
  · simp [ofNames, wild, also, sortNames_eq_iff]

/-- A text is a setting exactly if it is the wildcard. -/
theorem ofSetting_text_eq_ok_iff {text : String} :
    ofSetting (.text text) = .ok whitelist ↔ text = wildcard ∧ whitelist = unrestricted := by
  by_cases wild : text = wildcard <;> simp [ofSetting, wild, eq_comm]

/-! ## Normal forms -/

/-- The whitelists that can be configured. -/
inductive Configured : Whitelist → Prop
  /-- Steps of building leave the whitelist. -/
  | built (steps : List Step) : Configured (build steps)
  /-- A setting describes the whitelist. -/
  | read {setting : Setting} {whitelist : Whitelist} (valid : ofSetting setting = .ok whitelist) :
      Configured whitelist

/-- The names are in strict order, and the wildcard is none of them. -/
def IsNormal : Whitelist → Prop
  | unrestricted => True
  | listed names => names.Pairwise (· < ·) ∧ wildcard ∉ names

/-- A whitelist from names is normal. -/
theorem isNormal_ofNames (names : List String) : (ofNames names).IsNormal := by
  by_cases wild : wildcard ∈ names
  · rw [ofNames, if_pos wild]
    trivial
  · rw [ofNames, if_neg wild]
    exact ⟨pairwise_sortNames names, mt mem_sortNames.1 wild⟩

/-- A normal whitelist is made from its own names. -/
theorem IsNormal.eq_ofNames (normal : (listed names).IsNormal) : listed names = ofNames names := by
  rw [ofNames, if_neg normal.2, sortNames_of_pairwise normal.1]

/-- The whitelists that can be configured are the normal ones. -/
theorem configured_iff : Configured whitelist ↔ whitelist.IsNormal := by
  constructor
  · intro configured
    cases configured with
    | built steps =>
        by_cases last : ∃ names, steps.getLast? = some (.names names)
        · obtain ⟨names, last⟩ := last
          rw [build_of_names last]
          exact isNormal_ofNames names
        · rw [build_of_no_names (not_exists.1 last)]
          trivial
    | @read setting _ valid =>
        cases setting with
        | text text =>
            obtain ⟨-, rfl⟩ := ofSetting_text_eq_ok_iff.1 valid
            trivial
        | list names =>
            cases valid
            exact isNormal_ofNames names
  · intro normal
    cases whitelist with
    | unrestricted => exact .built []
    | listed names =>
        have described : ofSetting (.list names) = .ok (listed names) :=
          congrArg Except.ok normal.eq_ofNames.symm
        exact .read described

/-- A normal whitelist that admits the wildcard as a name admits every name. -/
theorem IsNormal.allows_all (normal : whitelist.IsNormal) (wild : whitelist.allows wildcard = true)
    (field : String) : whitelist.allows field = true := by
  cases whitelist with
  | unrestricted => rfl
  | listed names => exact absurd (List.contains_iff_mem.1 wild) normal.2

/-- **All ways to configure a whitelist agree.** Of some steps of building only the last one counts.
If it lists names, these are admitted, or every name if the wildcard is among them, and the same
names as a setting give the same whitelist. If it lists none, or if there are no steps, every name
is admitted. Settings that list names give one whitelist exactly if they have the same members, or
both the wildcard, and a single text is a setting exactly if it is the wildcard. The whitelists that
can be configured are the normal ones, so no configured whitelist has the wildcard as a name: if it
admits that name, it admits every name. -/
theorem configurations_agree :
    (∀ steps others : List Step, steps.getLast? = others.getLast? → build steps = build others)
    ∧ (∀ steps names, steps.getLast? = some (.names names) →
        (∀ field, (build steps).allows field = true ↔ wildcard ∈ names ∨ field ∈ names)
        ∧ ((build steps).isUnrestricted = true ↔ wildcard ∈ names)
        ∧ ofSetting (.list names) = .ok (build steps))
    ∧ (∀ steps, (∀ names, steps.getLast? ≠ some (.names names)) →
        ∀ field, (build steps).allows field = true)
    ∧ (∀ names others, ofSetting (.list names) = ofSetting (.list others)
        ↔ wildcard ∈ names ∧ wildcard ∈ others ∨ ∀ name, name ∈ names ↔ name ∈ others)
    ∧ (∀ text whitelist, ofSetting (.text text) = .ok whitelist
        ↔ text = wildcard ∧ whitelist = unrestricted)
    ∧ (∀ whitelist, Configured whitelist ↔ whitelist.IsNormal)
    ∧ ∀ whitelist, Configured whitelist → whitelist.allows wildcard = true →
        ∀ field, whitelist.allows field = true := by
  refine ⟨?_, ?_, ?_, ?_, fun _ _ => ofSetting_text_eq_ok_iff, fun _ => configured_iff, ?_⟩
  · intro steps others same
    rw [build_eq, build_eq, same]
  · intro steps names last
    rw [build_of_names last]
    exact ⟨fun _ => allows_ofNames, isUnrestricted_ofNames, rfl⟩
  · intro steps last field
    rw [build_of_no_names last]
    rfl
  · intro names others
    rw [ofSetting, ofSetting, Except.ok.injEq, ofNames_eq_iff]
  · intro whitelist configured
    exact (configured_iff.1 configured).allows_all

/-- Names that are listed twice and replaced, a wildcard among names, and a fresh start after
names. -/
theorem configurations_agree_repeated :
    build [.names ["c"], .names ["b", "a", "b"]] = build [.anyName, .names ["b", "a", "b"]]
      ∧ ofSetting (.list ["b", "a", "b"]) = .ok (build [.names ["c"], .names ["b", "a", "b"]])
      ∧ (build [.names ["c"], .names ["b", "a", "b"]]).allows "c" = false
      ∧ ofSetting (.list ["b", "a", "b"]) = ofSetting (.list ["a", "b"])
      ∧ (build [.names ["a", "*"]]).allows "c" = true
      ∧ (build [.names ["a"], .fresh]).allows "c" = true := by
  obtain ⟨last, listed, none, settings, -, -, wild⟩ := configurations_agree
  obtain ⟨allowed, -, setting⟩ := listed [.names ["c"], .names ["b", "a", "b"]] ["b", "a", "b"] rfl
  refine ⟨last _ _ rfl, setting, ?_, (settings _ _).2 (.inr ?_), ?_, ?_⟩
  · exact Bool.eq_false_iff.2 (mt (allowed "c").1 (by decide))
  · intro name
    simp only [List.mem_cons, List.not_mem_nil, or_false]
    grind
  · -- a configured whitelist that admits the wildcard admits everything
    exact wild _ (.built [.names ["a", "*"]]) rfl "c"
  · exact none [.names ["a"], .fresh] (by simp) "c"

end Whitelist

end RecordFilter
