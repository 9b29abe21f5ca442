import Mathlib.Data.List.Forall2

/-! # Conversions that stop at the first failure

Converting the members of a list in order either converts all of them or stops at the first one
that fails, and that failure is the answer.

* `bind_eq_ok_iff`, `bind_eq_error_iff`: one step after another.
* `mapM_eq_ok_iff_forall₂`: a successful conversion, member by member.
* `exists_of_mem_of_forall₂`, `exists_of_mem_left_of_forall₂`, `forall₂_imp_of_mem`,
  `exists_forall₂`: lists that are related member by member.
* `exists_mapM_eq_ok_iff`: when there is a conversion at all.
* `mapM_eq_error_of_first`: the first failure is the answer.
* `mapM_cases`: the two ways a conversion can end.
* `mapM_eq_error_iff`: the members before the first failure are converted.
* `exists_of_mapM_eq_error`: where a failure comes from. -/

namespace RecordFilter

variable {α β ε : Type} {convert : α → Except ε β} {values : List α} {failure : ε}

/-- Two steps in a row succeed exactly if each of them does. -/
theorem bind_eq_ok_iff {first : Except ε α} {second : α → Except ε β} {result : β} :
    (first >>= second) = .ok result ↔ ∃ value, first = .ok value ∧ second value = .ok result := by
  cases first <;> simp [bind, Except.bind]

/-- Two steps in a row fail exactly if the first one does or the second one after it. -/
theorem bind_eq_error_iff {first : Except ε α} {second : α → Except ε β} :
    (first >>= second) = .error failure
      ↔ first = .error failure ∨ ∃ value, first = .ok value ∧ second value = .error failure := by
  cases first <;> simp [bind, Except.bind]

/-- A conversion succeeds exactly if every member is converted, in order. -/
theorem mapM_eq_ok_iff_forall₂ {converted : List β} :
    values.mapM convert = .ok converted
      ↔ List.Forall₂ (fun value result => convert value = .ok result) values converted := by
  induction values generalizing converted with
  | nil => cases converted <;> simp [pure, Except.pure]
  | cons value rest induction =>
      rw [List.mapM_cons]
      cases converted with
      | nil =>
          cases convert value <;> cases rest.mapM convert <;>
            simp [bind, Except.bind, pure, Except.pure]
      | cons first others =>
          rw [List.forall₂_cons, ← induction]
          cases convert value <;> cases rest.mapM convert <;>
            simp [bind, Except.bind, pure, Except.pure]

/-- Every member of a converted list comes from a member of the list. -/
theorem exists_of_mem_of_forall₂ {relation : α → β → Prop} {converted : List β} {result : β}
    (related : List.Forall₂ relation values converted) (member : result ∈ converted) :
    ∃ value ∈ values, relation value result := by
  induction related with
  | nil => cases member
  | cons head tail induction =>
      rcases List.mem_cons.1 member with rfl | member
      · exact ⟨_, List.mem_cons_self, head⟩
      · obtain ⟨value, isMember, found⟩ := induction member
        exact ⟨value, List.mem_cons_of_mem _ isMember, found⟩

/-- A relation to the members of a list can be replaced by one that it implies there. -/
theorem forall₂_imp_of_mem {relation other : α → β → Prop} {converted : List β}
    (related : List.Forall₂ relation values converted)
    (implies : ∀ value, ∀ result ∈ converted, relation value result → other value result) :
    List.Forall₂ other values converted := by
  induction related with
  | nil => exact .nil
  | cons head tail induction =>
      have first := implies _ _ List.mem_cons_self head
      exact .cons first (induction fun value result member =>
        implies value result (List.mem_cons_of_mem _ member))

/-- Every member of a list that is converted goes to a member of the converted list. -/
theorem exists_of_mem_left_of_forall₂ {relation : α → β → Prop} {converted : List β} {value : α}
    (related : List.Forall₂ relation values converted) (member : value ∈ values) :
    ∃ result ∈ converted, relation value result :=
  exists_of_mem_of_forall₂ related.flip member

/-- A list is related to another one if each member of that one has a relative. -/
theorem exists_forall₂ {relation : α → β → Prop} {converted : List β}
    (each : ∀ result ∈ converted, ∃ value, relation value result) :
    ∃ values, List.Forall₂ relation values converted := by
  induction converted with
  | nil => exact ⟨[], .nil⟩
  | cons result rest induction =>
      obtain ⟨value, head⟩ := each result List.mem_cons_self
      obtain ⟨values, tail⟩ := induction fun other member =>
        each other (List.mem_cons_of_mem _ member)
      exact ⟨value :: values, .cons head tail⟩

/-- There is a conversion exactly if every member can be converted. -/
theorem exists_mapM_eq_ok_iff :
    (∃ converted, values.mapM convert = .ok converted)
      ↔ ∀ value ∈ values, ∃ result, convert value = .ok result := by
  constructor
  · rintro ⟨converted, made⟩ value member
    have each := mapM_eq_ok_iff_forall₂.1 made
    obtain ⟨result, -, found⟩ := exists_of_mem_left_of_forall₂ each member
    exact ⟨result, found⟩
  · intro each
    obtain ⟨converted, made⟩ := exists_forall₂ each
    exact ⟨converted, mapM_eq_ok_iff_forall₂.2 made.flip⟩

/-- The first failure is the answer, whatever comes after it. -/
theorem mapM_eq_error_of_first {before : List α} {converted : List β} {value : α}
    (fine : List.Forall₂ (fun value result => convert value = .ok result) before converted)
    (failed : convert value = .error failure) (after : List α) :
    (before ++ value :: after).mapM convert = .error failure := by
  rw [List.mapM_append, mapM_eq_ok_iff_forall₂.2 fine, List.mapM_cons, failed]
  rfl

/-- A conversion converts every member, or stops at the first one that fails. -/
theorem mapM_cases (convert : α → Except ε β) (values : List α) :
    (∃ converted, List.Forall₂ (fun value result => convert value = .ok result) values converted)
      ∨ ∃ before converted value after failure, values = before ++ value :: after
        ∧ List.Forall₂ (fun value result => convert value = .ok result) before converted
        ∧ convert value = .error failure := by
  induction values with
  | nil => exact .inl ⟨[], .nil⟩
  | cons value rest induction =>
      cases head : convert value with
      | error failure => exact .inr ⟨[], [], value, rest, failure, rfl, .nil, head⟩
      | ok first =>
          -- the first member is converted, so the others decide
          rcases induction with ⟨others, fine⟩
            | ⟨before, others, bad, after, failure, rfl, fine, failed⟩
          · exact .inl ⟨first :: others, .cons head fine⟩
          · exact .inr ⟨value :: before, first :: others, bad, after, failure, rfl, .cons head fine,
              failed⟩

/-- A conversion fails exactly with the failure of a member before which every member is
converted. -/
theorem mapM_eq_error_iff :
    values.mapM convert = .error failure
      ↔ ∃ before value after, values = before ++ value :: after
        ∧ (∀ earlier ∈ before, ∃ result, convert earlier = .ok result)
        ∧ convert value = .error failure := by
  constructor
  · intro failed
    rcases mapM_cases convert values with ⟨converted, fine⟩
      | ⟨before, converted, value, after, found, rfl, fine, refused⟩
    · rw [mapM_eq_ok_iff_forall₂.2 fine] at failed
      cases failed
    · rw [mapM_eq_error_of_first fine refused] at failed
      cases failed
      have each := exists_mapM_eq_ok_iff.1 ⟨converted, mapM_eq_ok_iff_forall₂.2 fine⟩
      exact ⟨before, value, after, rfl, each, refused⟩
  · rintro ⟨before, value, after, rfl, fine, refused⟩
    obtain ⟨converted, made⟩ := exists_mapM_eq_ok_iff.2 fine
    exact mapM_eq_error_of_first (mapM_eq_ok_iff_forall₂.1 made) refused after

/-- A conversion that fails fails on one of its members. -/
theorem exists_of_mapM_eq_error (failed : values.mapM convert = .error failure) :
    ∃ value ∈ values, convert value = .error failure := by
  obtain ⟨before, value, after, rfl, -, refused⟩ := mapM_eq_error_iff.1 failed
  exact ⟨value, List.mem_append_cons_self, refused⟩

end RecordFilter
