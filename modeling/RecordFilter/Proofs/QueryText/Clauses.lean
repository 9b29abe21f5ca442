import RecordFilter.Proofs.QueryText.Run
import RecordFilter.QueryText.Reader

/-! # Typed clauses and clauses as they are written

A text has typed clauses exactly if it is accepted and each of its clauses can be typed.

* `mapM_bind_eq_ok_iff`: collecting and converting at once succeeds exactly if collecting first and
  then converting does.
* `read_eq_ok_iff`: the same for the clauses of a text. -/

namespace RecordFilter

namespace QueryText

variable {α β : Type} {convert : α → Except Fault β}

/-- Items that are collected and converted at once are converted after they are collected. -/
theorem mapM_bind_eq_ok_iff {found : List (Except Fault α)} {converted : List β} :
    (found.mapM fun item => item >>= convert) = .ok converted
      ↔ ∃ values : List α, found = values.map .ok ∧ values.mapM convert = .ok converted := by
  constructor
  · intro collected
    induction found generalizing converted with
    | nil => exact ⟨[], rfl, collected⟩
    | cons item rest induction =>
        rw [List.mapM_cons] at collected
        cases item with
        | error fault => cases collected
        | ok value =>
            -- the item is a value, so its conversion comes first
            change (convert value >>= fun first => (rest.mapM fun item => item >>= convert)
              >>= fun others => pure (first :: others)) = .ok converted at collected
            cases head : convert value with
            | error fault =>
                rw [head] at collected
                cases collected
            | ok first =>
                cases tail : rest.mapM fun item => item >>= convert with
                | error fault =>
                    rw [head, tail] at collected
                    cases collected
                | ok others =>
                    rw [head, tail] at collected
                    cases collected
                    obtain ⟨values, rfl, all⟩ := induction tail
                    refine ⟨value :: values, rfl, ?_⟩
                    rw [List.mapM_cons, head, all]
                    rfl
  · rintro ⟨values, rfl, all⟩
    rw [List.mapM_map]
    exact all

/-- A text has typed clauses exactly if it is accepted and its clauses can be typed. -/
theorem read_eq_ok_iff {whitelist : Whitelist} {text : String} {typed : List Clause} :
    read whitelist text = .ok typed
      ↔ ∃ clauses, readRaw whitelist text = .ok clauses
        ∧ clauses.mapM Clause.ofRaw = .ok typed := by
  rw [read, mapM_bind_eq_ok_iff]
  simp only [readRaw_eq_ok_iff, items]

end QueryText

end RecordFilter
