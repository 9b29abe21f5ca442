import Mathlib.Data.List.Induction
import RecordFilter.Proofs.QueryText.Place

/-! # Texts without their escapes

What backslashes do to a text, told from its characters alone. All of it can be asked part by part,
as long as no part ends inside an escape.

* `withoutEscapes`: the text without the backslashes that escape (`withoutEscapes_append`).
* `unescapedCount`: how often a character stands in a text unescaped (`unescapedCount_append`).
* `Literal.withoutEscapes_eq`, `Literal.unescapedCount_eq`: what a literal text stands for, and that
  nothing structural is unescaped in it. -/

namespace RecordFilter.QueryText

variable {chars text front back barred among : List Char} {char : Char} {position : Nat}

/-! ## Parts of a text -/

/-- The characters at the end are told from the last part alone, unless it begins escaped. -/
theorem endsEscaped_append (unescaped : ¬ EndsEscaped front) :
    EndsEscaped (front ++ back) ↔ EndsEscaped back := by
  induction back using List.reverseRecOn with
  | nil =>
      rw [List.append_nil]
      exact iff_of_false unescaped not_endsEscaped_nil
  | append_singleton back char induction =>
      rw [← List.append_assoc, endsEscaped_concat, endsEscaped_concat, induction]

/-- An escape is complete after the character that it is for. -/
theorem not_endsEscaped_pair (char : Char) : ¬ EndsEscaped ['\\', char] := by
  intro escaped
  have backslash : EndsEscaped ['\\'] :=
    (endsEscaped_concat [] '\\').2 ⟨rfl, not_endsEscaped_nil⟩
  exact ((endsEscaped_concat ['\\'] char).1 escaped).2 backslash

/-- Only a backslash begins an escape. -/
theorem not_endsEscaped_singleton (other : char ≠ '\\') : ¬ EndsEscaped [char] :=
  fun escaped => other ((endsEscaped_concat [] char).1 escaped).1

/-- A place in the first part. -/
theorem unescapedAt_append_left (inside : position < front.length) :
    UnescapedAt (front ++ back) position among ↔ UnescapedAt front position among := by
  rw [UnescapedAt, List.getElem?_append_left inside,
    List.take_append_of_le_length (Nat.le_of_lt inside), UnescapedAt]

/-- A place in the last part. -/
theorem unescapedAt_append_right (unescaped : ¬ EndsEscaped front) :
    UnescapedAt (front ++ back) (front.length + position) among
      ↔ UnescapedAt back position among := by
  rw [UnescapedAt, List.getElem?_append_right (Nat.le_add_right _ _), Nat.add_sub_cancel_left,
    List.take_length_add_append, endsEscaped_append unescaped, UnescapedAt]

/-! ## Without the escapes -/

/-- A text without the backslashes that escape. -/
def withoutEscapes : List Char → List Char
  | '\\' :: char :: rest => char :: withoutEscapes rest
  | char :: rest => char :: withoutEscapes rest
  | [] => []

/-- Other characters are kept. -/
theorem withoutEscapes_cons (other : char ≠ '\\') (rest : List Char) :
    withoutEscapes (char :: rest) = char :: withoutEscapes rest := by
  rw [withoutEscapes]
  rintro _ _ rfl
  exact absurd rfl other

/-- A text whose end escapes nothing keeps its own backslashes. -/
theorem withoutEscapes_append (unescaped : ¬ EndsEscaped front) :
    withoutEscapes (front ++ back) = withoutEscapes front ++ withoutEscapes back := by
  fun_induction withoutEscapes front with
  | case1 char rest induction =>
      -- behind a complete escape the rest is a text of its own
      have tail : ¬ EndsEscaped rest :=
        mt (endsEscaped_append (not_endsEscaped_pair char)).2 unescaped
      rw [List.cons_append, List.cons_append, withoutEscapes, induction tail, List.cons_append]
  | case2 char rest single induction =>
      have other : char ≠ '\\' := by
        rintro rfl
        cases rest with
        | nil => exact unescaped ((endsEscaped_concat [] '\\').2 ⟨rfl, not_endsEscaped_nil⟩)
        | cons next rest => exact single next rest rfl rfl
      have tail : ¬ EndsEscaped rest :=
        mt (endsEscaped_append (not_endsEscaped_singleton other)).2 unescaped
      rw [List.cons_append, withoutEscapes_cons other, induction tail, List.cons_append]
  | case3 => rfl

/-! ## Unescaped characters -/

instance decidableEndsEscaped (chars : List Char) : Decidable (EndsEscaped chars) :=
  inferInstanceAs (Decidable (trailingBackslashes chars % 2 = 1))

instance decidableUnescapedAt (chars : List Char) (position : Nat) (among : List Char) :
    Decidable (UnescapedAt chars position among) :=
  inferInstanceAs (Decidable
    (∃ char ∈ among, chars[position]? = some char ∧ ¬ EndsEscaped (chars.take position)))

/-- The number of places of a text where the character stands unescaped. -/
def unescapedCount (char : Char) (chars : List Char) : Nat :=
  (List.range chars.length).countP fun position => UnescapedAt chars position [char]

/-- The places of a text are those of its parts. -/
theorem unescapedCount_append (unescaped : ¬ EndsEscaped front) :
    unescapedCount char (front ++ back) = unescapedCount char front + unescapedCount char back := by
  have left : (List.range front.length).countP
        (fun position => UnescapedAt (front ++ back) position [char])
      = unescapedCount char front := by
    refine List.countP_congr fun position inside => ?_
    rw [decide_eq_true_iff, decide_eq_true_iff]
    exact unescapedAt_append_left (List.mem_range.1 inside)
  have right : ((List.range back.length).map (front.length + ·)).countP
        (fun position => UnescapedAt (front ++ back) position [char])
      = unescapedCount char back := by
    rw [List.countP_map]
    refine List.countP_congr fun position _ => ?_
    rw [Function.comp_apply, decide_eq_true_iff, decide_eq_true_iff]
    exact unescapedAt_append_right unescaped
  rw [unescapedCount, List.length_append, List.range_add, List.countP_append, left, right]

/-- A single character stands unescaped. -/
theorem unescapedCount_singleton (char other : Char) :
    unescapedCount char [other] = if other = char then 1 else 0 := by
  have place : UnescapedAt [other] 0 [char] ↔ other = char := by
    simp [UnescapedAt, not_endsEscaped_nil]
  have one : List.range [other].length = [0] := rfl
  rw [unescapedCount, one, List.countP_singleton]
  simp only [place, decide_eq_true_eq]

/-- In an escape nothing but the backslash stands unescaped. -/
theorem unescapedCount_pair (other : char ≠ '\\') (escaped : Char) :
    unescapedCount char ['\\', escaped] = 0 := by
  rw [unescapedCount, List.countP_eq_zero]
  intro position inside
  rw [decide_eq_true_iff]
  rintro ⟨_, member, found, unescaped⟩
  obtain rfl := List.mem_singleton.1 member
  cases position with
  | zero => exact other (Option.some.inj found).symm
  | succ position =>
      obtain rfl : position = 0 := by
        have bound : position + 1 < 2 := List.mem_range.1 inside
        omega
      exact unescaped ((endsEscaped_concat [] '\\').2 ⟨rfl, not_endsEscaped_nil⟩)

/-! ## Literal texts -/

namespace Literal

/-- A literal text ends no escape. -/
theorem not_endsEscaped (run : Literal barred chars text) : ¬ EndsEscaped chars := by
  induction run with
  | nil => exact not_endsEscaped_nil
  | @plain char chars text ordinary rest induction =>
      have other := not_endsEscaped_singleton (ne_backslash_of_notMem ordinary)
      exact mt (endsEscaped_append other).1 induction
  | @escaped char chars text free rest induction =>
      exact mt (endsEscaped_append (not_endsEscaped_pair char)).1 induction

/-- A literal text stands for itself without its escapes. -/
theorem withoutEscapes_eq (run : Literal barred chars text) : withoutEscapes chars = text := by
  induction run with
  | nil => rfl
  | plain ordinary rest induction =>
      rw [withoutEscapes_cons (ne_backslash_of_notMem ordinary), induction]
  | escaped free rest induction => rw [withoutEscapes, induction]

/-- Nothing structural but backslashes is unescaped in a literal text. -/
theorem unescapedCount_eq (run : Literal barred chars text) (special : char ∈ structural)
    (other : char ≠ '\\') : unescapedCount char chars = 0 := by
  induction run with
  | nil => rfl
  | @plain here chars text ordinary rest induction =>
      have backslash := not_endsEscaped_singleton (ne_backslash_of_notMem ordinary)
      have different : here ≠ char := fun same => ordinary (same ▸ special)
      rw [← List.singleton_append, unescapedCount_append backslash, unescapedCount_singleton,
        if_neg different, induction]
  | @escaped here chars text free rest induction =>
      change unescapedCount char (['\\', here] ++ chars) = 0
      rw [unescapedCount_append (not_endsEscaped_pair here), unescapedCount_pair other, induction]

end Literal

end RecordFilter.QueryText
