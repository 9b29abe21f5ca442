import Mathlib.Data.List.TakeDrop
import RecordFilter.Number.Decimal
import RecordFilter.Proofs.Number.Digits

/-! # The grammar of numerals

What a text of a number consists of, said without the readers: a sign or none, digits with at most
one point among or around them, and a power of ten or none. Nothing else may stand in it, no white
space and no word for an infinity.

* `SignText`, `CoefficientText`, `PowerText`: the parts of a numeral.
* `Numeral`: the numerals, each with the exact decimal number that it stands for.
* `exists_sign`, `exists_coefficient`, `Decimal.exponent?_eq_some_iff`: what the readers take as
  these parts.
* `Decimal.ofText?_eq_some_iff`: the reader of decimal numbers takes exactly the numerals.
* `Binary64.ofText?_eq_some_iff`: a text stands for a number exactly if it is a numeral and the
  number nearest to it is finite. -/

namespace RecordFilter

variable {text chars run rest : List Char} {negative : Bool} {coefficient places : Nat}
  {exponent : Int}

/-! ## Parts of a numeral -/

/-- A sign or none, and whether it is a minus sign. -/
inductive SignText : List Char → Bool → Prop
  /-- No sign. -/
  | none : SignText [] false
  /-- A plus sign. -/
  | plus : SignText ['+'] false
  /-- A minus sign. -/
  | minus : SignText ['-'] true

/-- Digits with at most one point: the number of all digits, and how many stand after the point. -/
inductive CoefficientText : List Char → Nat → Nat → Prop
  /-- Digits alone. -/
  | whole {run : List Char} (some : run ≠ []) (isDigit : ∀ char ∈ run, char.isDigit = true) :
      CoefficientText run (digitsValue run) 0
  /-- A point with digits on one side at least. -/
  | point {whole fraction : List Char} (some : whole ≠ [] ∨ fraction ≠ [])
      (isWhole : ∀ char ∈ whole, char.isDigit = true)
      (isFraction : ∀ char ∈ fraction, char.isDigit = true) :
      CoefficientText (whole ++ '.' :: fraction) (digitsValue (whole ++ fraction)) fraction.length

/-- A power of ten, or none. -/
inductive PowerText : List Char → Int → Prop
  /-- No power. -/
  | none : PowerText [] 0
  /-- A letter of either case, a sign or none, and digits. -/
  | power {mark : Char} {signChars run : List Char} {negative : Bool}
      (isMark : mark = 'e' ∨ mark = 'E') (isSign : SignText signChars negative) (some : run ≠ [])
      (isDigit : ∀ char ∈ run, char.isDigit = true) :
      PowerText (mark :: (signChars ++ run))
        (if negative then -(digitsValue run : Int) else digitsValue run)

/-- The numerals, with their exact values. The digits after the point count as negative powers. -/
inductive Numeral : List Char → Decimal → Prop
  /-- A sign, digits and a power of ten. -/
  | mk {signChars digitChars powerChars : List Char} {negative : Bool} {coefficient places : Nat}
      {exponent : Int} (isSign : SignText signChars negative)
      (isCoefficient : CoefficientText digitChars coefficient places)
      (isPower : PowerText powerChars exponent) :
      Numeral (signChars ++ (digitChars ++ powerChars))
        ⟨negative, coefficient, exponent - places⟩

/-! ## Signs -/

/-- A sign is taken off where no other one follows. -/
theorem SignText.takeSign (isSign : SignText chars negative)
    (unsigned : takeSign rest = (false, rest)) :
    takeSign (chars ++ rest) = (negative, rest) := by
  cases isSign with
  | none => exact unsigned
  | plus => rfl
  | minus => rfl

/-- What is taken off as a sign is one. -/
theorem exists_sign (taken : takeSign text = (negative, rest)) :
    ∃ chars, text = chars ++ rest ∧ SignText chars negative := by
  unfold takeSign at taken
  split at taken
  · cases taken
    exact ⟨['+'], rfl, .plus⟩
  · cases taken
    exact ⟨['-'], rfl, .minus⟩
  · cases taken
    exact ⟨[], rfl, .none⟩

/-- A digit is no sign. -/
theorem takeSign_cons_of_isDigit {char : Char} (isDigit : char.isDigit = true) :
    takeSign (char :: rest) = (false, char :: rest) := by
  unfold takeSign
  split
  · next plus =>
      cases plus
      cases isDigit
  · next minus =>
      cases minus
      cases isDigit
  · rfl

/-- Digits have no sign to take off. -/
theorem takeSign_of_isDigit (some : run ≠ []) (isDigit : ∀ char ∈ run, char.isDigit = true)
    (rest : List Char) : takeSign (run ++ rest) = (false, run ++ rest) := by
  obtain ⟨first, others, rfl⟩ := List.exists_cons_of_ne_nil some
  exact takeSign_cons_of_isDigit (isDigit first List.mem_cons_self)

/-- Neither has a coefficient. -/
theorem CoefficientText.takeSign (isCoefficient : CoefficientText chars coefficient places)
    (rest : List Char) : takeSign (chars ++ rest) = (false, chars ++ rest) := by
  cases isCoefficient with
  | whole some isDigit => exact takeSign_of_isDigit some isDigit rest
  | @point whole fraction some isWhole isFraction =>
      rw [List.append_assoc]
      by_cases empty : whole = []
      · rw [empty]
        rfl
      · exact takeSign_of_isDigit empty isWhole _

namespace Decimal

/-! ## Powers of ten -/

/-- The power of ten at the end of a numeral is read as what it is. -/
theorem exponent?_eq_some_iff : exponent? text = some exponent ↔ PowerText text exponent := by
  constructor
  · intro read
    cases text with
    | nil =>
        obtain rfl := Option.some_inj.1 read
        exact .none
    | cons mark rest =>
        rcases signed : takeSign rest with ⟨negative, run⟩
        simp only [exponent?, signed, Option.ite_none_right_eq_some] at read
        obtain ⟨⟨isMark, some, isDigit⟩, value⟩ := read
        obtain ⟨signChars, rfl, isSign⟩ := exists_sign signed
        obtain rfl := Option.some_inj.1 value
        exact .power isMark isSign some (List.all_eq_true.1 isDigit)
  · intro isPower
    cases isPower with
    | none => rfl
    | @power mark signChars run negative isMark isSign some isDigit =>
        have unsigned := takeSign_of_isDigit some isDigit []
        rw [List.append_nil] at unsigned
        have all : run.all Char.isDigit = true := List.all_eq_true.2 isDigit
        rw [exponent?, isSign.takeSign unsigned]
        exact if_pos ⟨isMark, some, all⟩

end Decimal

/-- Neither a digit nor a point begins a power of ten. -/
theorem PowerText.ends (isPower : PowerText text exponent) :
    NoDigitFirst text ∧ ∀ rest, text ≠ '.' :: rest := by
  cases isPower with
  | none => exact ⟨nofun, nofun⟩
  | power isMark =>
      rcases isMark with rfl | rfl
      · exact ⟨.cons rfl, fun rest same => absurd (List.cons.inj same).1 (by decide)⟩
      · exact ⟨.cons rfl, fun rest same => absurd (List.cons.inj same).1 (by decide)⟩

/-! ## Coefficients -/

/-- Without a point there is no fraction to take off. -/
theorem Decimal.takeFraction_of_ne (point : ∀ rest, text ≠ '.' :: rest) :
    takeFraction text = ([], text) := by
  unfold takeFraction
  split
  · next rest => exact absurd rfl (point rest)
  · rfl

/-- A coefficient is taken off as digits and a fraction, if neither a digit nor a point follows. -/
theorem CoefficientText.taken (isCoefficient : CoefficientText chars coefficient places)
    (ends : NoDigitFirst rest) (point : ∀ others, rest ≠ '.' :: others) :
    ∃ whole after fraction, (chars ++ rest).span Char.isDigit = (whole, after)
      ∧ Decimal.takeFraction after = (fraction, rest) ∧ ¬ (whole = [] ∧ fraction = [])
      ∧ digitsValue (whole ++ fraction) = coefficient ∧ fraction.length = places := by
  cases isCoefficient with
  | whole some isDigit =>
      refine ⟨chars, rest, [], ?_, Decimal.takeFraction_of_ne point, fun none => some none.1,
        ?_, rfl⟩
      · rw [List.span_eq_takeWhile_dropWhile,
          takeWhile_isDigit_append isDigit ends.takeWhile_eq_nil,
          dropWhile_isDigit_append isDigit ends.takeWhile_eq_nil]
      · rw [List.append_nil]
  | @point whole fraction some isWhole isFraction =>
      refine ⟨whole, '.' :: (fraction ++ rest), fraction, ?_, ?_, not_and_or.2 some, rfl, rfl⟩
      · have stops : ('.' :: (fraction ++ rest)).takeWhile Char.isDigit = [] := rfl
        rw [List.append_assoc, List.cons_append, List.span_eq_takeWhile_dropWhile,
          takeWhile_isDigit_append isWhole stops, dropWhile_isDigit_append isWhole stops]
      · show (fraction ++ rest).span Char.isDigit = _
        rw [List.span_eq_takeWhile_dropWhile,
          takeWhile_isDigit_append isFraction ends.takeWhile_eq_nil,
          dropWhile_isDigit_append isFraction ends.takeWhile_eq_nil]

/-- What is taken off as digits and a fraction, not both empty, is a coefficient. -/
theorem exists_coefficient {whole after fraction : List Char}
    (digits : text.span Char.isDigit = (whole, after))
    (taken : Decimal.takeFraction after = (fraction, rest))
    (some : ¬ (whole = [] ∧ fraction = [])) :
    ∃ chars, text = chars ++ rest
      ∧ CoefficientText chars (digitsValue (whole ++ fraction)) fraction.length := by
  rw [List.span_eq_takeWhile_dropWhile, Prod.mk.injEq] at digits
  obtain ⟨rfl, rfl⟩ := digits
  have isWhole : ∀ char ∈ text.takeWhile Char.isDigit, char.isDigit = true :=
    fun _ => List.mem_takeWhile_imp
  have split : text.takeWhile Char.isDigit ++ text.dropWhile Char.isDigit = text :=
    List.takeWhile_append_dropWhile
  unfold Decimal.takeFraction at taken
  split at taken
  · next others point =>
      rw [List.span_eq_takeWhile_dropWhile, Prod.mk.injEq] at taken
      obtain ⟨rfl, rfl⟩ := taken
      refine ⟨text.takeWhile Char.isDigit ++ '.' :: others.takeWhile Char.isDigit, ?_,
        .point (not_and_or.1 some) isWhole fun _ => List.mem_takeWhile_imp⟩
      rw [List.append_assoc, List.cons_append, List.takeWhile_append_dropWhile, ← point, split]
  · next =>
      rw [Prod.mk.injEq] at taken
      obtain ⟨rfl, rfl⟩ := taken
      refine ⟨text.takeWhile Char.isDigit, split.symm, ?_⟩
      rw [List.append_nil]
      exact .whole (fun none => some ⟨none, rfl⟩) isWhole

/-! ## Numerals -/

/-- **Exactly the numerals are read**, as their exact values. -/
theorem Decimal.ofText?_eq_some_iff {text : String} {decimal : Decimal} :
    ofText? text = some decimal ↔ Numeral text.toList decimal := by
  constructor
  · intro read
    -- the parts are named in the order in which they are taken off
    rcases signed : takeSign text.toList with ⟨negative, unsigned⟩
    rcases digits : unsigned.span Char.isDigit with ⟨whole, after⟩
    rcases taken : takeFraction after with ⟨fraction, rest⟩
    simp only [ofText?, signed, digits, taken, Option.ite_none_left_eq_some,
      Option.map_eq_some_iff] at read
    obtain ⟨some, exponent, power, rfl⟩ := read
    obtain ⟨signChars, split, isSign⟩ := exists_sign signed
    obtain ⟨digitChars, rfl, isCoefficient⟩ := exists_coefficient digits taken some
    rw [split]
    exact .mk isSign isCoefficient (exponent?_eq_some_iff.1 power)
  · intro numeral
    generalize characters : text.toList = chars at numeral
    cases numeral with
    | @mk signChars digitChars powerChars negative coefficient places exponent isSign isCoefficient
        isPower =>
        -- neither a digit nor a point of the coefficient is left for the power of ten
        obtain ⟨ends, point⟩ := isPower.ends
        obtain ⟨whole, after, fraction, digits, taken, some, rfl, rfl⟩ :=
          isCoefficient.taken ends point
        have power := exponent?_eq_some_iff.2 isPower
        simp only [ofText?, characters, isSign.takeSign (isCoefficient.takeSign powerChars), digits,
          taken, if_neg some, power, Option.map_some]

/-- **The texts of numbers.** A text stands for a number exactly if it is a numeral, and the number
is the one nearest to its value and is finite. -/
theorem Binary64.ofText?_eq_some_iff {text : String} {number : Binary64} :
    ofText? text = some number
      ↔ ∃ decimal, Numeral text.toList decimal ∧ ofDecimal decimal = number
        ∧ number.isFinite = true := by
  rw [ofText?, Option.filter_eq_some_iff, Option.map_eq_some_iff]
  simp only [Decimal.ofText?_eq_some_iff]
  constructor
  · rintro ⟨⟨decimal, numeral, nearest⟩, finite⟩
    exact ⟨decimal, numeral, nearest, finite⟩
  · rintro ⟨decimal, numeral, nearest, finite⟩
    exact ⟨⟨decimal, numeral, nearest⟩, finite⟩

end RecordFilter
