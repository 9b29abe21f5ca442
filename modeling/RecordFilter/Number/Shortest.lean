import RecordFilter.Number.Decimal

/-! # Shortest decimal text of a number

The decimal text with the fewest digits that reads back as the same number.

* `Binary64.fewestDigits`: those digits, and the power of ten they are multiplied with.
* `Binary64.text`: the text. It is positional as long as the point stands at most 16 places after
  the first digit or 5 places before it, always with a digit after the point, and otherwise has an
  exponent. -/

namespace RecordFilter.Binary64

/-! ## Digits -/

/-- A positive finite magnitude as an exact quotient. -/
def ratio (magnitude : Nat) : Nat × Nat :=
  if magnitude < twoPow 52 then (magnitude, twoPow 1074)
  else
    ((twoPow 52 + magnitude % twoPow 52) * twoPow (magnitude / twoPow 52), twoPow 1075)

/-- The power of ten above a positive finite magnitude. No such magnitude lies below
`10 ^ -324`, so multiplied with `10 ^ 324` it has a digit before the point. -/
def pointPlace (magnitude : Nat) : Int :=
  let (numerator, denominator) := ratio magnitude
  ((digits (numerator * tenPow 324 / denominator)).length : Int) - 324

/-- The multiple of a power of ten that is nearest to a magnitude among its two neighbours that read
back as the magnitude. -/
def readingBack? (magnitude : Nat) (exponent : Int) : Option Nat :=
  let (numerator, denominator) := ratio magnitude
  let scaled := numerator * tenPow (-exponent).toNat
  let unit := denominator * tenPow exponent.toNat
  let below := scaled / unit
  let readsBack (coefficient : Nat) : Bool := nearestDecimal coefficient exponent == magnitude
  let nearest := roundHalfEven scaled unit
  if readsBack nearest then some nearest
  else if readsBack below then some below
  else if readsBack (below + 1) then some (below + 1)
  else none

/-- The fewest digits that read back as a positive finite magnitude, and the power of ten they are
multiplied with. Seventeen digits always do. -/
def fewestDigits (magnitude : Nat) : List Char × Int :=
  let place := pointPlace magnitude
  let found := (List.range 17).findSome? fun more =>
    (readingBack? magnitude (place - (more + 1 : Nat))).map fun coefficient =>
      if coefficient = tenPow (more + 1) then (['1'], place)
      else (digits coefficient, place - (more + 1 : Nat))
  found.getD ([], 0)

/-! ## Text -/

/-- Digits with the point after a number of them, which may be negative or beyond them all. -/
def placePoint (digits : List Char) (place : Int) : List Char :=
  if place ≤ 0 then '0' :: '.' :: (List.replicate (-place).toNat '0' ++ digits)
  else
    let whole := digits.take place.toNat
    let fraction := digits.drop place.toNat
    whole ++ List.replicate (place.toNat - digits.length) '0'
      ++ '.' :: (if fraction = [] then ['0'] else fraction)

/-- Digits with the point after the first one, and the power of ten that this leaves. -/
def withExponent (digits : List Char) (place : Int) : List Char :=
  let fraction := digits.drop 1
  digits.take 1 ++ (if fraction = [] then [] else '.' :: fraction)
    ++ 'e' :: (toString (place - 1)).toList

/-- The text of a finite number. -/
def text (number : Binary64) : String :=
  let sign := if number.negative then ['-'] else []
  let unsigned :=
    if number.magnitude = 0 then ['0', '.', '0']
    else
      let (digits, exponent) := fewestDigits number.magnitude
      let place := digits.length + exponent
      if -5 < place ∧ place ≤ 16 then placePoint digits place else withExponent digits place
  String.ofList (sign ++ unsigned)

end RecordFilter.Binary64
