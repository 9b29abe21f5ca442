/-! # Sets of characters

Sets of characters as ranges of code points in increasing order.

* `CodeRange`: the code points from one to another. The range of the surrogates holds no
  characters, so the code points at its sides follow each other (`following`, `preceding`).
* `CharSet.contains`: membership, found by halving.
* `CharSet.ofRanges`: the set of any ranges, joined where they touch.
* `CharSet.union`, `CharSet.intersection`, `CharSet.difference`, `CharSet.symmetricDifference`,
  `CharSet.complement`: the operations on sets. -/

namespace RecordFilter

/-! ## Ranges -/

/-- The code point of the character after a given one. -/
def following (point : Nat) : Nat := if point = 0xd7ff then 0xe000 else point + 1

/-- The code point of the character before a given one. -/
def preceding (point : Nat) : Nat := if point = 0xe000 then 0xd7ff else point - 1

/-- The characters on both sides of the surrogates follow each other. -/
theorem preceding_following {point : Nat} (outside : point < 0xd800 ∨ 0xe000 ≤ point) :
    preceding (following point) = point := by
  unfold preceding following
  split <;> split <;> omega

/-- The greatest code point. -/
def lastPoint : Nat := 0x10ffff

/-- The code points from one to another. -/
structure CodeRange where
  /-- The first code point. -/
  first : Nat
  /-- The last code point. -/
  last : Nat
  deriving DecidableEq

namespace CodeRange

/-- Whether a code point lies in the range. -/
def contains (range : CodeRange) (point : Nat) : Bool :=
  range.first ≤ point && point ≤ range.last

/-- The pieces of a range outside another one. -/
def minus (range other : CodeRange) : List CodeRange :=
  if other.last < range.first ∨ range.last < other.first then [range]
  else
    (if range.first < other.first then [⟨range.first, preceding other.first⟩] else [])
      ++ (if other.last < range.last then [⟨following other.last, range.last⟩] else [])

/-- The range between two ranges that stand in order. -/
def between (left right : CodeRange) : CodeRange :=
  let first := following left.last
  let last := preceding right.first
  ⟨min first last, max first last⟩

/-- The common part of ranges in increasing order with others. -/
def meet : List CodeRange → List CodeRange → List CodeRange
  | [], _ => []
  | _, [] => []
  | left :: lefts, right :: rights =>
      let common : CodeRange := ⟨max left.first right.first, min left.last right.last⟩
      let later :=
        if left.last < right.last then meet lefts (right :: rights)
        else meet (left :: lefts) rights
      if common.first ≤ common.last then common :: later else later
termination_by lefts rights => lefts.length + rights.length

/-- One more range after ranges in increasing order, joined with the last one if they touch. -/
def join (ranges : Array CodeRange) (range : CodeRange) : Array CodeRange :=
  match ranges.back? with
  | some before =>
      if range.first ≤ before.last + 1 then
        ranges.pop.push ⟨before.first, max before.last range.last⟩
      else ranges.push range
  | none => #[range]

end CodeRange

/-! ## Sets -/

/-- A set of characters. -/
structure CharSet where
  /-- Its ranges, in increasing order. -/
  ranges : Array CodeRange
  deriving DecidableEq

namespace CharSet

/-- No character. -/
def empty : CharSet := ⟨#[]⟩

/-- The characters from one code point to another. -/
def ofRange (first last : Nat) : CharSet := ⟨#[⟨first, last⟩]⟩

/-- The set of one character. -/
def single (char : Char) : CharSet := ofRange char.toNat char.toNat

/-- Every character. -/
def every : CharSet := ofRange 0 lastPoint

/-- The set of the given ranges. -/
def ofRanges (ranges : List CodeRange) : CharSet :=
  ⟨(ranges.mergeSort fun left right => left.first ≤ right.first).foldl CodeRange.join #[]⟩

/-- The set of the given code points. -/
def ofPoints (points : List Nat) : CharSet := ofRanges (points.map fun point => ⟨point, point⟩)

/-- The code point of the character if the set has exactly one. -/
def single? (set : CharSet) : Option Nat :=
  match set.ranges.toList with
  | [range] => if range.first = range.last then some range.first else none
  | _ => none

/-- Whether all members are ASCII characters. -/
def isAscii (set : CharSet) : Bool := set.ranges.all fun range => range.last ≤ 0x7f

/-! ### Membership -/

/-- Whether one of the ranges from one index up to another contains a code point. -/
def isAmong (ranges : Array CodeRange) (point low high : Nat) : Bool :=
  if low < high then
    let middle := (low + high) / 2
    match ranges[middle]? with
    | none => false
    | some range =>
        if point < range.first then isAmong ranges point low middle
        else if range.last < point then isAmong ranges point (middle + 1) high
        else true
  else false
termination_by high - low

/-- Whether a code point belongs to the set. -/
def containsPoint (set : CharSet) (point : Nat) : Bool :=
  isAmong set.ranges point 0 set.ranges.size

/-- Whether a character belongs to the set. -/
def contains (set : CharSet) (char : Char) : Bool := set.containsPoint char.toNat

/-- Nothing belongs to the empty set. -/
@[simp] theorem contains_empty (char : Char) : empty.contains char = false := by
  simp [contains, containsPoint, empty, isAmong]

/-- A range contains the code points from its first to its last. -/
@[simp] theorem containsPoint_ofRange (first last point : Nat) :
    (ofRange first last).containsPoint point = (first ≤ point && point ≤ last) := by
  simp only [containsPoint, ofRange]
  unfold isAmong
  by_cases below : point < first
  · unfold isAmong
    simp [below, Nat.not_le_of_lt below]
  · by_cases above : last < point
    · unfold isAmong
      simp [below, above, Nat.not_le_of_lt above]
    · simp [below, above, Nat.le_of_not_lt below, Nat.le_of_not_lt above]

/-- Every character belongs to the full set. -/
@[simp] theorem contains_every (char : Char) : every.contains char = true := by
  have bound : char.toNat ≤ lastPoint := by
    have valid := char.valid
    simp only [UInt32.isValidChar, Nat.isValidChar] at valid
    show char.val.toNat ≤ 0x10ffff
    omega
  simp [contains, every, bound]

/-! ### Operations -/

/-- The characters of either set. -/
def union (left right : CharSet) : CharSet :=
  ofRanges (left.ranges.toList ++ right.ranges.toList)

/-- The characters of several sets. -/
def unions (sets : List CharSet) : CharSet :=
  ofRanges (sets.flatMap fun set => set.ranges.toList)

/-- The characters of both sets. -/
def intersection (left right : CharSet) : CharSet :=
  ⟨(CodeRange.meet left.ranges.toList right.ranges.toList).toArray⟩

/-- The characters of one set that are not in another. -/
def difference (left right : CharSet) : CharSet :=
  ⟨(right.ranges.toList.foldl (fun pieces other => pieces.flatMap (·.minus other))
    left.ranges.toList).toArray⟩

/-- The characters of exactly one of two sets. -/
def symmetricDifference (left right : CharSet) : CharSet :=
  (left.union right).difference (left.intersection right)

/-- The ranges between the ranges of a list. -/
def gaps : List CodeRange → List CodeRange
  | left :: right :: rest => left.between right :: gaps (right :: rest)
  | _ => []

/-- The characters outside a set. -/
def complement (set : CharSet) : CharSet :=
  match set.ranges.toList.head?, set.ranges.back? with
  | some first, some last =>
      let before : List CodeRange :=
        if 0 < first.first then [⟨0, preceding first.first⟩] else []
      let after : List CodeRange :=
        if last.last < lastPoint then [⟨following last.last, lastPoint⟩] else []
      ⟨(before ++ gaps set.ranges.toList ++ after).toArray⟩
  | _, _ => every

/-- Outside the empty set lies every character. -/
@[simp] theorem complement_empty : empty.complement = every := rfl

end CharSet

end RecordFilter
