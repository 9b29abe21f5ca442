import RecordFilter.Unicode.CharSet

/-! # Sets of characters as sequences of bytes

The characters of a set are encoded in UTF-8. Their encodings are split into sequences of ranges of
bytes, such that every choice of one byte from each range encodes a character of the set.

* `utf8Bytes`: the encoding of a code point.
* `byteSequences`: the sequences for all characters of a set, in increasing order. -/

namespace RecordFilter.Pattern

/-- The bytes from one to another. -/
structure ByteRange where
  /-- The first byte. -/
  first : Nat
  /-- The last byte. -/
  last : Nat
  deriving DecidableEq

/-- A byte that carries six bits of a code point after the first byte. -/
def continuationByte (bits : Nat) : Nat := 0x80 + bits % 64

/-- The encoding of a code point. -/
def utf8Bytes (point : Nat) : List Nat :=
  if point < 0x80 then [point]
  else if point < 0x800 then [0xc0 + point / 64, continuationByte point]
  else if point < 0x10000 then
    [0xe0 + point / 4096, continuationByte (point / 64), continuationByte point]
  else
    [0xf0 + point / 262144, continuationByte (point / 4096), continuationByte (point / 64),
      continuationByte point]

/-- An encoding has one to four bytes. -/
theorem length_utf8Bytes (point : Nat) :
    0 < (utf8Bytes point).length ∧ (utf8Bytes point).length ≤ 4 := by
  unfold utf8Bytes
  split
  · simp
  · split
    · simp
    · split <;> simp

/-- Where a range is split first: between encodings of different lengths, and else so that the last
bytes run through all their values. -/
def splitPoint? (first last : Nat) : Option Nat :=
  let lengths := [0x80, 0x800, 0x10000].find? fun bound => first < bound && bound ≤ last
  let blocks := [64, 4096, 262144].findSome? fun block =>
    if first / block = last / block then none
    else if first % block ≠ 0 then some ((first / block + 1) * block)
    else if (last + 1) % block ≠ 0 then some (last / block * block)
    else none
  lengths <|> blocks

/-- The sequences for the code points from one to another. -/
def sequencesFrom (first last : Nat) : List (List ByteRange) :=
  match splitPoint? first last with
  | some middle =>
      if _inside : first < middle ∧ middle ≤ last then
        sequencesFrom first (middle - 1) ++ sequencesFrom middle last
      else []
  | none => [List.zipWith ByteRange.mk (utf8Bytes first) (utf8Bytes last)]
termination_by last - first

/-- The parts of a range below and above the surrogates. -/
def withoutSurrogates (range : CodeRange) : List CodeRange :=
  [⟨range.first, min range.last 0xd7ff⟩, ⟨max range.first 0xe000, range.last⟩].filter fun part =>
    part.first ≤ part.last

/-- The sequences for the characters of a set. -/
def byteSequences (chars : CharSet) : List (List ByteRange) :=
  (chars.ranges.toList.flatMap withoutSurrogates).flatMap fun range =>
    sequencesFrom range.first range.last

end RecordFilter.Pattern
