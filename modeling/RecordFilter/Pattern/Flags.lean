import RecordFilter.Pattern.Term
import RecordFilter.Unicode.CaseFolding
import RecordFilter.Unicode.DerivedProperty

/-! # Flags

How the characters of a pattern match at some point of it. A change of flags lasts to the end of
its group.

* `Flags`, `FlagChange`: the flags and changes of them.
* `SetItem`: what sets of characters are written with.
* `Flags.finished?`: a set under the flags. Without Unicode a set cannot have characters outside
  ASCII.
* `Flags.chars?`, `Flags.dot?`, `Flags.literal?`: what an item, a dot and a character stand for. -/

namespace RecordFilter.Pattern

/-! ## Flags and changes -/

/-- A change of flags. -/
structure FlagChange where
  /-- The letters of the flags that are set. -/
  set : List Char
  /-- The letters of the flags that are cleared. -/
  cleared : List Char
  deriving DecidableEq

/-- No change. -/
def FlagChange.none : FlagChange := ⟨[], []⟩

/-- The value of one flag after a change. -/
def FlagChange.apply (change : FlagChange) (letter : Char) (current : Bool) : Bool :=
  (current || change.set.contains letter) && !change.cleared.contains letter

/-- How characters match. -/
structure Flags where
  /-- Characters match their case variants. -/
  ignoreCase : Bool
  /-- Carets and dollar signs match at lines. -/
  lines : Bool
  /-- The dot matches the end of a line. -/
  dotAll : Bool
  /-- Repetitions match as rarely as possible unless they are marked. -/
  swapGreed : Bool
  /-- Sets and words are those of Unicode, and not those of ASCII. -/
  unicode : Bool
  /-- A carriage return may end a line. -/
  returns : Bool
  /-- White space and comments between the signs of the pattern mean nothing. -/
  spaced : Bool
  deriving DecidableEq

namespace Flags

/-- The flags at the start of a pattern. -/
def initial : Flags := ⟨false, false, false, false, true, false, false⟩

/-- The flags after a change. -/
def changed (flags : Flags) (change : FlagChange) : Flags where
  ignoreCase := change.apply 'i' flags.ignoreCase
  lines := change.apply 'm' flags.lines
  dotAll := change.apply 's' flags.dotAll
  swapGreed := change.apply 'U' flags.swapGreed
  unicode := change.apply 'u' flags.unicode
  returns := change.apply 'R' flags.returns
  spaced := change.apply 'x' flags.spaced

/-- No change keeps the flags. -/
@[simp] theorem changed_none (flags : Flags) : flags.changed .none = flags := by
  simp [changed, FlagChange.apply, FlagChange.none]

end Flags

/-! ## Named sets -/

/-- A set that is written as a backslash and one letter. -/
inductive Shorthand
  /-- The decimal digits. -/
  | digit
  /-- White space. -/
  | space
  /-- The characters of words. -/
  | word
  deriving DecidableEq

/-- The set of ASCII characters with the given name. -/
def asciiSet? : String → Option CharSet
  | "alnum" => some (.unions [.ofRange 0x30 0x39, .ofRange 0x41 0x5a, .ofRange 0x61 0x7a])
  | "alpha" => some (.unions [.ofRange 0x41 0x5a, .ofRange 0x61 0x7a])
  | "ascii" => some (.ofRange 0 0x7f)
  | "blank" => some (.ofPoints [0x9, 0x20])
  | "cntrl" => some (.unions [.ofRange 0 0x1f, .ofRange 0x7f 0x7f])
  | "digit" => some (.ofRange 0x30 0x39)
  | "graph" => some (.ofRange 0x21 0x7e)
  | "lower" => some (.ofRange 0x61 0x7a)
  | "print" => some (.ofRange 0x20 0x7e)
  | "punct" => some (.unions
      [.ofRange 0x21 0x2f, .ofRange 0x3a 0x40, .ofRange 0x5b 0x60, .ofRange 0x7b 0x7e])
  | "space" => some (.unions [.ofRange 0x9 0xd, .ofRange 0x20 0x20])
  | "upper" => some (.ofRange 0x41 0x5a)
  | "word" => some (.unions
      [.ofRange 0x30 0x39, .ofRange 0x41 0x5a, .ofRange 0x5f 0x5f, .ofRange 0x61 0x7a])
  | "xdigit" => some (.unions [.ofRange 0x30 0x39, .ofRange 0x41 0x46, .ofRange 0x61 0x66])
  | _ => none

namespace Shorthand

/-- The set in Unicode. -/
def unicodeChars : Shorthand → CharSet
  | digit => .decimalNumber
  | space => .whiteSpace
  | word => .word

/-- The name of the set in ASCII. -/
def asciiName : Shorthand → String
  | digit => "digit"
  | space => "space"
  | word => "word"

end Shorthand

/-- What sets of characters are written with. -/
inductive SetItem
  /-- The characters from one to another. -/
  | range (first last : Char)
  /-- A shorthand, or what lies outside it. -/
  | shorthand (name : Shorthand) (negated : Bool)
  /-- The characters with a property, or the other ones. -/
  | property (chars : CharSet) (negated : Bool)
  /-- A named set of ASCII characters, or what lies outside it. -/
  | ascii (chars : CharSet) (negated : Bool)
  deriving DecidableEq

/-! ## Sets under flags -/

namespace Flags

/-- A set with the case variants of its members, if case is ignored. -/
def folded (flags : Flags) (chars : CharSet) : CharSet :=
  if flags.ignoreCase then if flags.unicode then chars.foldCase else chars.foldAsciiCase
  else chars

/-- What lies outside a set, if asked for. Without Unicode there are bytes outside that are no
characters, so this fails. -/
def negated? (flags : Flags) (negated : Bool) (chars : CharSet) : Option CharSet :=
  if negated then if flags.unicode then some chars.complement else none else some chars

/-- A set under the flags: first its case variants join it, and then it may be negated. -/
def finished? (flags : Flags) (negated : Bool) (chars : CharSet) : Option CharSet :=
  flags.negated? negated (flags.folded chars)

/-- The characters that an item stands for. -/
def chars? (flags : Flags) : SetItem → Option CharSet
  | .range first last =>
      if flags.unicode ∨ last.toNat ≤ 0x7f then some (.ofRange first.toNat last.toNat) else none
  | .shorthand name negated => do
      let chars ← if flags.unicode then some name.unicodeChars else asciiSet? name.asciiName
      flags.negated? negated chars
  | .property chars negated => if flags.unicode then flags.finished? negated chars else none
  | .ascii chars negated => flags.finished? negated chars

/-- The characters that a dot stands for. -/
def dot? (flags : Flags) : Option CharSet :=
  if !flags.unicode then none
  else if flags.dotAll then some .every
  else if flags.returns then some (CharSet.ofPoints [0xa, 0xd]).complement
  else some (CharSet.single '\n').complement

/-- The term of a single character, which may be written as a byte. Without Unicode a byte is no
character outside ASCII, and only letters of ASCII have case variants. -/
def literal? (flags : Flags) (char : Char) (isByte : Bool) : Option Term :=
  if flags.unicode then some (.ofSet (flags.folded (.single char)))
  else if char.toNat ≤ 0x7f then some (.ofSet (flags.folded (.single char)))
  else if isByte then none
  else some (.text [char])

end Flags

end RecordFilter.Pattern
