import RecordFilter.Pattern.Assertion
import RecordFilter.Unicode.CharSet

/-! # Terms of patterns

The structure of a pattern. Terms are made in a normal form: texts, sets and alternatives that
stand beside each other are merged, and the empty term stands alone.

* `Term`: texts, character sets, assertions, repetitions, groups, sequences and alternatives.
* `Term.shortest?`, `Term.longest?`: bounds of the lengths of matches.
* `Term.startsText`, `Term.endsText`: whether matches only start or end with the text.
* `Term.ofSet`, `Term.inSequence`, `Term.oneOf`, `Term.times`: terms in normal form. -/

namespace RecordFilter.Pattern

/-- A pattern. -/
inductive Term
  /-- The empty text. -/
  | empty
  /-- One or more characters, one after another. -/
  | text (chars : List Char)
  /-- One character of a set. -/
  | set (chars : CharSet)
  /-- The empty text at certain places. -/
  | assertion (condition : Assertion)
  /-- A term a number of times, within bounds, as often as possible or as rarely. -/
  | repeated (body : Term) (least : Nat) (most : Option Nat) (greedy : Bool)
  /-- A term in a numbered group. -/
  | group (number : Nat) (body : Term)
  /-- One term and then another. -/
  | sequence (first rest : Term)
  /-- One term or another. -/
  | alternative (first rest : Term)
  deriving DecidableEq

namespace Term

/-! ## Lengths and ends -/

/-- The number of bytes of a text. -/
def byteLength (chars : List Char) : Nat :=
  chars.foldr (fun char length => char.utf8Size + length) 0

/-- A least length of matches in bytes. There is none where nothing matches. -/
def shortest? : Term → Option Nat
  | empty | assertion _ => some 0
  | text chars => some (byteLength chars)
  | set chars => chars.ranges.toList.head?.map fun range => (Char.ofNat range.first).utf8Size
  | repeated body least _ _ => body.shortest?.map (least * ·)
  | group _ body => body.shortest?
  | sequence first rest => do return (← first.shortest?) + (← rest.shortest?)
  | alternative first rest => do return min (← first.shortest?) (← rest.shortest?)

/-- A greatest length of matches in bytes. There is none where nothing matches or where matches
may be of any length. -/
def longest? : Term → Option Nat
  | empty | assertion _ => some 0
  | text chars => some (byteLength chars)
  | set chars => chars.ranges.back?.map fun range => (Char.ofNat range.last).utf8Size
  | repeated body _ most _ => do return (← most) * (← body.longest?)
  | group _ body => body.longest?
  | sequence first rest => do return (← first.longest?) + (← rest.longest?)
  | alternative first rest => do return max (← first.longest?) (← rest.longest?)

/-- Whether all matches are empty. -/
def isBlank (term : Term) : Bool := term.longest? == some 0

/-- Whether matches start where the text starts, as far as the form of the term shows it. -/
def startsText : Term → Bool
  | assertion condition => condition == .textStart
  | repeated body least _ _ => 0 < least && body.startsText
  | group _ body => body.startsText
  | sequence first rest => first.startsText || (first.isBlank && rest.startsText)
  | alternative first rest => first.startsText && rest.startsText
  | empty | text _ | set _ => false

/-- Whether matches end where the text ends, as far as the form of the term shows it. -/
def endsText : Term → Bool
  | assertion condition => condition == .textEnd
  | repeated body least _ _ => 0 < least && body.endsText
  | group _ body => body.endsText
  | sequence first rest => rest.endsText || (rest.isBlank && first.endsText)
  | alternative first rest => first.endsText && rest.endsText
  | empty | text _ | set _ => false

/-! ## Sequences -/

/-- One character of a set. A set of one character is a text. -/
def ofSet (chars : CharSet) : Term :=
  match chars.single? with
  | some point => text [Char.ofNat point]
  | none => set chars

/-- The parts of a sequence. -/
def parts : Term → List Term
  | empty => []
  | sequence first rest => first :: rest.parts
  | term => [term]

/-- The sequence of the given parts. -/
def ofParts : List Term → Term
  | [] => empty
  | [term] => term
  | first :: rest => sequence first (ofParts rest)

/-- One more part in front, merged with the next one if both are texts. -/
def consPart : Term → List Term → List Term
  | text chars, text more :: rest => text (chars ++ more) :: rest
  | term, rest => term :: rest

/-- One term after another. -/
def inSequence (terms : List Term) : Term :=
  ofParts ((terms.flatMap parts).foldr consPart [])

/-- No terms in sequence are the empty term. -/
@[simp] theorem inSequence_nil : inSequence [] = empty := rfl

/-! ## Alternatives -/

/-- The branches of an alternative. -/
def branches : Term → List Term
  | alternative first rest => first :: rest.branches
  | term => [term]

/-- The alternative of the given branches. Without a branch nothing matches. -/
def ofBranches : List Term → Term
  | [] => set .empty
  | [term] => term
  | first :: rest => alternative first (ofBranches rest)

/-- The character of a term that is a text of one character. -/
def char? : Term → Option Char
  | text [char] => some char
  | _ => none

/-- The set of a term that is a set. -/
def set? : Term → Option CharSet
  | set chars => some chars
  | _ => none

/-- One of several terms; characters and sets are merged into one set. -/
def oneOfMerged (terms : List Term) : Term :=
  let all := terms.flatMap branches
  match all with
  | [term] => term
  | _ =>
      match all.mapM char?, all.mapM set? with
      | some chars, _ => ofSet (.ofPoints (chars.map Char.toNat))
      | _, some sets => ofSet (.unions sets)
      | _, _ => ofBranches all

/-- The longest list that two lists start with. -/
def commonStart : List Term → List Term → List Term
  | left :: lefts, right :: rights => if left = right then left :: commonStart lefts rights else []
  | _, _ => []

/-- The parts that all branches start with, if every branch is a sequence. -/
def commonParts (all : List Term) : List Term :=
  match all.map parts with
  | first :: second :: rest =>
      if (first :: second :: rest).all fun list => 2 ≤ list.length then
        (second :: rest).foldl commonStart first
      else []
  | _ => []

/-- One of several terms. What all of them start with is written once, in front. -/
def oneOf (terms : List Term) : Term :=
  let merged := oneOfMerged terms
  let all := merged.branches
  match commonParts all with
  | [] => merged
  | common =>
      let remainders := all.map fun term => inSequence (term.parts.drop common.length)
      inSequence (common ++ [oneOfMerged remainders])

/-! ## Repetitions -/

/-- A term a number of times. A term that only matches the empty text is not worth repeating. -/
def times (body : Term) (least : Nat) (most : Option Nat) (greedy : Bool) : Term :=
  let (least, most) :=
    if body.isBlank then (min least 1, some (min (most.getD 1) 1)) else (least, most)
  if least = 0 ∧ most = some 0 then empty
  else if least = 1 ∧ most = some 1 then body
  else repeated body least most greedy

/-- No times a term is the empty term. -/
@[simp] theorem times_zero (body : Term) (greedy : Bool) :
    body.times 0 (some 0) greedy = empty := by
  simp [times]

/-- Once a term is the term. -/
@[simp] theorem times_one (body : Term) (greedy : Bool) :
    body.times 1 (some 1) greedy = body := by
  simp [times]

end Term

end RecordFilter.Pattern
