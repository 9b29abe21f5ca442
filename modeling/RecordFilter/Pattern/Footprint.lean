import RecordFilter.Pattern.Term
import RecordFilter.Pattern.Utf8
import Std.Data.HashMap

/-! # The memory that a pattern takes

A pattern stands for two automata over the bytes of UTF-8, one for each direction of reading. Their
states are laid out one after another, and a pattern is refused if one of the two automata takes
too much memory.

A state takes 32 bytes; a state with several ways out takes 8 more for each range of bytes, or 4
more for each way that is open without a byte. Sets share equal states, as far as a memo of limited
size remembers them.

* `Layout`: the states laid out so far; `Laying`: actions that lay out more.
* `layTerm`: the states of a term.
* `Term.fits`: whether both automata stay within `sizeLimit`. -/

namespace RecordFilter.Pattern

/-! ## Memos -/

/-- A memo of limited size: a key has one slot, and the last key in a slot is remembered. -/
structure Memo where
  /-- The number of slots. -/
  size : Nat
  /-- The slots in use, with their keys and the states of these. -/
  slots : Std.HashMap Nat (List Nat × Nat)

namespace Memo

/-- A memo without entries. -/
def sized (size : Nat) : Memo := ⟨size, ∅⟩

/-- The slot of a key: the FNV-1a hash of its numbers in 64 bits, within the size. -/
def slot (memo : Memo) (key : List Nat) : Nat :=
  let hash := key.foldl (fun hash number => (hash ^^^ UInt64.ofNat number) * 0x100000001b3)
    (0xcbf29ce484222325 : UInt64)
  hash.toNat % memo.size

/-- The state that is remembered for a key. -/
def find? (memo : Memo) (key : List Nat) : Option Nat :=
  match memo.slots[memo.slot key]? with
  | some (known, state) => if known = key then some state else none
  | none => none

/-- Remember a state for a key. -/
def insert (memo : Memo) (key : List Nat) (state : Nat) : Memo :=
  { memo with slots := memo.slots.insert (memo.slot key) (key, state) }

/-- What has been inserted last is found. -/
theorem find?_insert (memo : Memo) (key : List Nat) (state : Nat) :
    (memo.insert key state).find? key = some state := by
  simp [find?, insert, slot]

end Memo

/-! ## Layouts -/

/-- The states laid out so far. -/
structure Layout where
  /-- The number of states. -/
  states : Nat
  /-- The bytes that they take. -/
  bytes : Nat
  /-- The states of the current set that can be shared. -/
  memo : Memo

/-- Actions that lay out states. They fail where too much memory would be taken. -/
abbrev Laying := StateT Layout Option

/-- The greatest number of bytes that an automaton may take. -/
def sizeLimit : Nat := 10485760

/-- Take some bytes. -/
def takeBytes (bytes : Nat) : Laying Unit := fun layout =>
  if layout.bytes + bytes ≤ sizeLimit then
    some ((), { layout with bytes := layout.bytes + bytes })
  else none

/-- Lay out a state with some bytes for its ways out. The answer is its number. -/
def layState (more : Nat) : Laying Nat := do
  takeBytes (32 + more)
  modifyGet fun layout => (layout.states, { layout with states := layout.states + 1 })

/-- Lay out a state with a key of its own, or share the one that is remembered for the key. -/
def layShared (key : List Nat) (more : Nat) : Laying Nat := do
  match (← get).memo.find? key with
  | some state => return state
  | none =>
      let state ← layState more
      modify fun layout => { layout with memo := layout.memo.insert key state }
      return state

/-- Start a new memo. -/
def freshMemo (size : Nat) : Laying Unit := modify fun layout => { layout with memo := .sized size }

/-- The end of what has been laid out: a state with one way out, which is still open, or one with
several ways out, where another way takes memory of its own. -/
inductive End
  /-- One way out. -/
  | single
  /-- Several ways out. -/
  | fork
  deriving DecidableEq

/-- Lead an end to some state. -/
def lead : End → Laying Unit
  | .single => pure ()
  | .fork => takeBytes 4

/-! ## Sets -/

/-- The ways in which an automaton reads. -/
inductive Direction
  /-- From the first byte to the last. -/
  | forward
  /-- From the last byte to the first. -/
  | backward
  deriving DecidableEq

/-- Lay out the states for sequences of bytes that lead to a state, where sequences that start alike
share their first states, and equal states are shared. The sequences have at most the given
length. -/
def laySequences (target : Nat) : Nat → List (List ByteRange) → Laying Nat
  | 0, _ => pure target
  | length + 1, sequences =>
      if sequences.all List.isEmpty then pure target
      else do
        let alike := sequences.splitBy fun left right => left.head? == right.head?
        let ways ← alike.mapM fun group => do
          let next ← laySequences target length (group.map List.tail)
          return (group.head?.bind List.head?).toList.flatMap fun range =>
            [range.first, range.last, next]
        layShared ways.flatten (8 * alike.length)

/-- Lay out the states for a sequence of bytes that is read backwards to a state. Sequences that
start alike share their first states. -/
def layBackward (last : Nat) (sequence : List ByteRange) : Laying Nat :=
  sequence.foldlM (fun next range => layShared [next, range.first, range.last] 0) last

/-- Lay out the states of a set. A set of ASCII characters is one state, apart from its end. -/
def laySet (direction : Direction) (chars : CharSet) : Laying End := do
  if chars.isAscii then
    let _ ← layState 0
    let _ ← layState (8 * chars.ranges.size)
  else
    match direction with
    | .forward =>
        let last ← layState 0
        freshMemo 10000
        let _ ← laySequences last 4 (byteSequences chars)
    | .backward =>
        let _ ← layState 0
        let last ← layState 0
        freshMemo 1000
        (byteSequences chars).forM fun sequence => do
          let _ ← layBackward last sequence
          takeBytes 4
  return .single

/-! ## Texts -/

/-- The bytes of a text in the order of reading. -/
def bytesInOrder (direction : Direction) (chars : List Char) : List Nat :=
  let bytes := chars.flatMap fun char => utf8Bytes char.toNat
  match direction with
  | .forward => bytes
  | .backward => bytes.reverse

/-- The words of a list up to each empty one, in order, and those after the last. Empty words in
front of all others count once. -/
def chunks (words : List (List Nat)) : List (List (List Nat)) :=
  let leading := words.takeWhile List.isEmpty
  let rest := (words.drop leading.length).splitOnP List.isEmpty
  if leading = [] then rest else [] :: rest

/-- Lay out the states for texts of which one is read. Texts that start alike share states, but not
across a text that ends where they part. The texts have at most the given length. -/
def layTexts : Nat → List (List Nat) → Laying Unit
  | 0, _ => pure ()
  | length + 1, texts =>
      if texts.all List.isEmpty then pure ()
      else do
        let chunks := chunks texts
        chunks.forM fun chunk => do
          let bytes := (chunk.filterMap List.head?).eraseDups
          bytes.forM fun byte =>
            layTexts length ((chunk.filter fun text => text.head? == some byte).map List.tail)
          if bytes.length = 1 then let _ ← layState 0
          else if bytes ≠ [] then let _ ← layState (8 * bytes.length)
        let filled := (chunks.filter (· ≠ [])).length
        let _ ← layState (4 * (filled + (chunks.length - 1)))

/-! ## Repetitions -/

/-- Lay out more copies after an end. -/
def layCopies (copy : Laying End) : Nat → End → Laying End
  | 0, before, layout => some (before, layout)
  | more + 1, before, layout =>
      match copy layout with
      | none => none
      | some (after, layout) =>
          match lead before layout with
          | none => none
          | some (_, layout) => layCopies copy more after layout

/-- Lay out a number of copies. -/
def layExactly (copy : Laying End) : Nat → Laying End
  | 0 => do
      let _ ← layState 0
      return .single
  | more + 1 => do layCopies copy more (← copy)

/-- Lay out copies after an end, each of which can be left out with all that follow. -/
def layOptional (copy : Laying End) : Nat → End → Laying End
  | 0, before, layout => some (before, layout)
  | more + 1, before, layout =>
      match layState 8 layout with
      | none => none
      | some (_, layout) =>
          match copy layout with
          | none => none
          | some (after, layout) =>
              match lead before layout with
              | none => none
              | some (_, layout) => layOptional copy more after layout

/-- Lay out a repetition with a least number of copies and no greatest one. -/
def layAtLeast (copy : Laying End) (isNonempty : Bool) : Nat → Laying End
  | 0 =>
      if isNonempty then do
        let _ ← layState 4
        lead (← copy)
        return .fork
      else do
        lead (← copy)
        let _ ← layState 8
        let _ ← layState 8
        let _ ← layState 0
        return .single
  | 1 => do
      let last ← copy
      let _ ← layState 4
      lead last
      return .fork
  | more + 2 => do
      let before ← layExactly copy (more + 1)
      let last ← copy
      let _ ← layState 4
      lead before
      lead last
      return .fork

/-- Lay out a repetition. -/
def layRepeated (copy : Laying End) (isNonempty : Bool) (least : Nat) : Option Nat → Laying End
  | none => layAtLeast copy isNonempty least
  | some most =>
      if least = 0 ∧ most = 1 then do
        let _ ← layState 8
        lead (← copy)
        let _ ← layState 0
        return .single
      else if least = most then layExactly copy least
      else do
        let before ← layExactly copy least
        let _ ← layState 0
        lead (← layOptional copy (most - least) before)
        return .single

/-! ## Terms -/

/-- Lay out branches of which one is read. -/
def layAny : List (Laying End) → Laying End
  | [] => return .single
  | [branch] => branch
  | first :: second :: rest => do
      let firstEnd ← first
      let secondEnd ← second
      let _ ← layState 8
      let _ ← layState 0
      lead firstEnd
      lead secondEnd
      rest.forM fun branch => do
        lead (← branch)
        takeBytes 4
      return .single

/-- The texts of terms that are all texts, if there are several. -/
def textsOf? (branches : List Term) : Option (List (List Char)) :=
  if branches.length < 2 then none
  else
    branches.mapM fun branch =>
      match branch with
      | .text chars => some chars
      | _ => none

/-- Lay out a term, given how its branches are laid out. Texts share their states. -/
def layWhole (direction : Direction) (term : Term) (branches : List (Laying End)) : Laying End :=
  match textsOf? term.branches with
  | some texts => do
      let words := texts.map (bytesInOrder direction)
      let _ ← layState 0
      layTexts ((words.map List.length).foldl max 0 + 1) words
      return .single
  | none => layAny branches

/-- How the branches of a term are laid out. -/
def layBranches (direction : Direction) : Term → List (Laying End)
  | .alternative first rest =>
      layWhole direction first (layBranches direction first) :: layBranches direction rest
  | .empty | .assertion _ => [do
      let _ ← layState 0
      return .single]
  | .text chars => [do
      (bytesInOrder direction chars).forM fun _ => do
        let _ ← layState 0
      return .single]
  | .set chars => [laySet direction chars]
  | .repeated body least most _ =>
      let copy := layWhole direction body (layBranches direction body)
      [layRepeated copy (body.shortest?.any (0 < ·)) least most]
  | .group _ body =>
      let whole := layWhole direction body (layBranches direction body)
      match direction with
      | .forward => [do
          let _ ← layState 0
          lead (← whole)
          let _ ← layState 0
          return .single]
      | .backward => [whole]
  | .sequence first rest =>
      let first := layWhole direction first (layBranches direction first)
      let rest := layWhole direction rest (layBranches direction rest)
      let (first, second) :=
        match direction with
        | .forward => (first, rest)
        | .backward => (rest, first)
      [do
        let before ← first
        let after ← second
        lead before
        return after]

/-- Lay out the states of a term. -/
def layTerm (direction : Direction) (term : Term) : Laying End :=
  layWhole direction term (layBranches direction term)

/-- Lay out the automaton of a term. It may start at any place of a text, unless the form of the
term shows that matches start where reading starts. -/
def layAutomaton (direction : Direction) (term : Term) : Laying Unit := do
  let isAnchored :=
    match direction with
    | .forward => term.startsText
    | .backward => term.endsText
  if isAnchored then let _ ← layState 0
  else
    let _ ← layState 8
    let _ ← layState 0
    let _ ← layState 8
  let whole ←
    match direction with
    | .forward => layTerm direction (.group 0 term)
    | .backward => layTerm direction term
  let _ ← layState 0
  lead whole

/-- Whether the automata of a term take no more memory than they may. -/
def Term.fits (term : Term) : Bool :=
  [Direction.forward, .backward].all fun direction =>
    (layAutomaton direction term ⟨0, 0, .sized 1⟩).isSome

end RecordFilter.Pattern
