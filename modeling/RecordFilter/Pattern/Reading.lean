import RecordFilter.Pattern.Token

/-! # Terms from tokens

Tokens are read from left to right onto a stack of open groups.

* `Nested`: a term with the depth to which its parts are nested in the text. The depth is bounded
  by `nestLimit`.
* `Bracket`: a bracket that is open.
* `Group`: a group that is open, with the alternatives and pieces read so far.
* `Builder.add?`: the effect of one token.
* `Term.ofText?`: the term that a text stands for. -/

namespace RecordFilter.Pattern

/-! ## Depths -/

/-- The greatest depth to which the parts of a pattern may be nested. -/
def nestLimit : Nat := 250

/-- A term with the depth to which its parts are nested. -/
structure Nested where
  /-- The term. -/
  term : Term
  /-- The depth. -/
  depth : Nat

/-- The depth of what consists of parts of the given depths. Two or more parts are one level
deeper than the deepest of them. -/
def depthOver (depths : List Nat) : Nat :=
  let deepest := depths.foldl max 0
  if depths.length < 2 then deepest else deepest + 1

@[simp] theorem depthOver_nil : depthOver [] = 0 := rfl

/-- A single part is as deep as it is. -/
@[simp] theorem depthOver_singleton (depth : Nat) : depthOver [depth] = depth := by
  simp [depthOver]

/-! ## Brackets -/

/-- The combination of two sets. -/
def SetOperation.combine (left right : CharSet) : SetOperation → CharSet
  | intersection => left.intersection right
  | difference => left.difference right
  | symmetricDifference => left.symmetricDifference right

/-- What stands to the left of an operation in a bracket. -/
structure LeftSide where
  /-- The set. -/
  chars : CharSet
  /-- The depth of the set. -/
  depth : Nat
  /-- The operation. -/
  operation : SetOperation

/-- A bracket that is open. -/
structure Bracket where
  /-- Whether it stands for the characters outside its set. -/
  negated : Bool
  /-- What stands to the left of the last operation. -/
  left : Option LeftSide
  /-- The sets of the members since then. -/
  members : List CharSet
  /-- The depths of these members. -/
  depths : List Nat

namespace Bracket

/-- A bracket at its start. -/
def opened (negated : Bool) : Bracket := ⟨negated, none, [], []⟩

/-- The set read so far. Both sides of an operation extend to case variants where case is
ignored. -/
def set (flags : Flags) (bracket : Bracket) : CharSet :=
  let right := CharSet.unions bracket.members
  match bracket.left with
  | none => right
  | some left => left.operation.combine (flags.folded left.chars) (flags.folded right)

/-- The depth of the set read so far. -/
def depth (bracket : Bracket) : Nat :=
  let right := depthOver bracket.depths
  match bracket.left with
  | none => right
  | some left => max left.depth right + 1

/-- One more member. -/
def insert (bracket : Bracket) (chars : CharSet) (depth : Nat) : Bracket :=
  { bracket with members := chars :: bracket.members, depths := depth :: bracket.depths }

/-- An operation on the set read so far and the set that follows. -/
def operate (flags : Flags) (bracket : Bracket) (operation : SetOperation) : Bracket :=
  { bracket with
    left := some ⟨bracket.set flags, bracket.depth, operation⟩
    members := []
    depths := [] }

end Bracket

/-! ## Groups -/

/-- A piece of an alternative. -/
inductive Piece
  /-- A term. -/
  | nested (part : Nested)
  /-- A change of flags, which nothing can repeat. -/
  | flags

namespace Piece

/-- The term of a piece. A change of flags matches the empty text. -/
def term : Piece → Term
  | .nested part => part.term
  | .flags => .empty

/-- The depth of a piece. -/
def depth : Piece → Nat
  | .nested part => part.depth
  | .flags => 0

end Piece

/-- A group that is open, or the whole pattern. -/
structure Group where
  /-- The number of the group, if it has one. -/
  number : Option Nat
  /-- The flags at this point. -/
  flags : Flags
  /-- The finished alternatives, the last one first. -/
  alternatives : List Nested
  /-- The pieces of the current alternative, the last one first. -/
  pieces : List Piece

namespace Group

/-- A group at its start. -/
def opened (number : Option Nat) (flags : Flags) : Group := ⟨number, flags, [], []⟩

/-- One more piece. -/
def push (group : Group) (piece : Piece) : Group :=
  { group with pieces := piece :: group.pieces }

/-- The current alternative. -/
def current (group : Group) : Nested where
  term := .inSequence (group.pieces.reverse.map Piece.term)
  depth := depthOver (group.pieces.map Piece.depth)

/-- The alternatives together. -/
def content (group : Group) : Nested :=
  let all := (group.current :: group.alternatives).reverse
  ⟨.oneOf (all.map Nested.term), depthOver (all.map Nested.depth)⟩

/-- The group once it is closed. -/
def closed (group : Group) : Nested :=
  let ⟨term, depth⟩ := group.content
  match group.number with
  | some number => ⟨.group number term, depth + 1⟩
  | none => ⟨term, depth + 1⟩

end Group

/-! ## Reading -/

/-- What has been read of a pattern. -/
structure Builder where
  /-- The innermost open group. -/
  group : Group
  /-- The groups around it, the innermost first. -/
  outer : List Group
  /-- The open brackets, the innermost first. -/
  brackets : List Bracket
  /-- The names of groups so far. -/
  names : List String
  /-- The count of numbered groups so far. -/
  groups : Nat

namespace Builder

/-- Nothing has been read. -/
def initial : Builder := ⟨.opened none .initial, [], [], [], 0⟩

/-- The flags at this point. -/
def flags (builder : Builder) : Flags := builder.group.flags

/-- One more term in the current group. -/
def push? (builder : Builder) (term : Term) (depth : Nat) : Option Builder :=
  if depth ≤ nestLimit then
    some { builder with group := builder.group.push (.nested ⟨term, depth⟩) }
  else none

/-- One more part without parts of its own. -/
def pushLeaf? (builder : Builder) (term : Term) : Option Builder := builder.push? term 0

/-- Open a group. A name is given once. -/
def openGroup? (builder : Builder) (kind : GroupKind) : Option Builder :=
  let opened (number : Option Nat) (flags : Flags) : Builder :=
    { builder with group := .opened number flags, outer := builder.group :: builder.outer }
  let next := builder.groups + 1
  match kind with
  | .plain change => some (opened none (builder.flags.changed change))
  | .numbered => some { opened (some next) builder.flags with groups := next }
  | .named name =>
      if builder.names.contains name then none
      else
        some { opened (some next) builder.flags with
          groups := next
          names := name :: builder.names }

/-- Close the innermost group: it is a term of the group around it. -/
def closeGroup? (builder : Builder) : Option Builder :=
  match builder.outer with
  | [] => none
  | around :: rest =>
      let ⟨term, depth⟩ := builder.group.closed
      { builder with group := around, outer := rest }.push? term depth

/-- Repeat the last term of the current group. -/
def repeat? (builder : Builder) (least : Nat) (most : Option Nat) (marked : Bool) :
    Option Builder :=
  match builder.group.pieces with
  | .nested ⟨term, depth⟩ :: rest =>
      let greedy := marked == builder.flags.swapGreed
      { builder with group := { builder.group with pieces := rest } }.push?
        (term.times least most greedy) (depth + 1)
  | _ => none

/-- Change the innermost bracket. -/
def inBracket? (builder : Builder) (change : Bracket → Bracket) : Option Builder :=
  match builder.brackets with
  | [] => none
  | bracket :: rest => some { builder with brackets := change bracket :: rest }

/-- Close the innermost bracket: it is a member of the bracket around it, or a term. -/
def closeBracket? (builder : Builder) : Option Builder := do
  match builder.brackets with
  | [] => none
  | bracket :: rest =>
      let chars ← builder.flags.finished? bracket.negated (bracket.set builder.flags)
      let depth := bracket.depth + 1
      let outside := { builder with brackets := rest }
      if rest.isEmpty then outside.push? (.ofSet chars) depth
      else outside.inBracket? (·.insert chars depth)

/-- Read one more token. -/
def add? (builder : Builder) (token : Token) : Option Builder := do
  let flags := builder.flags
  let group := builder.group
  match token with
  | .literal char isByte => builder.pushLeaf? (← flags.literal? char isByte)
  | .set item => builder.pushLeaf? (.ofSet (← flags.chars? item))
  | .dot => builder.pushLeaf? (.ofSet (← flags.dot?))
  | .caret =>
      builder.pushLeaf? <| .assertion <|
        if !flags.lines then .textStart else if flags.returns then .returnLineStart else .lineStart
  | .dollar =>
      builder.pushLeaf? <| .assertion <|
        if !flags.lines then .textEnd else if flags.returns then .returnLineEnd else .lineEnd
  | .assertion condition => builder.pushLeaf? (.assertion condition)
  | .word condition => builder.pushLeaf? (.assertion (.word (!flags.unicode) condition))
  | .bar =>
      let alternatives := group.current :: group.alternatives
      return { builder with group := { group with alternatives, pieces := [] } }
  | .openGroup kind => builder.openGroup? kind
  | .closeGroup => builder.closeGroup?
  | .flags change =>
      return { builder with
        group := { group with flags := flags.changed change }.push .flags }
  | .repetition least most marked => builder.repeat? least most marked
  | .openBracket negated =>
      return { builder with brackets := .opened negated :: builder.brackets }
  | .member item =>
      let chars ← flags.chars? item
      builder.inBracket? (·.insert chars 0)
  | .operation operation => builder.inBracket? (·.operate flags operation)
  | .closeBracket => builder.closeBracket?

/-- Read a text in at most the given number of steps. Every step takes up a character, so as many
steps as there are characters are enough. -/
def readIn? : Nat → Builder → List Char → Option Builder
  | steps, builder, text =>
      match skip builder.flags.spaced text, steps with
      | [], _ => some builder
      | _, 0 => none
      | text, steps + 1 => do
          let (tokens, later) ← Token.take? (!builder.brackets.isEmpty) builder.flags.spaced text
          readIn? steps (← tokens.foldlM add? builder) later

/-- The term of a pattern whose groups and brackets are closed. -/
def term? (builder : Builder) : Option Term :=
  let ⟨term, depth⟩ := builder.group.content
  if builder.outer.isEmpty ∧ builder.brackets.isEmpty ∧ depth ≤ nestLimit then some term else none

end Builder

/-- The term that a text stands for. -/
def Term.ofText? (text : String) : Option Term := do
  let chars := text.toList
  let builder ← Builder.initial.readIn? chars.length chars
  builder.term?

end RecordFilter.Pattern
