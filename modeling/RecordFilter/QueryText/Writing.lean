import RecordFilter.QueryText.Reader

/-! # Writing clauses

The query text of a clause, with a backslash before every character that would not be literal.

* `escape`, `escapeInGroup`: literal text outside and inside a group.
* `clauseChars`: the text of a clause.
* `write`: the text of several clauses, separated by commas.
* `Writable`: the clauses that have a text. A comma or a vertical bar can stand only inside a
  group, and a closing bracket in no text at all. -/

namespace RecordFilter

namespace QueryText

/-! ## Literal text -/

/-- Whether a character needs a backslash in every literal text. -/
def needsEscape (char : Char) : Bool :=
  match Symbol.ofChar char with
  | .escape | .colon | .opening => true
  | _ => false

/-- Whether a character needs a backslash inside a group. -/
def needsEscapeInGroup (char : Char) : Bool :=
  match Symbol.ofChar char with
  | .escape | .colon | .opening | .separator _ => true
  | _ => false

/-- A text with backslashes before the characters that need one. -/
def escapeWhere (special : Char → Bool) (text : List Char) : List Char :=
  text.flatMap fun char => if special char then ['\\', char] else [char]

@[simp] theorem escapeWhere_nil (special : Char → Bool) : escapeWhere special [] = [] := rfl

theorem escapeWhere_cons (special : Char → Bool) (char : Char) (text : List Char) :
    escapeWhere special (char :: text)
      = (if special char then ['\\', char] else [char]) ++ escapeWhere special text := rfl

/-- A literal text outside a group. -/
def escape (text : String) : List Char := escapeWhere needsEscape text.toList

/-- A literal text inside a group. -/
def escapeInGroup (text : String) : List Char := escapeWhere needsEscapeInGroup text.toList

/-! ## Clauses -/

/-- The text of a value or a group. -/
def valueChars : Argument String → List Char
  | .one text => escape text
  | .group texts delimiter =>
      delimiter.opening :: ([delimiter.char].intercalate (texts.map escapeInGroup)
        ++ [delimiter.closing])

/-- The text of a clause. -/
def clauseChars (clause : RawClause) : List Char :=
  clause.type.token.toList ++ ':' :: escape clause.field ++ ':' :: clause.operator.token.toList
    ++ ':' :: valueChars clause.value

/-- The text of several clauses. -/
def write (clauses : List RawClause) : String :=
  String.ofList ([','].intercalate (clauses.map clauseChars))

/-! ## Writable clauses -/

/-- Whether a text can stand outside a group. -/
def PlainText (text : String) : Prop :=
  ∀ char ∈ text.toList, ∀ delimiter, Symbol.ofChar char ≠ .separator delimiter
    ∧ Symbol.ofChar char ≠ .closing delimiter

/-- Whether a text can stand inside a group. -/
def GroupText (text : String) : Prop :=
  ∀ char ∈ text.toList, ∀ delimiter, Symbol.ofChar char ≠ .closing delimiter

/-- Whether a value can be written: a text that is not empty, or a group with at least one text. -/
def WritableValue : Argument String → Prop
  | .one text => text ≠ "" ∧ PlainText text
  | .group texts _ => texts ≠ [] ∧ ∀ text ∈ texts, GroupText text

/-- Whether a clause can be written under a whitelist. -/
structure Writable (whitelist : Whitelist) (clause : RawClause) : Prop where
  /-- The field has a name. -/
  field_ne : clause.field ≠ ""
  /-- The field is admitted. -/
  allowed : whitelist.allows clause.field = true
  /-- The field name can stand outside a group. -/
  field_plain : PlainText clause.field
  /-- The value can be written. -/
  value : WritableValue clause.value

end QueryText

end RecordFilter
