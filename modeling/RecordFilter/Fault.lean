import RecordFilter.Argument
import RecordFilter.FieldType

/-! # Faults

Why a query text, a clause or a pattern is refused. A fault is a cause; its wording is
`Fault.message` and its stage is `Fault.kind`.

* Positions count characters from zero (`Fault.position?`).
* `Fault.shift`: the same fault of a text that stands further to the right. -/

namespace RecordFilter

/-- A part of the header that every clause starts with. -/
inductive HeaderPart
  /-- The declared type. -/
  | type
  /-- The field name. -/
  | field
  /-- The operator. -/
  | operator
  deriving DecidableEq, Repr

/-- The name of a header part. -/
def HeaderPart.name : HeaderPart → String
  | type => "type"
  | field => "field"
  | operator => "operator"

/-- The stage that refuses. -/
inductive FaultKind
  /-- The query text is not built from clauses. -/
  | form
  /-- A type, operator or field is not known, or the field is not allowed. -/
  | vocabulary
  /-- An operator or value does not fit the declared type. -/
  | typing
  /-- A pattern cannot be read. -/
  | pattern
  deriving DecidableEq, Repr

/-- The cause of a refusal. -/
inductive Fault
  /-- A colon after the header of the clause is complete. -/
  | strayColon (position : Nat)
  /-- A colon inside an open group. -/
  | colonInsideGroup (position : Nat)
  /-- A group opened inside an open group. -/
  | groupInsideGroup (position : Nat)
  /-- A closing bracket without an open group. -/
  | nothingToClose (delimiter : Delimiter) (position : Nat)
  /-- The text ends inside the group opened at the position. -/
  | groupLeftOpen (position : Nat)
  /-- A backslash before a character that cannot be escaped there. -/
  | notEscapable (char : Char) (position : Nat)
  /-- The text ends right after a backslash. -/
  | escapeAtEnd
  /-- A clause ends, or its group opens, before the header is complete. -/
  | headerIncomplete (part : HeaderPart) (position : Nat)
  /-- The field name is empty. -/
  | fieldEmpty (position : Nat)
  /-- The declared type is not registered. -/
  | typeUnknown (text : String)
  /-- The operator is not registered. -/
  | operatorUnknown (text : String)
  /-- The field is not on the whitelist. -/
  | fieldNotListed (text : String)
  /-- The operator is not legal for the declared type. -/
  | illegalOperator (field : String) (operator : Operator) (type : FieldType)
  /-- The value is not one of the declared type. -/
  | valueMalformed (field text : String) (type : FieldType)
  /-- A range operator does not have its two bounds. -/
  | boundCount (field : String) (operator : Operator) (actual : Nat)
  /-- The declared type takes one value and got a group. -/
  | groupUnexpected (field : String) (type : FieldType)
  /-- The pattern cannot be read. -/
  | invalidPattern (pattern : String)
  deriving DecidableEq, Repr

namespace Fault

/-- The stage the fault belongs to. -/
def kind : Fault → FaultKind
  | strayColon _ | colonInsideGroup _ | groupInsideGroup _ | nothingToClose _ _ | groupLeftOpen _
  | notEscapable _ _ | escapeAtEnd | headerIncomplete _ _ | fieldEmpty _ => .form
  | typeUnknown _ | operatorUnknown _ | fieldNotListed _ => .vocabulary
  | illegalOperator _ _ _ | valueMalformed _ _ _ | boundCount _ _ _
  | groupUnexpected _ _ => .typing
  | invalidPattern _ => .pattern

/-- The wording of the fault. What is wrong with a pattern is told in the words of the engine that
could not read it. -/
def message (account : String → String) : Fault → String
  | strayColon position => s!"unexpected character ':' at position {position}"
  | colonInsideGroup position =>
      s!"unbalanced parenthesis or brackets: ':' inside a group at position {position}"
  | groupInsideGroup position =>
      s!"unbalanced parenthesis or brackets: nested group at position {position}"
  | nothingToClose delimiter position =>
      s!"unbalanced parenthesis or brackets: '{delimiter.closing}' at position {position} "
        ++ "closes nothing"
  | groupLeftOpen position =>
      s!"unbalanced parenthesis or brackets: group opened at position {position} is never closed"
  | notEscapable char position =>
      s!"character '{char}' at position {position} cannot be escaped here"
  | escapeAtEnd => "dangling escape at end of input"
  | headerIncomplete part position =>
      s!"missing {part.name} in clause ending at position {position}"
  | fieldEmpty position => s!"empty field name at position {position}"
  | typeUnknown text => s!"unknown type '{text}'"
  | operatorUnknown text => s!"unknown operator '{text}'"
  | fieldNotListed text => s!"unknown field '{text}'"
  | illegalOperator field operator type =>
      s!"operator '{operator.token}' is not valid for {type.name} field '{field}'"
  | valueMalformed field text type => s!"invalid {type.name} value '{text}' for field '{field}'"
  | boundCount field operator actual =>
      s!"operator '{operator.token}' on field '{field}' expects 2 values, got {actual}"
  | groupUnexpected field type =>
      s!"{type.name} field '{field}' does not accept a group of values"
  | invalidPattern pattern => s!"invalid regex pattern: {account pattern}"

/-- The position the fault names, if it names one. -/
def position? : Fault → Option Nat
  | strayColon position | colonInsideGroup position | groupInsideGroup position
  | nothingToClose _ position | groupLeftOpen position | notEscapable _ position
  | headerIncomplete _ position | fieldEmpty position => some position
  | _ => none

/-- The same fault with its position moved to the right. -/
def shift (offset : Nat) : Fault → Fault
  | strayColon position => strayColon (position + offset)
  | colonInsideGroup position => colonInsideGroup (position + offset)
  | groupInsideGroup position => groupInsideGroup (position + offset)
  | nothingToClose delimiter position => nothingToClose delimiter (position + offset)
  | groupLeftOpen position => groupLeftOpen (position + offset)
  | notEscapable char position => notEscapable char (position + offset)
  | headerIncomplete part position => headerIncomplete part (position + offset)
  | fieldEmpty position => fieldEmpty (position + offset)
  | fault => fault

/-- Moving a fault moves its position. -/
@[simp] theorem position?_shift (offset : Nat) (fault : Fault) :
    (fault.shift offset).position? = fault.position?.map (· + offset) := by
  cases fault <;> rfl

/-- Moving a fault keeps its kind. -/
@[simp] theorem kind_shift (offset : Nat) (fault : Fault) :
    (fault.shift offset).kind = fault.kind := by
  cases fault <;> rfl

end Fault

end RecordFilter
