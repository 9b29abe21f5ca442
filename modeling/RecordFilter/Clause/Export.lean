import RecordFilter.Clause.Basic
import RecordFilter.Json
import RecordFilter.Time.Writing

/-! # Clauses as JSON

A clause as an object with its type, field, operator, whether it has a group, the delimiter of the
group if it has one, and its value or the list of its values.

* `Clause.toJson`: the object of a clause.
* `Clause.listText`: the text of a list of clauses. -/

namespace RecordFilter

/-- The value or the values of an argument. -/
def Argument.toJson (convert : α → Json) : Argument α → Json
  | one value => convert value
  | group values _ => .array (values.map convert)

/-- A delimiter as a text of one character. -/
def Delimiter.toJson (delimiter : Delimiter) : Json := .string (toString delimiter.char)

/-- The value of a comparison. An instant is a text. -/
def Comparison.valueJson : Comparison → Json
  | string _ argument => argument.toJson .string
  | boolean _ value => .boolean value
  | number _ argument => argument.toJson .number
  | date _ argument => argument.toJson fun instant => .string instant.text
  | null _ => .null

namespace Clause

/-- The object of a clause. -/
def toJson (clause : Clause) : Json :=
  .object <|
    [("type", .string clause.type.name), ("field", .string clause.field),
      ("operator", .string clause.operator.token),
      ("isMulti", .boolean clause.comparison.isGroup)]
      ++ clause.comparison.delimiter?.toList.map (fun delimiter =>
          ("groupDelimiter", delimiter.toJson))
      ++ [("value", clause.comparison.valueJson)]

/-- The text of a list of clauses. -/
def listText (clauses : List Clause) : String :=
  (Json.array (clauses.map toJson)).text

end Clause

end RecordFilter
