import RecordFilter.Number.Shortest

/-! # JSON values

Structured values and their compact text.

* `Json`: a value; the members of an object keep their order.
* `Json.text`: its text without blanks. -/

namespace RecordFilter

/-- A structured value. -/
inductive Json
  /-- No value. -/
  | null
  /-- A truth value. -/
  | boolean (value : Bool)
  /-- A number. -/
  | number (value : Binary64)
  /-- A text. -/
  | string (text : String)
  /-- A list of values. -/
  | array (elements : List Json)
  /-- Named values in order. -/
  | object (members : List (String × Json))

namespace Json

/-! ## Strings -/

/-- The lower-case hexadecimal digit of a number below 16. -/
def hexDigit (value : Nat) : Char := Nat.digitChar value

/-- A character inside quotation marks. Quotation marks, backslashes and control characters are
escaped, and every other character stands for itself. -/
def escapeChar (char : Char) : List Char :=
  match char with
  | '"' => ['\\', '"']
  | '\\' => ['\\', '\\']
  | '\x08' => ['\\', 'b']
  | '\x0c' => ['\\', 'f']
  | '\n' => ['\\', 'n']
  | '\r' => ['\\', 'r']
  | '\t' => ['\\', 't']
  | char =>
      if char.toNat < 0x20 then
        ['\\', 'u', '0', '0', hexDigit (char.toNat / 16), hexDigit (char.toNat % 16)]
      else [char]

/-- A text in quotation marks. -/
def quote (text : String) : String :=
  String.ofList ('"' :: text.toList.flatMap escapeChar ++ ['"'])

/-! ## Values -/

mutual

/-- The text of a value. A number that is not finite has none and is null. -/
def text : Json → String
  | null => "null"
  | boolean true => "true"
  | boolean false => "false"
  | number value => if value.isFinite then value.text else "null"
  | string text => quote text
  | array elements => "[" ++ ",".intercalate (elementTexts elements) ++ "]"
  | object members => "\x7b" ++ ",".intercalate (memberTexts members) ++ "\x7d"

/-- The texts of the elements of a list. -/
def elementTexts : List Json → List String
  | [] => []
  | element :: rest => text element :: elementTexts rest

/-- The texts of the members of an object. -/
def memberTexts : List (String × Json) → List String
  | [] => []
  | (name, value) :: rest => (quote name ++ ":" ++ text value) :: memberTexts rest

end

end Json

end RecordFilter
