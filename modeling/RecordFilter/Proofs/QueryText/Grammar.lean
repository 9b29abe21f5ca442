import RecordFilter.Proofs.QueryText.Transition

/-! # The grammar of query texts

The query texts that have a meaning, and the clauses they mean, as derivations over characters.
Nothing here refers to states or steps.

* `Literal`: literal text, with what it stands for; `PlainRun`, `GroupRun`: outside and inside a
  group.
* `Heading`: the parts of a clause before its value.
* `Segments`, `elements`: the inside of a group, and its elements for the delimiter of the closing
  bracket.
* `Item`: a part of a text that stands for one clause or for none and after which a new clause can
  begin; `Tail`: the part after the last item.
* `Query`: a whole text, which is items and a tail. -/

namespace RecordFilter.QueryText

/-! ## Literal text -/

/-- A run of literal characters, and the text it stands for: characters that are not structural, and
characters after a backslash unless they are barred. -/
inductive Literal (barred : List Char) : List Char → List Char → Prop
  /-- The empty run stands for the empty text. -/
  | nil : Literal barred [] []
  /-- A character that is not structural stands for itself. -/
  | plain {char : Char} {chars text : List Char} (ordinary : char ∉ structural)
      (rest : Literal barred chars text) : Literal barred (char :: chars) (char :: text)
  /-- A backslash and a character that is not barred stand for the character. -/
  | escaped {char : Char} {chars text : List Char} (free : char ∉ barred)
      (rest : Literal barred chars text) : Literal barred ('\\' :: char :: chars) (char :: text)

/-- A literal text outside a group. -/
abbrev PlainRun := Literal [',', '|', ']', ')']

/-- A literal text inside a group, where separators can be escaped as well. -/
abbrev GroupRun := Literal [']', ')']

/-- A run of separators. -/
def Separators (chars : List Char) : Prop := ∀ char ∈ chars, char = ',' ∨ char = '|'

/-! ## Headings -/

/-- The parts of a clause before its value, and what they settle. After each colon separators are
skipped. -/
inductive Heading (whitelist : Whitelist) : List Char → Progress → Prop
  /-- Nothing is settled before the first part. -/
  | start : Heading whitelist [] .start
  /-- A type token and a colon settle the type. -/
  | typed {chars gap : List Char} {type : FieldType} (token : PlainRun chars type.token.toList)
      (separators : Separators gap) : Heading whitelist (chars ++ ':' :: gap) (.typed type)
  /-- The name of an admitted field and a colon settle the field. -/
  | named {front chars gap : List Char} {type : FieldType} {field : String}
      (before : Heading whitelist front (.typed type)) (name : PlainRun chars field.toList)
      (nonempty : field ≠ "") (allowed : whitelist.allows field = true)
      (separators : Separators gap) :
      Heading whitelist (front ++ chars ++ ':' :: gap) (.named type field)
  /-- An operator token and a colon settle the operator, and with it the header. -/
  | headed {front chars gap : List Char} {type : FieldType} {field : String} {operator : Operator}
      (before : Heading whitelist front (.named type field))
      (token : PlainRun chars operator.token.toList) (separators : Separators gap) :
      Heading whitelist (front ++ chars ++ ':' :: gap) (.headed ⟨type, field, operator⟩)

/-! ## Groups -/

/-- The inside of a group: a literal text, and further ones with the separators before them. -/
inductive Segments : List Char → List Char → List (Delimiter × List Char) → Prop
  /-- The last literal text. -/
  | last {chars text : List Char} (run : GroupRun chars text) : Segments chars text []
  /-- A literal text before a separator. -/
  | more {chars text others next : List Char} {segments : List (Delimiter × List Char)}
      {separator : Delimiter} (run : GroupRun chars text) (rest : Segments others next segments) :
      Segments (chars ++ separator.char :: others) text ((separator, next) :: segments)

/-- The elements of a group for a delimiter: it ends elements, and the other separator is a part of
them. -/
def elements (delimiter : Delimiter) : List Char → List (Delimiter × List Char) → List (List Char)
  | text, [] => [text]
  | text, (separator, next) :: segments =>
      if separator = delimiter then text :: elements delimiter next segments
      else elements delimiter (text ++ separator.char :: next) segments

/-! ## Query texts -/

/-- A part of a query text after which a new clause can begin, with the clause it stands for if it
stands for one. -/
inductive Item (whitelist : Whitelist) : List Char → Option RawClause → Prop
  /-- Text before a separator that no colon follows is dropped. -/
  | stray {chars : List Char} {text : String} (run : PlainRun chars text.toList)
      (separator : Delimiter) : Item whitelist (chars ++ [separator.char]) none
  /-- A clause of which only the type is settled is abandoned. -/
  | abandoned {front chars : List Char} {type : FieldType} {text : String}
      (heading : Heading whitelist front (.typed type)) (run : PlainRun chars text.toList)
      (nonempty : text ≠ "") (separator : Delimiter) :
      Item whitelist (front ++ chars ++ [separator.char]) none
  /-- A clause with a single value. -/
  | scalar {front chars : List Char} {header : Header} {text : String}
      (heading : Heading whitelist front (.headed header)) (run : PlainRun chars text.toList)
      (nonempty : text ≠ "") (separator : Delimiter) :
      Item whitelist (front ++ chars ++ [separator.char]) (some ⟨header, .one text⟩)
  /-- A clause with a group. Text before the group is dropped. -/
  | group {front chars inner text : List Char} {header : Header} {lost : String} {bracket : Char}
      {segments : List (Delimiter × List Char)}
      (heading : Heading whitelist front (.headed header)) (run : PlainRun chars lost.toList)
      (opening : bracket = '[' ∨ bracket = '(') (inside : Segments inner text segments)
      (delimiter : Delimiter) :
      Item whitelist (front ++ chars ++ bracket :: inner ++ [delimiter.closing])
        (some ⟨header, .group ((elements delimiter text segments).map String.ofList) delimiter⟩)

/-- The part of a query text after its last item, with the clause it stands for if it stands for
one. -/
inductive Tail (whitelist : Whitelist) : List Char → Option RawClause → Prop
  /-- Text that no colon follows. -/
  | stray {chars : List Char} {text : String} (run : PlainRun chars text.toList) :
      Tail whitelist chars none
  /-- A clause of which only the type is settled. -/
  | abandoned {front chars : List Char} {type : FieldType} {text : String}
      (heading : Heading whitelist front (.typed type)) (run : PlainRun chars text.toList) :
      Tail whitelist (front ++ chars) none
  /-- A clause that ends after its field. -/
  | named {front : List Char} {type : FieldType} {field : String}
      (heading : Heading whitelist front (.named type field)) : Tail whitelist front none
  /-- A clause that ends before its value. -/
  | headed {front : List Char} {header : Header}
      (heading : Heading whitelist front (.headed header)) : Tail whitelist front none
  /-- A clause with a single value. -/
  | scalar {front chars : List Char} {header : Header} {text : String}
      (heading : Heading whitelist front (.headed header)) (run : PlainRun chars text.toList)
      (nonempty : text ≠ "") : Tail whitelist (front ++ chars) (some ⟨header, .one text⟩)

/-- A query text and its clauses: items one after the other, and a tail. -/
inductive Query (whitelist : Whitelist) : List Char → List RawClause → Prop
  /-- A tail ends the text. -/
  | tail {chars : List Char} {clause? : Option RawClause} (last : Tail whitelist chars clause?) :
      Query whitelist chars clause?.toList
  /-- An item comes before the rest of the text. -/
  | item {chars rest : List Char} {clause? : Option RawClause} {clauses : List RawClause}
      (first : Item whitelist chars clause?) (others : Query whitelist rest clauses) :
      Query whitelist (chars ++ rest) (clause?.toList ++ clauses)

/-! ## Facts about derivations -/

section

variable {whitelist : Whitelist} {barred chars others text next : List Char}
  {progress : Progress} {segments : List (Delimiter × List Char)}

/-- Literal runs can be joined. -/
theorem Literal.append (first : Literal barred chars text) (second : Literal barred others next) :
    Literal barred (chars ++ others) (text ++ next) := by
  induction first with
  | nil => exact second
  | plain ordinary rest induction => exact .plain ordinary induction
  | escaped free rest induction => exact .escaped free induction

/-- A single character that is not structural. -/
theorem Literal.singleton {char : Char} (ordinary : char ∉ structural) :
    Literal barred [char] [char] :=
  .plain ordinary .nil

/-- A single escaped character. -/
theorem Literal.pair {char : Char} (free : char ∉ barred) :
    Literal barred ['\\', char] [char] :=
  .escaped free .nil

/-- A literal run stands for no barred character, as the barred characters are structural. -/
theorem Literal.notMem_of_mem (run : Literal barred chars text)
    (special : ∀ char ∈ barred, char ∈ structural) : ∀ char ∈ text, char ∉ barred := by
  induction run with
  | nil => simp
  | plain ordinary rest induction =>
      intro char member
      rcases List.mem_cons.1 member with rfl | member
      · exact fun isBarred => ordinary (special char isBarred)
      · exact induction char member
  | escaped free rest induction =>
      intro char member
      rcases List.mem_cons.1 member with rfl | member
      · exact free
      · exact induction char member

/-- Only the empty run stands for the empty text. -/
theorem Literal.eq_nil (run : Literal barred chars []) : chars = [] := by
  cases run
  rfl

/-- The delimiters separate. -/
theorem separators_singleton (delimiter : Delimiter) : Separators [delimiter.char] := by
  cases delimiter <;> simp [Separators, Delimiter.char]

/-- No separators are a run of separators. -/
theorem separators_nil : Separators [] := by
  simp [Separators]

/-- A run of separators begins with a delimiter. -/
theorem Separators.head {char : Char} (gap : Separators (char :: chars)) :
    ∃ delimiter : Delimiter, char = delimiter.char := by
  rcases gap char List.mem_cons_self with rfl | rfl
  · exact ⟨.comma, rfl⟩
  · exact ⟨.pipe, rfl⟩

/-- A run of separators without its first one is a run of separators. -/
theorem Separators.tail {char : Char} (gap : Separators (char :: chars)) : Separators chars :=
  fun other member => gap other (List.mem_cons_of_mem char member)

/-- Runs of separators can be joined. -/
theorem Separators.append (first : Separators chars) (second : Separators others) :
    Separators (chars ++ others) := by
  intro char member
  rcases List.mem_append.1 member with member | member
  · exact first char member
  · exact second char member

/-- A separator after a colon is skipped. -/
theorem Heading.skip (heading : Heading whitelist chars progress) (begun : progress ≠ .start)
    (delimiter : Delimiter) : Heading whitelist (chars ++ [delimiter.char]) progress := by
  cases heading with
  | start => exact absurd rfl begun
  | typed token separators =>
      rw [List.append_assoc, List.cons_append]
      exact .typed token (separators.append (separators_singleton delimiter))
  | named before name nonempty allowed separators =>
      rw [List.append_assoc, List.cons_append]
      exact .named before name nonempty allowed
        (separators.append (separators_singleton delimiter))
  | headed before token separators =>
      rw [List.append_assoc, List.cons_append]
      exact .headed before token (separators.append (separators_singleton delimiter))

/-! ## Groups as units -/

/-- The units of the inside of a group: its literal characters and its separators. -/
def units (text : List Char) (segments : List (Delimiter × List Char)) : List GroupUnit :=
  text.map .literal
    ++ segments.flatMap fun segment => .separator segment.1 :: segment.2.map .literal

theorem units_nil (text : List Char) : units text [] = text.map .literal := by
  simp [units]

theorem units_cons (text next : List Char) (separator : Delimiter)
    (segments : List (Delimiter × List Char)) :
    units text ((separator, next) :: segments)
      = text.map .literal ++ .separator separator :: units next segments := by
  simp [units]

/-- A literal run at the end of the inside of a group belongs to its last segment. -/
theorem Segments.append_literal (inside : Segments chars text segments)
    (run : GroupRun others next) :
    ∃ text' segments', Segments (chars ++ others) text' segments'
      ∧ units text' segments' = units text segments ++ next.map .literal := by
  induction inside with
  | last first =>
      -- the last segment ends the inside, so the run lengthens its text
      refine ⟨_, [], .last (first.append run), ?_⟩
      rw [units_nil, units_nil, List.map_append]
  | more first rest induction =>
      obtain ⟨text', segments', longer, same⟩ := induction
      refine ⟨_, _, by simpa using Segments.more first longer, ?_⟩
      rw [units_cons, units_cons, same, List.append_assoc, List.cons_append]

/-- A separator at the end of the inside of a group begins an empty segment. -/
theorem Segments.append_separator (inside : Segments chars text segments)
    (separator : Delimiter) :
    ∃ segments', Segments (chars ++ [separator.char]) text segments'
      ∧ units text segments' = units text segments ++ [.separator separator] := by
  induction inside with
  | last first =>
      refine ⟨_, .more first (.last .nil), ?_⟩
      rw [units_cons, units_nil, units_nil, List.map_nil]
  | more first rest induction =>
      obtain ⟨segments', longer, same⟩ := induction
      refine ⟨_, by simpa using Segments.more first longer, ?_⟩
      rw [units_cons, units_cons, same, List.append_assoc, List.cons_append]

/-- Literal characters at the start belong to the first value. -/
theorem GroupUnit.split_map_literal (delimiter : Delimiter) (text : List Char)
    (rest : List GroupUnit) :
    GroupUnit.split delimiter (text.map .literal ++ rest)
      = (GroupUnit.split delimiter rest).modifyHead (text ++ ·) := by
  induction text with
  | nil => exact (congrFun List.modifyHead_id _).symm
  | cons char text induction =>
      rw [List.map_cons, List.cons_append, GroupUnit.split_cons, if_neg nofun, induction,
        List.modifyHead_modifyHead]
      rfl

/-- Text at the start belongs to the first element. -/
theorem elements_append (delimiter : Delimiter) (front text : List Char)
    (segments : List (Delimiter × List Char)) :
    elements delimiter (front ++ text) segments
      = (elements delimiter text segments).modifyHead (front ++ ·) := by
  induction segments generalizing text with
  | nil => rfl
  | cons segment segments induction =>
      obtain ⟨separator, next⟩ := segment
      by_cases cut : separator = delimiter
      · simp [elements, cut]
      · rw [elements, if_neg cut, elements, if_neg cut, List.append_assoc, induction]

/-- The values of a group are its elements. -/
theorem split_units (delimiter : Delimiter) (text : List Char)
    (segments : List (Delimiter × List Char)) :
    GroupUnit.split delimiter (units text segments) = elements delimiter text segments := by
  induction segments generalizing text with
  | nil =>
      -- a text without separators is one value
      have values := GroupUnit.split_map_literal delimiter text []
      simpa [units_nil, elements] using values
  | cons segment segments induction =>
      obtain ⟨separator, next⟩ := segment
      rw [units_cons, GroupUnit.split_map_literal, GroupUnit.split_cons, induction]
      by_cases cut : separator = delimiter
      · simp [elements, cut]
      · -- the other separator joins the first value, with the text before it
        rw [if_neg (by simpa using cut), List.modifyHead_modifyHead, elements, if_neg cut,
          List.append_cons, elements_append]
        congr 1
        funext value
        simp [GroupUnit.char]

end

end RecordFilter.QueryText
