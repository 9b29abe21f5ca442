import RecordFilter.Proofs.QueryText.Recognition
import RecordFilter.QueryText.Writing

/-! # Writing clauses and reading them back

The clauses that can be written are exactly the clauses that reading finds, and reading their text
gives them back.

* `Spelling`, `Spellings`: the texts of a clause and of a list of clauses. A group may be opened by
  either bracket, and any separators may stand between two clauses.
* `Spellings.query`: the grammar derives them, so they are read back (`readRaw_of_spellings`).
* `Reached.writable`: every clause found in any text can be written, so what is found is read back
  from its canonical text (`writable_items_and_readRaw_write`). -/

namespace RecordFilter.QueryText

variable {whitelist : Whitelist} {chars others gap rest barred : List Char} {text : String}
  {clause : RawClause} {clauses more : List RawClause}

/-! ## Literal text -/

/-- A text can stand outside a group if it has no separators and no closing brackets. -/
theorem plainText_iff : PlainText text ↔ ∀ char ∈ text.toList, char ∉ [',', '|', ']', ')'] := by
  refine forall₂_congr fun char _ => ?_
  simp only [ne_eq, Symbol.ofChar_eq_separator_iff, Symbol.ofChar_eq_closing_iff]
  constructor
  · intro plain
    have comma := plain .comma
    have pipe := plain .pipe
    simp_all [Delimiter.char, Delimiter.closing]
  · intro free delimiter
    cases delimiter <;> simp_all [Delimiter.char, Delimiter.closing]

/-- A text can stand inside a group if it has no closing brackets. -/
theorem groupText_iff : GroupText text ↔ ∀ char ∈ text.toList, char ∉ [']', ')'] := by
  refine forall₂_congr fun char _ => ?_
  simp only [ne_eq, Symbol.ofChar_eq_closing_iff]
  constructor
  · intro inside
    have comma := inside .comma
    have pipe := inside .pipe
    simp_all [Delimiter.closing]
  · intro free delimiter
    cases delimiter <;> simp_all [Delimiter.closing]

/-- Whether a text can stand outside a group can be computed. -/
instance (text : String) : Decidable (PlainText text) :=
  decidable_of_iff (text.toList.all fun char => decide (char ∉ [',', '|', ']', ')'])) <| by
    simp only [List.all_eq_true, decide_eq_true_eq, plainText_iff]

/-- Whether a text can stand inside a group can be computed. -/
instance (text : String) : Decidable (GroupText text) :=
  decidable_of_iff (text.toList.all fun char => decide (char ∉ [']', ')'])) <| by
    simp only [List.all_eq_true, decide_eq_true_eq, groupText_iff]

/-- What a literal run outside a group stands for can stand outside a group. -/
theorem Literal.plainText (run : PlainRun chars text.toList) : PlainText text :=
  plainText_iff.2 (run.notMem_of_mem (by simp [structural]))

/-- Text without structural characters is written as it is. The condition is computed, so that it is
evaluated on the tokens. -/
theorem Literal.of_ordinary {chars : List Char}
    (ordinary : (chars.all fun char => decide (char ∉ structural)) = true) :
    Literal barred chars chars := by
  induction chars with
  | nil => exact .nil
  | cons char chars induction =>
      rw [List.all_cons, Bool.and_eq_true, decide_eq_true_eq] at ordinary
      obtain ⟨first, others⟩ := ordinary
      exact .plain first (induction others)

/-- An escaped text stands for the text if the escaped characters are not barred and the others are
not structural. -/
theorem Literal.escapeWhere {special : Char → Bool} {chars : List Char}
    (free : ∀ char ∈ chars, if special char then char ∉ barred else char ∉ structural) :
    Literal barred (escapeWhere special chars) chars := by
  induction chars with
  | nil => exact .nil
  | cons char chars induction =>
      have tail := induction fun other member => free other (List.mem_cons_of_mem _ member)
      have head := free char List.mem_cons_self
      rw [escapeWhere_cons]
      by_cases marked : special char
      · rw [if_pos marked] at head ⊢
        exact .escaped head tail
      · rw [if_neg marked] at head ⊢
        exact .plain head tail

/-- An escaped text outside a group. -/
theorem PlainText.plainRun (plain : PlainText text) : PlainRun (escape text) text.toList := by
  refine .escapeWhere fun char member => ?_
  split
  · exact plainText_iff.1 plain char member
  · next literal =>
      refine Symbol.ofChar_eq_plain_iff.1 ?_
      have neither := plain char member
      cases symbol : Symbol.ofChar char <;> simp_all [needsEscape]

/-- An escaped text inside a group. -/
theorem GroupText.groupRun (inside : GroupText text) :
    GroupRun (escapeInGroup text) text.toList := by
  refine .escapeWhere fun char member => ?_
  split
  · exact groupText_iff.1 inside char member
  · next literal =>
      refine Symbol.ofChar_eq_plain_iff.1 ?_
      have open_or_literal := inside char member
      cases symbol : Symbol.ofChar char <;> simp_all [needsEscapeInGroup]

/-! ## Texts of clauses -/

/-- The text of a header: its parts in order, each with its colon. -/
def headerChars (header : Header) : List Char :=
  header.type.token.toList ++ ':' :: escape header.field ++ ':' :: header.operator.token.toList
    ++ [':']

/-- The texts of a clause. A group may be opened by either bracket. -/
inductive Spelling : RawClause → List Char → Prop
  /-- A single value. -/
  | one (header : Header) (text : String) :
      Spelling ⟨header, .one text⟩ (headerChars header ++ escape text)
  /-- A group of values. -/
  | group (header : Header) (texts : List String) (delimiter : Delimiter) {bracket : Char}
      (opening : bracket = '[' ∨ bracket = '(') :
      Spelling ⟨header, .group texts delimiter⟩
        (headerChars header ++ bracket
          :: ([delimiter.char].intercalate (texts.map escapeInGroup) ++ [delimiter.closing]))

/-- The texts of a list of clauses. At least one separator stands between two clauses. -/
inductive Spellings : List RawClause → List Char → Prop
  /-- No clause has the empty text. -/
  | nil : Spellings [] []
  /-- The text of one clause. -/
  | single {clause : RawClause} {chars : List Char} (spelling : Spelling clause chars) :
      Spellings [clause] chars
  /-- The text of a clause before further clauses. -/
  | cons {clause next : RawClause} {clauses : List RawClause} {chars gap others : List Char}
      (spelling : Spelling clause chars) (separators : Separators gap) (apart : gap ≠ [])
      (rest : Spellings (next :: clauses) others) :
      Spellings (clause :: next :: clauses) (chars ++ gap ++ others)

/-- The canonical text of a clause is one of its texts. -/
theorem spelling_clauseChars (clause : RawClause) : Spelling clause (clauseChars clause) := by
  obtain ⟨header, value⟩ := clause
  cases value with
  | one text => simpa [clauseChars, headerChars, valueChars] using Spelling.one header text
  | group texts delimiter =>
      have opening : delimiter.opening = '[' ∨ delimiter.opening = '(' := by
        cases delimiter <;> simp [Delimiter.opening]
      simpa [clauseChars, headerChars, valueChars] using
        Spelling.group header texts delimiter opening

/-- The canonical text of a list of clauses is one of its texts. -/
theorem spellings_write (clauses : List RawClause) :
    Spellings clauses (write clauses).toList := by
  rw [write, String.toList_ofList]
  induction clauses with
  | nil => exact .nil
  | cons clause clauses induction =>
      cases clauses with
      | nil => simpa using Spellings.single (spelling_clauseChars clause)
      | cons next clauses =>
          rw [List.map_cons, List.map_cons, List.intercalate_cons_cons, ← List.map_cons]
          exact .cons (spelling_clauseChars clause) (separators_singleton .comma)
            (List.cons_ne_nil _ _) induction

/-! ## Texts of clauses are derived -/

/-- Type tokens are written as they are. -/
theorem typeToken_run (type : FieldType) : PlainRun type.token.toList type.token.toList := by
  refine .of_ordinary ?_
  cases type <;> rfl

/-- Operator tokens are written as they are. -/
theorem operatorToken_run (operator : Operator) :
    PlainRun operator.token.toList operator.token.toList := by
  refine .of_ordinary ?_
  cases operator <;> rfl

/-- The text of a header settles it. -/
theorem heading_headerChars {header : Header} (nonempty : header.field ≠ "")
    (allowed : whitelist.allows header.field = true) (plain : PlainText header.field) :
    Heading whitelist (headerChars header) (.headed header) := by
  have typed : Heading whitelist (header.type.token.toList ++ [':']) (.typed header.type) :=
    .typed (typeToken_run header.type) separators_nil
  have named := Heading.named typed plain.plainRun nonempty allowed separators_nil
  have headed := Heading.headed named (operatorToken_run header.operator) separators_nil
  simpa [headerChars] using headed

/-- The texts of a group, joined by its delimiter, are its elements. -/
theorem segments_intercalate (delimiter : Delimiter) (first : String) (texts : List String)
    (inside : ∀ text ∈ first :: texts, GroupText text) :
    ∃ segments,
      Segments ([delimiter.char].intercalate ((first :: texts).map escapeInGroup)) first.toList
        segments
      ∧ elements delimiter first.toList segments = (first :: texts).map String.toList := by
  induction texts generalizing first with
  | nil =>
      refine ⟨[], ?_, rfl⟩
      simpa using Segments.last (inside first List.mem_cons_self).groupRun
  | cons second texts induction =>
      obtain ⟨segments, rest, values⟩ :=
        induction second fun text member => inside text (List.mem_cons_of_mem _ member)
      refine ⟨(delimiter, second.toList) :: segments, ?_, ?_⟩
      · rw [List.map_cons, List.map_cons, List.intercalate_cons_cons, ← List.map_cons,
          List.append_assoc, List.singleton_append]
        exact .more (inside first List.mem_cons_self).groupRun rest
      · rw [elements, if_pos rfl, values]
        rfl

/-- The text of a writable group is an item. -/
theorem item_group {header : Header} {texts : List String} {delimiter : Delimiter} {bracket : Char}
    (writable : Writable whitelist ⟨header, .group texts delimiter⟩)
    (opening : bracket = '[' ∨ bracket = '(') :
    Item whitelist
      (headerChars header ++ bracket
        :: ([delimiter.char].intercalate (texts.map escapeInGroup) ++ [delimiter.closing]))
      (some ⟨header, .group texts delimiter⟩) := by
  obtain ⟨nonempty, inside⟩ := writable.value
  obtain ⟨first, texts, rfl⟩ := List.exists_cons_of_ne_nil nonempty
  obtain ⟨segments, inner, values⟩ := segments_intercalate delimiter first texts inside
  have heading := heading_headerChars writable.field_ne writable.allowed writable.field_plain
  have none : PlainRun [] "".toList := .nil
  have item := Item.group heading none opening inner delimiter
  -- the elements are the texts as lists of characters
  have texts_eq : ((first :: texts).map String.toList).map String.ofList = first :: texts := by
    rw [List.map_map]
    exact List.map_id'' (fun _ => String.ofList_toList) _
  rw [values, texts_eq] at item
  simpa using item

/-- Separators between clauses stand for nothing. -/
theorem Query.separators (gap : Separators chars) (query : Query whitelist rest more) :
    Query whitelist (chars ++ rest) more := by
  induction chars with
  | nil => exact query
  | cons char chars induction =>
      obtain ⟨delimiter, rfl⟩ := gap.head
      have none : PlainRun [] "".toList := .nil
      exact .item (.stray none delimiter) (induction gap.tail)

/-- The text of a writable clause is derived by itself. -/
theorem Spelling.query (spelling : Spelling clause chars) (writable : Writable whitelist clause) :
    Query whitelist chars [clause] := by
  cases spelling with
  | one header text =>
      obtain ⟨nonempty, plain⟩ := writable.value
      have heading := heading_headerChars writable.field_ne writable.allowed writable.field_plain
      exact .tail (.scalar heading plain.plainRun nonempty)
  | group header texts delimiter opening =>
      have none : PlainRun [] "".toList := .nil
      simpa using Query.item (item_group writable opening) (.tail (.stray none))

/-- The text of a writable clause is derived before separators and further clauses. -/
theorem Spelling.query_append (spelling : Spelling clause chars)
    (writable : Writable whitelist clause) (separators : Separators gap) (apart : gap ≠ [])
    (query : Query whitelist rest more) :
    Query whitelist (chars ++ gap ++ rest) (clause :: more) := by
  cases spelling with
  | one header text =>
      obtain ⟨nonempty, plain⟩ := writable.value
      have heading := heading_headerChars writable.field_ne writable.allowed writable.field_plain
      -- the first separator ends the value, the others stand between the clauses
      obtain ⟨char, gap, rfl⟩ := List.exists_cons_of_ne_nil apart
      obtain ⟨delimiter, rfl⟩ := separators.head
      have item := Item.scalar heading plain.plainRun nonempty delimiter
      simpa using Query.item item (query.separators separators.tail)
  | group header texts delimiter opening =>
      -- the closing bracket ends the value, and all separators stand between the clauses
      rw [List.append_assoc]
      exact .item (item_group writable opening) (query.separators separators)

/-- The texts of writable clauses are derived. -/
theorem Spellings.query (spellings : Spellings clauses chars)
    (writable : ∀ clause ∈ clauses, Writable whitelist clause) :
    Query whitelist chars clauses := by
  induction spellings with
  | nil =>
      have none : PlainRun [] "".toList := .nil
      exact .tail (.stray none)
  | single spelling => exact spelling.query (writable _ List.mem_cons_self)
  | cons spelling separators apart rest induction =>
      refine spelling.query_append (writable _ List.mem_cons_self) separators apart ?_
      exact induction fun clause member => writable clause (List.mem_cons_of_mem _ member)

/-- **Reading undoes writing.** Any text of writable clauses is read back as these clauses. -/
theorem readRaw_of_spellings (whitelist : Whitelist) (clauses : List RawClause)
    (writable : ∀ clause ∈ clauses, Writable whitelist clause) (text : String)
    (spellings : Spellings clauses text.toList) :
    readRaw whitelist text = .ok clauses :=
  readRaw_eq_ok_iff.2 (spellings.query writable).itemsFrom_eq

/-- A value with escapes and a group of two texts, of which one is empty, with two separators
between the clauses. -/
theorem readRaw_of_spellings_value_and_group :
    (∀ clause ∈ [(⟨⟨.string, "a:b", .equal⟩, .one "x\\[y"⟩ : RawClause),
        ⟨⟨.string, "c", .oneOf⟩, .group ["p|q", ""] .comma⟩],
      Writable (.listed ["a:b", "c"]) clause)
    ∧ Spellings [⟨⟨.string, "a:b", .equal⟩, .one "x\\[y"⟩,
        ⟨⟨.string, "c", .oneOf⟩, .group ["p|q", ""] .comma⟩]
        "s:a\\:b:=:x\\\\\\[y,|s:c:<>:(p\\|q,]".toList
    ∧ readRaw (.listed ["a:b", "c"]) "s:a\\:b:=:x\\\\\\[y,|s:c:<>:(p\\|q,]"
      = .ok [⟨⟨.string, "a:b", .equal⟩, .one "x\\[y"⟩,
        ⟨⟨.string, "c", .oneOf⟩, .group ["p|q", ""] .comma⟩] := by
  have writable : ∀ clause ∈ [(⟨⟨.string, "a:b", .equal⟩, .one "x\\[y"⟩ : RawClause),
      ⟨⟨.string, "c", .oneOf⟩, .group ["p|q", ""] .comma⟩],
      Writable (.listed ["a:b", "c"]) clause := by
    intro clause member
    simp only [List.mem_cons, List.not_mem_nil, or_false] at member
    rcases member with rfl | rfl
    · exact ⟨by decide, by decide, by decide, by decide, by decide⟩
    · refine ⟨by decide, by decide, by decide, by decide, fun text member => ?_⟩
      simp only [List.mem_cons, List.not_mem_nil, or_false] at member
      rcases member with rfl | rfl <;> decide
  have spellings : Spellings [⟨⟨.string, "a:b", .equal⟩, .one "x\\[y"⟩,
      ⟨⟨.string, "c", .oneOf⟩, .group ["p|q", ""] .comma⟩]
      "s:a\\:b:=:x\\\\\\[y,|s:c:<>:(p\\|q,]".toList :=
    Spellings.cons (.one ⟨.string, "a:b", .equal⟩ "x\\[y")
      ((separators_singleton .comma).append (separators_singleton .pipe)) (List.cons_ne_nil _ _)
      (.single (.group ⟨.string, "c", .oneOf⟩ ["p|q", ""] .comma (.inr rfl)))
  exact ⟨writable, spellings, readRaw_of_spellings _ _ writable _ spellings⟩

/-! ## What is found can be written -/

/-- The field of a settled header is admitted and can be written. -/
theorem Heading.field_writable {header : Header}
    (heading : Heading whitelist chars (.headed header)) :
    header.field ≠ "" ∧ whitelist.allows header.field = true ∧ PlainText header.field := by
  cases heading with
  | headed before token separators =>
      cases before with
      | named before name nonempty allowed separators =>
          exact ⟨nonempty, allowed, name.plainText⟩

/-- A group has at least one element. -/
theorem elements_ne_nil (delimiter : Delimiter) (text : List Char)
    (segments : List (Delimiter × List Char)) : elements delimiter text segments ≠ [] := by
  rw [← split_units]
  exact GroupUnit.split_ne_nil delimiter _

/-- The elements of a group have no closing brackets. -/
theorem Segments.notMem_elements {value : List Char} {segments : List (Delimiter × List Char)}
    (inside : Segments chars value segments) (delimiter : Delimiter) :
    ∀ element ∈ elements delimiter value segments, ∀ char ∈ element, char ∉ [']', ')'] := by
  induction inside with
  | last run =>
      intro element member
      obtain rfl := List.mem_singleton.1 member
      exact run.notMem_of_mem (by simp [structural])
  | @more chars text others next segments separator run rest induction =>
      have first := run.notMem_of_mem (by simp [structural])
      by_cases cut : separator = delimiter
      · intro element member
        rw [elements, if_pos cut] at member
        rcases List.mem_cons.1 member with rfl | member
        · exact first
        · exact induction element member
      · -- the other separator is a part of the element that the first text begins
        obtain ⟨head, tail, values⟩ :=
          List.exists_cons_of_ne_nil (elements_ne_nil delimiter next segments)
        rw [elements, if_neg cut, List.append_cons, elements_append, values]
        rw [values] at induction
        intro element member
        rcases List.mem_cons.1 member with rfl | member
        · intro char member
          rcases List.mem_append.1 member with member | member
          · rcases List.mem_append.1 member with member | member
            · exact first char member
            · obtain rfl := List.mem_singleton.1 member
              cases separator <;> decide
          · exact induction head List.mem_cons_self char member
        · exact induction element (List.mem_cons_of_mem _ member)

/-- The clause of an item can be written. -/
theorem Item.writable (item : Item whitelist chars (some clause)) : Writable whitelist clause := by
  cases item with
  | scalar heading run nonempty separator =>
      obtain ⟨field_ne, allowed, field_plain⟩ := heading.field_writable
      exact ⟨field_ne, allowed, field_plain, nonempty, run.plainText⟩
  | group heading run opening inside delimiter =>
      obtain ⟨field_ne, allowed, field_plain⟩ := heading.field_writable
      refine ⟨field_ne, allowed, field_plain, ?_, ?_⟩
      · simpa using elements_ne_nil delimiter _ _
      · intro text member
        obtain ⟨element, isElement, rfl⟩ := List.mem_map.1 member
        refine groupText_iff.2 ?_
        rw [String.toList_ofList]
        exact inside.notMem_elements delimiter element isElement

/-- The clause of a tail can be written. -/
theorem Tail.writable (tail : Tail whitelist chars (some clause)) : Writable whitelist clause := by
  cases tail with
  | scalar heading run nonempty =>
      obtain ⟨field_ne, allowed, field_plain⟩ := heading.field_writable
      exact ⟨field_ne, allowed, field_plain, nonempty, run.plainText⟩

/-- The clauses found on the way to a state can be written. -/
theorem Reached.writable {state : State} (reached : Reached whitelist chars clauses state) :
    ∀ clause ∈ clauses, Writable whitelist clause := by
  induction reached with
  | start => exact fun clause none => absurd none List.not_mem_nil
  | read before rule induction => exact induction
  | complete before rule induction =>
      intro clause member
      rcases List.mem_append.1 member with member | member
      · exact induction clause member
      · obtain rfl := List.mem_singleton.1 member
        obtain ⟨pending, unfinished, -⟩ := before.exists_pending
        exact (unfinished.complete rule).writable

/-- The clauses found in a text can be written, also if the text is refused later on. -/
theorem writable_of_mem_itemsFrom (found : .ok clause ∈ itemsFrom whitelist 0 .initial chars) :
    Writable whitelist clause := by
  rcases reached_or_refused whitelist chars with ⟨seen, state, reached⟩
    | ⟨front, char, back, seen, state, fault, rfl, reached, refused⟩
  · rw [reached.itemsFrom_eq, List.mem_append] at found
    rcases found with found | found
    · exact reached.writable clause (by simpa using found)
    · -- the end of the text completes the last clause
      have ending : state.finish chars.length = (some clause).map .ok := by simpa using found
      obtain ⟨pending, unfinished, -⟩ := reached.exists_pending
      exact (unfinished.finish ending).writable
  · rw [reached.itemsFrom_eq_of_refused refused] at found
    exact reached.writable clause (by simpa using found)

/-- **Found clauses have a normal form.** Every clause found in any text can be written, and what is
found in an accepted text is read back from the canonical text of the clauses. -/
theorem writable_items_and_readRaw_write (whitelist : Whitelist) (text : String) :
    (∀ clause, .ok clause ∈ items whitelist text → Writable whitelist clause)
      ∧ ∀ clauses, readRaw whitelist text = .ok clauses
        → readRaw whitelist (write clauses) = readRaw whitelist text := by
  constructor
  · exact fun clause found => writable_of_mem_itemsFrom found
  · intro clauses accepted
    have writable : ∀ clause ∈ clauses, Writable whitelist clause := by
      intro clause member
      have found : .ok clause ∈ itemsFrom whitelist 0 .initial text.toList := by
        rw [readRaw_eq_ok_iff.1 accepted]
        exact List.mem_map_of_mem member
      exact writable_of_mem_itemsFrom found
    rw [accepted]
    exact readRaw_eq_ok_iff.2 ((spellings_write clauses).query writable).itemsFrom_eq

/-- A refused text with a clause before its fault, and an accepted text that is not canonical. -/
theorem writable_items_and_readRaw_write_examples :
    items .unrestricted "s:a:=:x,z:b:=:y"
        = [.ok ⟨⟨.string, "a", .equal⟩, .one "x"⟩, .error (.typeUnknown "z")]
      ∧ Writable .unrestricted ⟨⟨.string, "a", .equal⟩, .one "x"⟩
      ∧ readRaw .unrestricted (write [⟨⟨.string, "a", .equal⟩, .group ["p,q", ""] .pipe⟩])
        = readRaw .unrestricted "|s:\\a:=:junk[p,q|)," := by
  have read : items .unrestricted "s:a:=:x,z:b:=:y"
      = [.ok ⟨⟨.string, "a", .equal⟩, .one "x"⟩, .error (.typeUnknown "z")] := rfl
  refine ⟨read, ?_, ?_⟩
  · refine (writable_items_and_readRaw_write .unrestricted "s:a:=:x,z:b:=:y").1 _ ?_
    rw [read]
    exact List.mem_cons_self
  · exact (writable_items_and_readRaw_write .unrestricted "|s:\\a:=:junk[p,q|),").2 _ rfl

end RecordFilter.QueryText
