import RecordFilter.Proofs.QueryText.RoundTrip
import RecordFilter.Proofs.QueryText.Unescaping

/-! # The values of a group

A group is kept as units until its closing bracket chooses the delimiter, and then it is cut into
values. What that does to the characters between the brackets: they are cut at the unescaped
delimiters, and nothing is lost, repeated or added.

* `Uncut`, `CutAt`: characters without an unescaped delimiter, and values that are characters cut at
  the unescaped delimiters.
* `cutAt_of_uncut`: what follows for the number of the values and for their text.
* `Segments.cutAt`: the values of a group.
* `Reached.insideSegments_iff`: the texts that can stand inside a group.
* `group_values_exact`: all of this together, for both closing brackets. -/

namespace RecordFilter.QueryText

variable {whitelist : Whitelist} {state : State} {header : Header} {lost : String}
  {bracket char : Char} {before body first : List Char} {rest stretches : List (List Char)}
  {clauses seen : List RawClause} {delimiter : Delimiter} {text chars others : List Char}
  {segments : List (Delimiter × List Char)}

/-! ## Cutting and joining -/

/-- Characters among which the given one is nowhere unescaped, and that escape nothing after
them. -/
structure Uncut (char : Char) (chars : List Char) : Prop where
  /-- They escape nothing after them. -/
  not_endsEscaped : ¬ EndsEscaped chars
  /-- The character is nowhere unescaped. -/
  count_eq : unescapedCount char chars = 0

/-- Without a cut in two parts there is none in both together. -/
theorem Uncut.append (left : Uncut char chars) (right : Uncut char others) :
    Uncut char (chars ++ others) := by
  refine ⟨mt (endsEscaped_append left.not_endsEscaped).1 right.not_endsEscaped, ?_⟩
  rw [unescapedCount_append left.not_endsEscaped, left.count_eq, right.count_eq]

/-- Any other character is no cut. -/
theorem uncut_singleton {other : Char} (different : other ≠ char) (plain : other ≠ '\\') :
    Uncut char [other] :=
  ⟨not_endsEscaped_singleton plain, by rw [unescapedCount_singleton, if_neg different]⟩

/-- A literal text has no cut. -/
theorem Literal.uncut {barred : List Char} (run : Literal barred chars text)
    (delimiter : Delimiter) : Uncut delimiter.char chars := by
  refine ⟨run.not_endsEscaped, run.unescapedCount_eq ?_ (separator_ne_backslash delimiter)⟩
  cases delimiter <;> decide

/-- Where uncut stretches are joined the character is unescaped, and nowhere else. -/
theorem unescapedCount_intercalate (plain : char ≠ '\\')
    (uncut : ∀ stretch ∈ first :: rest, Uncut char stretch) :
    unescapedCount char ([char].intercalate (first :: rest)) = rest.length := by
  induction rest generalizing first with
  | nil =>
      rw [List.intercalate_singleton]
      exact (uncut first List.mem_cons_self).count_eq
  | cons second rest induction =>
      obtain ⟨head, tail⟩ := List.forall_mem_cons.1 uncut
      rw [List.intercalate_cons_cons, List.append_assoc,
        unescapedCount_append head.not_endsEscaped, head.count_eq,
        unescapedCount_append (not_endsEscaped_singleton plain), unescapedCount_singleton,
        if_pos rfl, induction tail, List.length_cons]
      omega

/-- The escapes of joined stretches are those of the stretches. -/
theorem withoutEscapes_intercalate (plain : char ≠ '\\')
    (each : ∀ stretch ∈ stretches, ¬ EndsEscaped stretch) :
    withoutEscapes ([char].intercalate stretches)
      = [char].intercalate (stretches.map withoutEscapes) := by
  induction stretches with
  | nil => rfl
  | cons first rest induction =>
      obtain ⟨head, tail⟩ := List.forall_mem_cons.1 each
      cases rest with
      | nil => simp
      | cons second rest =>
          rw [List.intercalate_cons_cons, List.append_assoc, withoutEscapes_append head,
            List.singleton_append, withoutEscapes_cons plain, induction tail]
          simp [List.intercalate_cons_cons]

/-- Values that are some characters cut at the unescaped delimiters. -/
structure CutAt (delimiter : Delimiter) (chars : List Char) (values : List String) : Prop where
  /-- There is one more value than there are unescaped delimiters. -/
  length_eq : values.length = unescapedCount delimiter.char chars + 1
  /-- Joined by the delimiter the values are the characters without the backslashes that escape. -/
  joined : (String.singleton delimiter.char).intercalate values
    = String.ofList (withoutEscapes chars)
  /-- Each value is a stretch between two cuts without the backslashes that escape, in order. -/
  stretches : ∃ stretches : List (List Char), [delimiter.char].intercalate stretches = chars
    ∧ (∀ stretch ∈ stretches, Uncut delimiter.char stretch)
    ∧ values = stretches.map fun stretch => String.ofList (withoutEscapes stretch)

/-- Uncut stretches are what their characters are cut into. -/
theorem cutAt_of_uncut (nonempty : stretches ≠ [])
    (uncut : ∀ stretch ∈ stretches, Uncut delimiter.char stretch) :
    CutAt delimiter ([delimiter.char].intercalate stretches)
      (stretches.map fun stretch => String.ofList (withoutEscapes stretch)) := by
  have plain := separator_ne_backslash delimiter
  refine ⟨?_, ?_, stretches, rfl, uncut, rfl⟩
  · obtain ⟨first, rest, rfl⟩ := List.exists_cons_of_ne_nil nonempty
    rw [List.length_map, List.length_cons, unescapedCount_intercalate plain uncut]
  · rw [← String.toList_inj, String.toList_intercalate, String.toList_singleton, List.map_map,
      String.toList_ofList,
      withoutEscapes_intercalate plain fun stretch member => (uncut stretch member).not_endsEscaped]
    congr 2
    funext stretch
    exact String.toList_ofList

/-- A first stretch that is longer at its start makes the joined characters longer at their
start. -/
theorem intercalate_append_head (front : List Char) :
    [char].intercalate ((front ++ first) :: rest)
      = front ++ [char].intercalate (first :: rest) := by
  cases rest with
  | nil => simp
  | cons second rest => simp [List.intercalate_cons_cons]

/-- The elements of a group are the stretches between the unescaped delimiters, without the
backslashes that escape. -/
theorem Segments.exists_stretches (derived : Segments body text segments)
    (delimiter : Delimiter) :
    ∃ stretches, [delimiter.char].intercalate stretches = body
      ∧ (∀ stretch ∈ stretches, Uncut delimiter.char stretch)
      ∧ elements delimiter text segments = stretches.map withoutEscapes := by
  induction derived with
  | last run =>
      have uncut := run.uncut delimiter
      refine ⟨[_], List.intercalate_singleton, List.forall_mem_singleton.2 uncut, ?_⟩
      rw [elements, List.map_singleton, run.withoutEscapes_eq]
  | @more chars text others next segments separator run further induction =>
      obtain ⟨stretches, rfl, uncut, values⟩ := induction
      -- the first stretch is there, as there is a first element
      obtain ⟨first, rest, rfl⟩ : ∃ first rest, stretches = first :: rest := by
        refine List.exists_cons_of_ne_nil ?_
        rintro rfl
        exact elements_ne_nil delimiter next segments values
      by_cases cut : separator = delimiter
      · subst cut
        refine ⟨chars :: first :: rest, List.intercalate_cons_cons.trans (by simp),
          List.forall_mem_cons.2 ⟨run.uncut separator, uncut⟩, ?_⟩
        rw [elements, if_pos rfl, values, ← run.withoutEscapes_eq]
        rfl
      · -- the other separator is a part of the stretch that the literal text begins
        obtain ⟨head, tail⟩ := List.forall_mem_cons.1 uncut
        have other : separator.char ≠ delimiter.char := by
          cases separator <;> cases delimiter <;> first | exact absurd rfl cut | decide
        have plain := separator_ne_backslash separator
        have longer := (run.uncut delimiter).append (uncut_singleton other plain)
        refine ⟨(chars ++ [separator.char] ++ first) :: rest, ?_,
          List.forall_mem_cons.2 ⟨longer.append head, tail⟩, ?_⟩
        · rw [intercalate_append_head, List.append_assoc, List.singleton_append]
        · rw [elements, if_neg cut, List.append_cons, elements_append, values, List.map_cons,
            List.map_cons, List.modifyHead_cons, withoutEscapes_append longer.not_endsEscaped,
            withoutEscapes_append run.not_endsEscaped, run.withoutEscapes_eq,
            withoutEscapes_cons plain]
          rfl

/-- A group is cut at its unescaped delimiters. -/
theorem Segments.cutAt (derived : Segments body text segments) (delimiter : Delimiter) :
    CutAt delimiter body ((elements delimiter text segments).map String.ofList) := by
  obtain ⟨stretches, rfl, uncut, values⟩ := derived.exists_stretches delimiter
  have nonempty : stretches ≠ [] := by
    rintro rfl
    exact elements_ne_nil delimiter text segments values
  rw [values, List.map_map]
  exact cutAt_of_uncut nonempty uncut

/-! ## Texts inside a group -/

/-- What is read behind an opening bracket, as long as its group is open, is the inside of a group
with at most one backslash after it. -/
theorem Reached.exists_segments
    (headed : Reached whitelist before clauses ⟨.outside (.headed header) lost, false⟩)
    (opening : bracket = '[' ∨ bracket = '(')
    (reached : Reached whitelist (before ++ bracket :: body) seen state)
    (inside : state.scope.opened? = some before.length) :
    seen = clauses ∧ ∃ front text segments, Segments front text segments
      ∧ state.scope = .group header before.length (units text segments).toArray
      ∧ body = front ++ if state.escaped then ['\\'] else [] := by
  induction body using List.reverseRecOn generalizing seen state with
  | nil =>
      obtain ⟨rfl, rfl⟩ := reached.unique (headed.read (.openGroup opening))
      exact ⟨rfl, [], [], [], .last .nil, rfl, rfl⟩
  | append_singleton body char induction =>
      rw [← List.cons_append, ← List.append_assoc] at reached
      rcases reached_concat_iff.1 reached with ⟨last, earlier, rule⟩
        | ⟨_, _, _, _, _, _, rfl⟩
      · -- the bracket was read before the last character, so the group was open there
        have wasOpen : last.scope.opened? = some before.length := by
          rcases (rule.opened?_of_reading before.length).1.1 inside with same | ⟨place, -⟩
          · exact same
          · simp at place
        obtain ⟨rfl, front, text, segments, derived, scope, rfl⟩ := induction earlier wasOpen
        refine ⟨rfl, ?_⟩
        cases rule with
        | escape => exact ⟨front, text, segments, derived, scope, by simp⟩
        | @literal here _ free =>
            obtain rfl : here = _ := scope
            obtain ⟨text', segments', longer, same⟩ := derived.append_literal (.pair free)
            exact ⟨_, text', segments', longer, by simp [Scope.push, same], by simp⟩
        | @plain here _ ordinary =>
            obtain rfl : here = _ := scope
            obtain ⟨text', segments', longer, same⟩ := derived.append_literal (.singleton ordinary)
            exact ⟨_, text', segments', longer, by simp [Scope.push, same], by simp⟩
        | settle settled => cases scope
        | skip delimiter => cases scope
        | dropStray delimiter nonempty => cases scope
        | dropTyped delimiter nonempty => cases scope
        | openGroup bracket => cases scope
        | separate delimiter =>
            cases scope
            obtain ⟨segments', longer, same⟩ := derived.append_separator delimiter
            exact ⟨_, text, segments', longer, by simp [same], by simp⟩
      · cases inside

/-- The inside of a group is read into its units. -/
theorem Reached.openSegments {text : List Char} {segments : List (Delimiter × List Char)}
    (headed : Reached whitelist before clauses ⟨.outside (.headed header) lost, false⟩)
    (opening : bracket = '[' ∨ bracket = '(') (derived : Segments body text segments) :
    Reached whitelist (before ++ bracket :: body) clauses
      ⟨.group header before.length (units text segments).toArray, false⟩ := by
  have begun := headed.read (.openGroup opening)
  rw [← List.singleton_append, ← List.append_assoc]
  exact begun.segments derived

/-- Reading is between two units of a group exactly if the inside of a group was read since the
opening bracket. -/
theorem Reached.insideSegments_iff
    (headed : Reached whitelist before clauses ⟨.outside (.headed header) lost, false⟩)
    (opening : bracket = '[' ∨ bracket = '(') :
    (∃ seen state, Reached whitelist (before ++ bracket :: body) seen state
        ∧ state.escaped = false ∧ state.scope.opened? = some before.length)
      ↔ ∃ text segments, Segments body text segments := by
  constructor
  · rintro ⟨seen, state, reached, unescaped, inside⟩
    obtain ⟨-, front, text, segments, derived, -, rfl⟩ :=
      headed.exists_segments opening reached inside
    rw [unescaped, if_neg Bool.false_ne_true, List.append_nil]
    exact ⟨text, segments, derived⟩
  · rintro ⟨text, segments, derived⟩
    exact ⟨clauses, _, headed.openSegments opening derived, rfl, rfl⟩

/-- **The values of a group are its inside, cut at the unescaped delimiters.** Behind a settled
header and an opening bracket, the texts that reading accepts inside the group are the literal texts
with separators between them. Whichever bracket closes such a text, a clause with a group of the
delimiter that the bracket chooses is complete. There is one more value than there are unescaped
delimiters. Joined by the delimiter the values are the text without the backslashes that escape, and
each value is what stands between two unescaped delimiters, so that escaped delimiters and
separators of the other kind are a part of it. In particular both brackets give values that join to
the same text. -/
theorem group_values_exact (whitelist : Whitelist) (before body : List Char)
    (clauses : List RawClause) (header : Header) (lost : String) (bracket : Char)
    (headed : Reached whitelist before clauses ⟨.outside (.headed header) lost, false⟩)
    (opening : bracket = '[' ∨ bracket = '(') :
    ((∃ seen state, Reached whitelist (before ++ bracket :: body) seen state
        ∧ state.escaped = false ∧ state.scope.opened? = some before.length)
      ↔ ∃ text segments, Segments body text segments)
    ∧ ((∃ text segments, Segments body text segments) →
      ∃ values : Delimiter → List String,
        (∀ delimiter, CutAt delimiter body (values delimiter)
          ∧ ∀ rest, itemsFrom whitelist 0 .initial
              (before ++ bracket :: body ++ delimiter.closing :: rest)
            = clauses.map .ok ++ .ok ⟨header, .group (values delimiter) delimiter⟩
              :: itemsFrom whitelist (before.length + body.length + 2) .initial rest)
        ∧ ",".intercalate (values .comma) = "|".intercalate (values .pipe)) := by
  refine ⟨headed.insideSegments_iff opening, ?_⟩
  rintro ⟨text, segments, derived⟩
  refine ⟨fun delimiter => (elements delimiter text segments).map String.ofList, ?_, ?_⟩
  · intro delimiter
    refine ⟨derived.cutAt delimiter, fun rest => ?_⟩
    have inside := headed.openSegments opening derived
    have size : (before ++ bracket :: body).length + 1 = before.length + body.length + 2 := by
      rw [List.length_append, List.length_cons]
      omega
    rw [inside.itemsFrom_append, itemsFrom_complete (.closeGroup delimiter), size,
      List.toList_toArray, split_units]
  · -- both lists join to the text without the backslashes that escape
    exact (derived.cutAt .comma).joined.trans (derived.cutAt .pipe).joined.symm

/-- An escaped comma, a bar and a comma at the end, before either closing bracket. -/
theorem group_values_exact_escaped_comma :
    Reached .unrestricted "s:a:=:".toList []
        ⟨.outside (.headed ⟨.string, "a", .equal⟩) "", false⟩
      ∧ (∃ text segments, Segments "x\\,y|z,".toList text segments)
      ∧ items .unrestricted "s:a:=:[x\\,y|z,]"
        = [.ok ⟨⟨.string, "a", .equal⟩, .group ["x,y|z", ""] .comma⟩]
      ∧ items .unrestricted "s:a:=:[x\\,y|z,)"
        = [.ok ⟨⟨.string, "a", .equal⟩, .group ["x,y", "z,"] .pipe⟩]
      ∧ ",".intercalate ["x,y|z", ""] = "|".intercalate ["x,y", "z,"] := by
  have headed : Reached .unrestricted "s:a:=:".toList []
      ⟨.outside (.headed ⟨.string, "a", .equal⟩) "", false⟩ := by
    have plain : PlainText "a" := by simp [PlainText, Symbol.ofChar]
    have heading : Heading .unrestricted (headerChars ⟨.string, "a", .equal⟩)
        (.headed ⟨.string, "a", .equal⟩) := heading_headerChars (by simp) rfl plain
    exact Reached.start.heading heading
  have first : GroupRun "x\\,y".toList "x,y".toList :=
    .plain (by decide) (.escaped (by decide) (.plain (by decide) .nil))
  have second : GroupRun ['z'] ['z'] := .singleton (by decide)
  have last : Segments (['z'] ++ Delimiter.comma.char :: []) ['z'] [(.comma, [])] :=
    .more second (.last .nil)
  have derived : Segments ("x\\,y".toList ++ Delimiter.pipe.char :: "z,".toList) "x,y".toList
      [(.pipe, ['z']), (.comma, [])] := .more first last
  obtain ⟨values, each, same⟩ := (group_values_exact .unrestricted "s:a:=:".toList
    "x\\,y|z,".toList [] ⟨.string, "a", .equal⟩ "" '[' headed (.inl rfl)).2 ⟨_, _, derived⟩
  have square : items .unrestricted "s:a:=:[x\\,y|z,]"
      = [.ok ⟨⟨.string, "a", .equal⟩, .group ["x,y|z", ""] .comma⟩] := rfl
  have round : items .unrestricted "s:a:=:[x\\,y|z,)"
      = [.ok ⟨⟨.string, "a", .equal⟩, .group ["x,y", "z,"] .pipe⟩] := rfl
  have commas : values .comma = ["x,y|z", ""] := by
    simpa [itemsFrom, State.finish, State.initial] using ((each .comma).2 []).symm.trans square
  have bars : values .pipe = ["x,y", "z,"] := by
    simpa [itemsFrom, State.finish, State.initial] using ((each .pipe).2 []).symm.trans round
  rw [commas, bars] at same
  exact ⟨headed, ⟨_, _, derived⟩, square, round, same⟩

end RecordFilter.QueryText
