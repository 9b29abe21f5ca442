import RecordFilter.Proofs.Criterion.Expansion
import RecordFilter.Proofs.QueryText.FaultKind

/-! # Patterns compiled beforehand

The patterns of a clause are compiled once, before any field value is known. That this is the same
as compiling each of them for every field value is a statement about two parallel lists: the texts
in the clause and the patterns in its criterion.

* `Comparison.patternTexts_cases`: which texts are patterns.
* `Comparison.FirstInvalid`: the text that a clause is refused for.
* `Criterion.compile_eq_error_iff`, `Criterion.exists_compile_eq_ok_iff_forall`: when there is a
  criterion.
* `Criterion.Finds`: the answer for a single text, compiled on the spot.
* `Criterion.holds_iff_finds`: a criterion joins these answers.
* `Filter.ofText_refused_for_pattern_iff`: when a query text is refused for a pattern.
* `Criterion.patterns_compiled_beforehand`: all of this together. -/

namespace RecordFilter

variable {engine : PatternEngine} {clause : Clause} {clauses : List Clause}
  {criterion : Criterion engine} {comparison : Comparison} {operator : Operator}
  {texts : Argument String} {fault : Fault} {text content : String}

/-! ## Texts that are patterns -/

namespace Comparison

/-- The values of a question for patterns are its patterns. -/
theorem patternTexts_of_takesPatterns (takes : operator.takesPatterns = true) :
    (string operator texts).patternTexts = texts.values := by
  cases operator with
  | matching | notMatching => rfl
  | _ => cases takes

/-- A comparison is a question for patterns, or it has no patterns. -/
theorem patternTexts_cases (comparison : Comparison) :
    (∃ operator texts, comparison = .string operator texts ∧ operator.takesPatterns = true)
      ∨ comparison.patternTexts = []
        ∧ ∀ operator texts, comparison = .string operator texts →
          operator.takesPatterns = false := by
  cases comparison with
  | string operator texts =>
      cases takes : operator.takesPatterns with
      | true => exact .inl ⟨operator, texts, rfl, takes⟩
      | false =>
          refine .inr ⟨TakesArgument.string.patternTexts_eq_nil takes, ?_⟩
          rintro _ _ ⟨⟩
          exact takes
  | _ => exact .inr ⟨rfl, nofun⟩

/-- The text is the first value of a question for patterns that is no pattern. -/
inductive FirstInvalid (engine : PatternEngine) : Comparison → String → Prop
  /-- The engine has a pattern for each of the values before it. -/
  | string {operator : Operator} {texts : Argument String} {before after : List String}
      {text : String} (takes : operator.takesPatterns = true)
      (split : texts.values = before ++ text :: after)
      (fine : ∀ earlier ∈ before, ∃ pattern, engine.compile? earlier = some pattern)
      (invalid : engine.compile? text = none) :
      FirstInvalid engine (.string operator texts) text

/-- The first value that is no pattern is the first of the patterns that is none. -/
theorem firstInvalid_iff :
    comparison.FirstInvalid engine text
      ↔ ∃ before after, comparison.patternTexts = before ++ text :: after
        ∧ (∀ earlier ∈ before, ∃ pattern, engine.compile? earlier = some pattern)
        ∧ engine.compile? text = none := by
  constructor
  · intro first
    cases first with
    | string takes split fine invalid =>
        rw [patternTexts_of_takesPatterns takes]
        exact ⟨_, _, split, fine, invalid⟩
  · rintro ⟨before, after, split, fine, invalid⟩
    rcases comparison.patternTexts_cases with ⟨operator, texts, rfl, takes⟩ | ⟨none, -⟩
    · rw [patternTexts_of_takesPatterns takes] at split
      exact .string takes split fine invalid
    · rw [none] at split
      exact absurd split.symm (List.append_ne_nil_of_right_ne_nil _ (List.cons_ne_nil _ _))

end Comparison

/-! ## Criteria -/

/-- Answers that do not belong to a pipe group have to be positive for every value. -/
theorem Argument.combine_iff_forall {α : Type} {argument : Argument α} {test : α → Bool}
    (other : argument.delimiter? ≠ some .pipe) :
    argument.combine test = true ↔ ∀ value ∈ argument.values, test value = true := by
  cases argument with
  | one value => rw [combine_one, values_one, List.forall_mem_singleton]
  | group values delimiter =>
      cases delimiter with
      | comma => exact List.all_eq_true
      | pipe => exact absurd rfl other

/-- The answers of a pipe group have to be positive for one value at least. -/
theorem Argument.combine_iff_exists {α : Type} {argument : Argument α} {test : α → Bool}
    (pipe : argument.delimiter? = some .pipe) :
    argument.combine test = true ↔ ∃ value ∈ argument.values, test value = true := by
  cases argument with
  | one value => cases pipe
  | group values delimiter =>
      cases pipe
      exact List.any_eq_true

namespace Criterion

/-- A text is refused as a pattern exactly if the engine has no pattern for it. -/
theorem compilePattern_eq_error_iff :
    compilePattern engine text = .error fault
      ↔ engine.compile? text = none ∧ fault = .invalidPattern text := by
  unfold compilePattern
  cases engine.compile? text <;> simp [eq_comm]

/-- A clause is refused for the first of its values that is no pattern. -/
theorem compile_eq_error_iff :
    compile engine clause = .error fault
      ↔ ∃ text, clause.comparison.FirstInvalid engine text ∧ fault = .invalidPattern text := by
  have traversal : compile engine clause = .error fault
      ↔ clause.comparison.patternTexts.mapM (compilePattern engine) = .error fault := by
    unfold compile
    cases clause.comparison.patternTexts.mapM (compilePattern engine) <;> simp [Except.map]
  rw [traversal, mapM_eq_error_iff]
  simp only [compilePattern_eq_ok_iff, compilePattern_eq_error_iff, Comparison.firstInvalid_iff]
  constructor
  · rintro ⟨before, text, after, split, fine, invalid, rfl⟩
    exact ⟨text, ⟨before, after, split, fine, invalid⟩, rfl⟩
  · rintro ⟨text, ⟨before, after, split, fine, invalid⟩, rfl⟩
    exact ⟨before, text, after, split, fine, invalid, rfl⟩

/-- A clause has a criterion exactly if each value of a question for patterns is one. -/
theorem exists_compile_eq_ok_iff_forall :
    (∃ criterion, compile engine clause = .ok criterion)
      ↔ ∀ operator texts, clause.comparison = .string operator texts →
          operator.takesPatterns = true →
            ∀ text ∈ texts.values, ∃ pattern, engine.compile? text = some pattern := by
  rw [exists_compile_eq_ok_iff, exists_mapM_eq_ok_iff]
  simp only [compilePattern_eq_ok_iff]
  rcases clause.comparison.patternTexts_cases with ⟨operator, texts, same, takes⟩ | ⟨none, other⟩
  · rw [same, Comparison.patternTexts_of_takesPatterns takes]
    constructor
    · rintro each _ _ ⟨⟩ _
      exact each
    · exact fun each => each operator texts rfl takes
  · rw [none]
    constructor
    · intro _ operator texts same takes
      rw [other operator texts same] at takes
      cases takes
    · exact fun _ _ member => absurd member List.not_mem_nil

/-- The answer for a single text, compiled on the spot: it is a pattern that the content matches, or
does not match if the operator is the negated one. -/
def Finds (engine : PatternEngine) (operator : Operator) (content text : String) : Prop :=
  ∃ pattern, engine.compile? text = some pattern
    ∧ engine.isMatch pattern content = !operator.isNegated

/-- Among the compiled patterns of a criterion, those of the texts give their answers. -/
theorem any_compile?_iff_finds :
    ((engine.compile? text).any fun pattern =>
        engine.isMatch pattern content != operator.isNegated) = true
      ↔ Finds engine operator content text := by
  rw [Option.any_eq_true, Finds]
  refine exists_congr fun pattern => and_congr_right fun _ => ?_
  cases engine.isMatch pattern content <;> cases operator.isNegated <;> decide

section Compiled

variable (compiled : compile engine clause = .ok criterion)
  (same : clause.comparison = .string operator texts) (takes : operator.takesPatterns = true)
include compiled same takes

/-- A criterion of a question for patterns keeps one pattern for each value, in order. -/
theorem forall₂_patterns :
    List.Forall₂ (fun text pattern => engine.compile? text = some pattern) texts.values
      criterion.patterns := by
  have found := (compile_eq_ok_iff.1 compiled).2
  rw [same, Comparison.patternTexts_of_takesPatterns takes, mapM_eq_ok_iff_forall₂] at found
  exact found.imp fun _ _ => compilePattern_eq_ok_iff.1

/-- A criterion of a question for patterns combines the answers for its values. -/
theorem holds_eq_combine (content : String) :
    criterion.holds (.string content)
      = texts.combine fun text => (engine.compile? text).any fun pattern =>
          engine.isMatch pattern content != operator.isNegated := by
  obtain ⟨own, found⟩ := compile_eq_ok_iff.1 compiled
  rw [same, Comparison.patternTexts_of_takesPatterns takes] at found
  rw [← combine_patterns found]
  unfold holds
  rw [own, same]
  cases operator with
  | matching | notMatching => rfl
  | _ => cases takes

/-- A criterion of a question for patterns joins the answers for its values: all of them have to be
positive, and in a pipe group one of them. -/
theorem holds_iff_finds (content : String) :
    (texts.delimiter? ≠ some .pipe → (criterion.holds (.string content) = true
        ↔ ∀ text ∈ texts.values, Finds engine operator content text))
      ∧ (texts.delimiter? = some .pipe → (criterion.holds (.string content) = true
        ↔ ∃ text ∈ texts.values, Finds engine operator content text)) := by
  rw [holds_eq_combine compiled same takes content]
  constructor
  · intro other
    rw [Argument.combine_iff_forall other]
    exact forall₂_congr fun text _ => any_compile?_iff_finds
  · intro pipe
    rw [Argument.combine_iff_exists pipe]
    exact exists_congr fun text => and_congr_right fun _ => any_compile?_iff_finds

end Compiled

end Criterion

/-! ## Filters -/

namespace Filter

/-- Clauses are refused exactly for a fault of one of them, before which the others have
criteria. -/
theorem compile_eq_error_iff :
    compile engine clauses = .error fault
      ↔ ∃ before clause after, clauses = before ++ clause :: after
        ∧ (∀ earlier ∈ before, ∃ criterion, Criterion.compile engine earlier = .ok criterion)
        ∧ Criterion.compile engine clause = .error fault := by
  rw [← mapM_eq_error_iff]
  unfold compile
  cases clauses.mapM (Criterion.compile engine) <;> simp [Except.map]

/-- The filter of clauses is refused exactly if one of them has a value that is no pattern, and then
for a pattern. -/
theorem compile_refused_iff :
    (∃ fault, compile engine clauses = .error fault ∧ fault.kind = .pattern)
      ↔ ∃ clause ∈ clauses, ∃ text, clause.comparison.FirstInvalid engine text := by
  constructor
  · rintro ⟨fault, refused, -⟩
    obtain ⟨before, clause, after, rfl, -, bad⟩ := compile_eq_error_iff.1 refused
    obtain ⟨text, first, -⟩ := Criterion.compile_eq_error_iff.1 bad
    exact ⟨clause, List.mem_append_cons_self, text, first⟩
  · rintro ⟨clause, member, text, first⟩
    -- the bad clause has no criterion, so neither has the whole list a filter
    cases made : compile engine clauses with
    | ok filter =>
        obtain ⟨criterion, compiled⟩ := exists_compile_eq_ok_iff.1 ⟨filter, made⟩ clause member
        have bad := Criterion.compile_eq_error_iff.2 ⟨text, first, rfl⟩
        rw [compiled] at bad
        cases bad
    | error fault =>
        obtain ⟨_, _, _, -, -, bad⟩ := compile_eq_error_iff.1 made
        obtain ⟨text, -, rfl⟩ := Criterion.compile_eq_error_iff.1 bad
        exact ⟨_, rfl, rfl⟩

/-- A query text is refused for a pattern exactly if it can be read and one of its clauses has a
value that is no pattern. -/
theorem ofText_refused_for_pattern_iff {whitelist : Whitelist} {query : String} :
    (∃ fault, ofText engine whitelist query = .error fault ∧ fault.kind = .pattern)
      ↔ ∃ typed, QueryText.read whitelist query = .ok typed
        ∧ ∃ clause ∈ typed, ∃ text, clause.comparison.FirstInvalid engine text := by
  have steps {fault : Fault} : ofText engine whitelist query = .error fault
      ↔ QueryText.read whitelist query = .error fault
        ∨ ∃ typed, QueryText.read whitelist query = .ok typed
          ∧ compile engine typed = .error fault := bind_eq_error_iff
  simp only [← compile_refused_iff, steps]
  constructor
  · rintro ⟨fault, unread | ⟨typed, accepted, refused⟩, stage⟩
    · exact absurd stage (QueryText.kind_of_read_eq_error unread)
    · exact ⟨typed, accepted, fault, refused, stage⟩
  · rintro ⟨typed, accepted, fault, refused, stage⟩
    exact ⟨fault, .inr ⟨typed, accepted, refused⟩, stage⟩

end Filter

namespace Criterion

/-- **Patterns can be compiled beforehand.** Take any way to compile and test patterns. A clause is
refused exactly if it is a question for patterns with a value that is none, and then for the first
such value; every other clause has a criterion, whatever its values. The criterion of a question for
patterns keeps one pattern for each value, in order, and on every text it joins the answers that the
values give when each of them is compiled for that text: all of them, or one of them in a pipe
group. The criterion of any other clause keeps no patterns. So a query text is refused for a pattern
exactly if it can be read and one of its clauses has a value that is no pattern. -/
theorem patterns_compiled_beforehand (engine : PatternEngine) :
    (∀ clause : Clause,
      (∀ fault, compile engine clause = .error fault
        ↔ ∃ text, clause.comparison.FirstInvalid engine text ∧ fault = .invalidPattern text)
      ∧ ((∃ criterion, compile engine clause = .ok criterion)
        ↔ ∀ operator texts, clause.comparison = .string operator texts →
            operator.takesPatterns = true →
              ∀ text ∈ texts.values, ∃ pattern, engine.compile? text = some pattern)
      ∧ ∀ criterion, compile engine clause = .ok criterion →
        criterion.clause = clause
        ∧ (∀ operator texts, clause.comparison = .string operator texts →
          operator.takesPatterns = true →
            List.Forall₂ (fun text pattern => engine.compile? text = some pattern) texts.values
                criterion.patterns
              ∧ ∀ content,
                (texts.delimiter? ≠ some .pipe → (criterion.holds (.string content) = true
                  ↔ ∀ text ∈ texts.values, Finds engine operator content text))
                ∧ (texts.delimiter? = some .pipe → (criterion.holds (.string content) = true
                  ↔ ∃ text ∈ texts.values, Finds engine operator content text)))
        ∧ ((∀ operator texts, clause.comparison = .string operator texts →
            operator.takesPatterns = false) → criterion.patterns = []))
    ∧ ∀ (whitelist : Whitelist) (query : String),
      (∃ fault, Filter.ofText engine whitelist query = .error fault ∧ fault.kind = .pattern)
        ↔ ∃ typed, QueryText.read whitelist query = .ok typed
          ∧ ∃ clause ∈ typed, ∃ text, clause.comparison.FirstInvalid engine text := by
  refine ⟨fun clause => ⟨fun fault => compile_eq_error_iff, exists_compile_eq_ok_iff_forall, ?_⟩,
    fun whitelist query => Filter.ofText_refused_for_pattern_iff⟩
  intro criterion compiled
  obtain ⟨own, found⟩ := compile_eq_ok_iff.1 compiled
  refine ⟨own, ?_, ?_⟩
  · intro operator texts same takes
    exact ⟨forall₂_patterns compiled same takes, holds_iff_finds compiled same takes⟩
  · intro other
    rcases clause.comparison.patternTexts_cases with ⟨operator, texts, same, takes⟩ | ⟨none, -⟩
    · rw [other operator texts same] at takes
      cases takes
    · rw [none] at found
      exact (Except.ok.inj found).symm

/-- A pipe group of two patterns, one of which a text must not contain, and a group with a text
that is no pattern between two that are. -/
theorem patterns_compiled_beforehand_groups :
    (∃ criterion : Criterion regularExpressions,
      compile regularExpressions
          ⟨"f", .string .notMatching (.group ["a", "b"] .pipe), ⟨rfl, nofun, rfl⟩⟩ = .ok criterion
        ∧ criterion.patterns.length = 2 ∧ criterion.holds (.string "ac") = true)
    ∧ compile regularExpressions
        ⟨"f", .string .matching (.group ["a", "(", "b"] .comma), ⟨rfl, nofun, rfl⟩⟩
      = .error (.invalidPattern "(") := by
  have beforehand := (patterns_compiled_beforehand regularExpressions).1
  refine ⟨?_, ?_⟩
  · obtain ⟨-, -, made⟩ := beforehand
      ⟨"f", .string .notMatching (.group ["a", "b"] .pipe), ⟨rfl, nofun, rfl⟩⟩
    obtain ⟨-, questions, -⟩ := made _ rfl
    obtain ⟨parallel, answers⟩ := questions .notMatching (.group ["a", "b"] .pipe) rfl rfl
    have absent : Finds regularExpressions .notMatching "ac" "b" := ⟨_, rfl, by decide +kernel⟩
    exact ⟨_, rfl, parallel.length_eq.symm, ((answers "ac").2 rfl).2 ⟨"b", by simp, absent⟩⟩
  · obtain ⟨refused, -⟩ := beforehand
      ⟨"f", .string .matching (.group ["a", "(", "b"] .comma), ⟨rfl, nofun, rfl⟩⟩
    have fine : ∀ earlier ∈ ["a"], ∃ pattern,
        regularExpressions.compile? earlier = some pattern := by
      intro earlier member
      obtain rfl := List.mem_singleton.1 member
      exact ⟨_, rfl⟩
    have split : ["a", "(", "b"] = ["a"] ++ "(" :: ["b"] := rfl
    exact (refused _).2 ⟨"(", .string rfl split fine rfl, rfl⟩

end Criterion

end RecordFilter
