import Rpn.Batch
import Rpn.Proofs.LineRoundTrip
import Rpn.Proofs.Lines
import Rpn.Proofs.Outcome
import Rpn.Proofs.Session

/-!
# What a batch writes

A batch asks for reports only, and a report does not depend on what was converted before. So the
results and the lines of a batch are those of its expressions one by one, as long as each of them
has a report (`Batch.runFrom_of_reported`). With the reference converter each of them has: the
errors of its expressions are put into words, and faults it has none.

A line holds the expression, values that were taken out of the expression, and words of the
converter. None of these brings a line ending into a line, if there is none in the expression, so
the lines of a file of results are as many as the expressions.
-/

namespace Rpn

open Text (Unbroken)

theorem Text.unbroken_toString (number : Int) : Unbroken (toString number).toList := by
  have digits (n : Nat) : Unbroken n.repr.toList := by
    intro c c_mem
    rw [Nat.toList_repr] at c_mem
    have digit := Nat.isDigit_of_mem_toDigits (by omega) (by omega) c_mem
    constructor <;> rintro rfl <;> simp at digit
  rw [Int.toString_eq_repr, Int.repr_eq_if]
  split
  · exact digits _
  · rw [String.toList_append, Text.unbroken_append]
    exact ⟨by decide, digits _⟩

/-- What is wrong with an expression is said on one line; a quoted operator is left aside. -/
theorem Cause.unbroken_message {cause : Cause} (other : cause.kind ≠ .unknownOperator) :
    Unbroken cause.message.toList := by
  cases cause with
  | noRule position =>
      unfold message noRuleMessage
      rw [String.toList_append, Text.unbroken_append]
      exact ⟨by decide, Text.unbroken_toString position⟩
  | unmatchedBracket | unmatchedSeparator | mismatchedBrackets => decide
  | unknownOperator operator => exact absurd rfl other

namespace Batch

/-- Each expression has the result and the line that it has alone. -/
theorem runFrom_of_reported {converter : Converter} {result : String → ConversionResult}
    {line : String → String}
    (reported : ∀ expression,
      (converter.attempt (.text expression)).report expression = .ok (result expression))
    (lined : ∀ expression, (result expression).line? = some (line expression))
    (traced : Bool) (last : Option (List Token)) (number : Nat) (expressions : List String) :
    ∃ batch, runFrom traced { converter with last } number expressions = .ok batch ∧
      batch.results = expressions.map result ∧ batch.lines = expressions.map line := by
  induction expressions generalizing last number with
  | nil => exact ⟨empty { converter with last }, rfl, rfl, rfl⟩
  | cons expression rest ih =>
      rcases ih ((converter.attempt (.text expression)).result.toOption.or last) (number + 1) with
        ⟨batch, ran, results_eq, lines_eq⟩
      simp only [runFrom, Converter.perform_text, reported, ran, Except.map, Except.ok.injEq,
        exists_eq_left']
      simp [cons, results_eq, lines_eq, lined]

end Batch

namespace Reference

/-- What is scanned is taken out of the text. -/
theorem value_subset_of_scanned {text : String} {tokens : List Token}
    (scanned : (Lexer.scan rules text).result = .ok tokens) :
    ∀ token ∈ tokens, token.value.toList ⊆ text.toList := by
  rcases (Lexer.result_scan_eq_ok_iff fun rule => answers_of_mem).mp scanned with
    ⟨segments, tiles, rfl⟩
  intro token token_mem
  rcases List.mem_filterMap.mp token_mem with ⟨segment, segment_mem, given⟩
  have selected := tiles.selects segment segment_mem
  have rule_mem := selected.rule_mem
  rcases selected.apply_eq (answers_of_mem rule_mem).answered with
    ⟨-, dropped⟩ | ⟨value, applied, token_eq⟩
  · simp [dropped] at given
  · rw [given, Option.some.injEq] at token_eq
    subst token
    rw [apply_of_mem rule_mem, selected.chars_eq] at applied
    split at applied
    · contradiction
    · rw [Transformed.value.injEq] at applied
      subst value
      rw [String.toList_ofList, Segment.chars]
      exact fun c c_mem => List.mem_of_mem_drop (List.mem_of_mem_take c_mem)

/-- What is put out is taken out of the text. -/
theorem value_subset_of_converted {text : String} {rpn : List Token}
    (converted : (converter.attempt (.text text)).result = .ok rpn) :
    ∀ token ∈ rpn, token.value.toList ⊆ text.toList := by
  rcases (Converter.result_text_eq_ok_iff rfl).mp converted with ⟨tokens, scanned, converted⟩
  intro token token_mem
  have kept := (Grammar.perm_of_rpn converted).mem_iff.mp token_mem
  exact value_subset_of_scanned scanned token (List.mem_filter.mp kept).1

theorem exists_cause_of_not_converts {text : String} (unconverted : ¬ Converts text) :
    ∃ cause, (converter.attempt (.text text)).result = .error (.expression ⟨cause, text⟩) ∧
      cause.kind ≠ .unknownOperator := by
  by_cases cut : ∃ tokens, Lexer.Tokenizes rules text.toList tokens
  · rcases cut with ⟨tokens, tokenizes⟩
    rcases outcome_of_tokenizes tokenizes with
      ⟨-, cause, failed, kind_eq⟩ | ⟨-, cause, failed, kind_eq⟩ | ⟨-, converts⟩
    · exact ⟨cause, failed, by simp [kind_eq]⟩
    · exact ⟨cause, failed, by simp [kind_eq]⟩
    · exact absurd converts unconverted
  · rcases reports_of_not_tokenizes cut with ⟨cause, failed, kind_eq⟩
    exact ⟨cause, failed, by simp [kind_eq]⟩

theorem unbroken_line {tokens : List Token}
    (each : ∀ token ∈ tokens, Unbroken token.value.toList) :
    Unbroken (Listing.line tokens).toList := by
  induction tokens with
  | nil => decide
  | cons first tokens ih =>
      rcases List.forall_mem_cons.mp each with ⟨unbroken, each⟩
      cases tokens with
      | nil => simpa [Listing.line] using unbroken
      | cons second tokens =>
          rw [line_cons_cons, Text.unbroken_append, Text.unbroken_append]
          exact ⟨unbroken, by decide, ih each⟩

/-- The output for a text, if it has one. -/
def output? (text : String) : Option (List Token) :=
  (converter.attempt (.text text)).result.toOption

/-- The text of the error of a text that does not convert. -/
def complaint? (text : String) : Option String :=
  match (converter.attempt (.text text)).result with
  | .error (.expression error) => some error.text
  | _ => none

theorem output?_of_ok {text : String} {rpn : List Token}
    (succeeded : (converter.attempt (.text text)).result = .ok rpn) :
    output? text = some rpn ∧ complaint? text = none := by
  simp [output?, complaint?, succeeded, Except.toOption]

theorem output?_of_error {text : String} {error : ExpressionError}
    (failed : (converter.attempt (.text text)).result = .error (.expression error)) :
    output? text = none ∧ complaint? text = some error.text := by
  simp [output?, complaint?, failed, Except.toOption]

/-- What an expression comes to in a batch: its result, and its line in the file of results. -/
inductive Entry (expression : String) : ConversionResult → String → Prop where
  | converted {rpn : List Token}
      (succeeded : (converter.attempt (.text expression)).result = .ok rpn) :
      Entry expression ⟨expression, some rpn, none⟩ (expression ++ " = " ++ Listing.line rpn)
  | refused {cause : Cause} (other : cause.kind ≠ .unknownOperator)
      (failed : (converter.attempt (.text expression)).result =
        .error (.expression ⟨cause, expression⟩)) :
      Entry expression ⟨expression, none, some (cause.message ++ ": " ++ expression)⟩
        (expression ++ " -> ERROR: " ++ (cause.message ++ ": " ++ expression))

namespace Entry

variable {expression : String} {result : ConversionResult} {line : String}

theorem report_eq (entry : Entry expression result line) :
    (converter.attempt (.text expression)).report expression = .ok result := by
  cases entry with
  | converted succeeded => simp [Attempt.report, succeeded]
  | refused other failed => simp [Attempt.report, failed, ExpressionError.text]

theorem line?_eq (entry : Entry expression result line) : result.line? = some line := by
  cases entry <;> rfl

theorem ok_iff (entry : Entry expression result line) :
    result.ok = true ↔ Converts expression := by
  cases entry with
  | @converted rpn succeeded => exact iff_of_true rfl ⟨rpn, succeeded⟩
  | refused other failed =>
      refine iff_of_false (by simp [ConversionResult.ok]) ?_
      rintro ⟨rpn, succeeded⟩
      simp [failed] at succeeded

/-- An entry breaks its line only where its expression does. -/
theorem unbroken (entry : Entry expression result line) (whole : Unbroken expression.toList) :
    Unbroken line.toList := by
  cases entry with
  | @converted rpn succeeded =>
      have values : Unbroken (Listing.line rpn).toList := by
        apply unbroken_line
        intro token token_mem
        exact whole.subset (value_subset_of_converted succeeded token token_mem)
      simp only [String.toList_append, Text.unbroken_append]
      exact ⟨⟨whole, by decide⟩, values⟩
  | @refused cause other failed =>
      simp only [String.toList_append, Text.unbroken_append]
      exact ⟨⟨whole, by decide⟩, ⟨Cause.unbroken_message other, by decide⟩, whole⟩

end Entry

/-- A batch of some expressions, whatever its converter converted before. -/
def Ran (expressions : List String) (batch : Batch) : Prop :=
  ∃ traced last destination,
    Batch.run traced { converter with last } destination expressions = .ok batch

/-- The result that an expression has in every batch. -/
def resultOf (expression : String) : ConversionResult :=
  ⟨expression, output? expression, complaint? expression⟩

/-- The line that an expression has in every file of results. -/
def lineOf (expression : String) : String :=
  (resultOf expression).line?.getD ""

theorem entry (expression : String) :
    Entry expression (resultOf expression) (lineOf expression) := by
  by_cases converts : Converts expression
  · rcases converts with ⟨rpn, succeeded⟩
    rcases output?_of_ok succeeded with ⟨shown, silent⟩
    simp only [lineOf, resultOf, shown, silent]
    exact .converted succeeded
  · rcases exists_cause_of_not_converts converts with ⟨cause, failed, other⟩
    rcases output?_of_error failed with ⟨hidden, said⟩
    simp only [lineOf, resultOf, hidden, said]
    exact .refused other failed

theorem exists_run (traced : Bool) (last : Option (List Token)) (destination : Path)
    (expressions : List String) :
    ∃ batch, Batch.run traced { converter with last } destination expressions = .ok batch ∧
      batch.results = expressions.map resultOf ∧ batch.lines = expressions.map lineOf := by
  rcases Batch.runFrom_of_reported (fun expression => (entry expression).report_eq)
    (fun expression => (entry expression).line?_eq) traced last 1 expressions with
    ⟨batch, ran, parts⟩
  simp only [Batch.run, ran, Except.map, Except.ok.injEq, exists_eq_left']
  exact parts

theorem Ran.parts {expressions : List String} {batch : Batch} (ran : Ran expressions batch) :
    batch.results = expressions.map resultOf ∧ batch.lines = expressions.map lineOf := by
  rcases ran with ⟨traced, last, destination, ran⟩
  rcases exists_run traced last destination expressions with ⟨same, ranToo, parts⟩
  rw [ran, Except.ok.injEq] at ranToo
  rwa [ranToo]

/-- What a batch says of its expressions: how many of them failed, and the lines of its file. -/
theorem Ran.tells {expressions : List String} {batch : Batch} (ran : Ran expressions batch) :
    (batch.failures = 0 ↔ ∀ expression ∈ expressions, Converts expression) ∧
      List.Forall₂ (fun expression line => ∃ result, Entry expression result line)
        expressions batch.lines := by
  rcases ran.parts with ⟨results_eq, lines_eq⟩
  constructor
  · simp [Batch.failures, results_eq, List.countP_eq_zero, (entry _).ok_iff]
  · rw [lines_eq, List.forall₂_map_right_iff, List.forall₂_same]
    exact fun expression _ => ⟨resultOf expression, entry expression⟩

end Reference

end Rpn
