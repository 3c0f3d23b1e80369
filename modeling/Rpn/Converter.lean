import Rpn.Conversion
import Rpn.Lexer
import Rpn.Listing

/-!
# Converters

A converter has a grammar and perhaps rules to split a text by, and it remembers the output of its
last successful conversion. What a call answers does not depend on that memory, save for the call
that converts the remembered output once more; a call that fails leaves the memory as it is.
-/

namespace Rpn

/-- A failure that is no error of the expression. -/
inductive Fault where
  /-- A text was to be converted without rules. -/
  | noRules
  | transform (fault : TransformFault)
  deriving DecidableEq, Repr

/-- Why a call gives no output. -/
inductive Failure where
  | expression (error : ExpressionError)
  | fault (fault : Fault)
  deriving DecidableEq, Repr

/-- The name of a sequence of tokens that the caller gives no name. -/
def unnamedTokens : String :=
  "Tokens given"

/-- What a call did: the tokens it scanned, its moves, and its output or failure. -/
structure Attempt where
  scanned : List Token
  events : List Event
  result : Except Failure (List Token)

/-- A converted expression: its output, or the text of its error. -/
structure ConversionResult where
  expression : String
  rpn : Option (List Token)
  error : Option String
  deriving DecidableEq, Repr

namespace ConversionResult

/-- Whether the result reports no error. -/
def ok (result : ConversionResult) : Bool :=
  result.error.isNone

/-- The result on one line, unless there is neither an output nor an error to show. -/
def line? (result : ConversionResult) : Option String :=
  match result.error, result.rpn with
  | some error, _ => some (result.expression ++ " -> ERROR: " ++ error)
  | none, some rpn => some (result.expression ++ " = " ++ Listing.line rpn)
  | none, none => none

end ConversionResult

namespace Attempt

/-- The conversion of tokens that are known by a name. -/
def ofConversion (source : String) (scanned : List Token) (conversion : Conversion) : Attempt :=
  ⟨scanned, conversion.events,
    conversion.rpn.mapError fun cause => .expression ⟨cause, source⟩⟩

/-- The outcome for an expression, with an error of the expression turned into its text. -/
def report (attempt : Attempt) (expression : String) : Except Fault ConversionResult :=
  match attempt.result with
  | .ok rpn => .ok ⟨expression, some rpn, none⟩
  | .error (.expression error) => .ok ⟨expression, none, some error.text⟩
  | .error (.fault fault) => .error fault

end Attempt

/-- A grammar, rules to split a text by, and the last output. -/
structure Converter where
  grammar : Grammar
  rules : Option Lexer
  last : Option (List Token)

/-- A request to a converter. -/
inductive Call where
  /-- Split a text and convert it. -/
  | text (expression : String)
  /-- Convert tokens that are known by a name. -/
  | tokens (tokens : List Token) (source : String)
  /-- Convert the last output once more. -/
  | again
  deriving DecidableEq, Repr

namespace Converter

/-- A converter that has converted nothing yet. -/
def new (grammar : Grammar) (rules : Option Lexer) : Converter :=
  ⟨grammar, rules, none⟩

/-- The conversion of tokens. -/
def attemptTokens (converter : Converter) (tokens : List Token) (source : String) : Attempt :=
  .ofConversion source [] (converter.grammar.conversion tokens)

/-- The conversion of a text. -/
def attemptText (converter : Converter) (expression : String) : Attempt :=
  match converter.rules with
  | none => ⟨[], [], .error (.fault .noRules)⟩
  | some rules =>
      let scan := rules.scan expression
      match scan.result with
      | .ok tokens => .ofConversion expression tokens (converter.grammar.conversion tokens)
      | .error (.noRule position) =>
          ⟨scan.tokens, [], .error (.expression ⟨.noRule position, expression⟩)⟩
      | .error (.transform fault) => ⟨scan.tokens, [], .error (.fault (.transform fault))⟩

/-- What a request does. -/
def attempt (converter : Converter) : Call → Attempt
  | .text expression => converter.attemptText expression
  | .tokens tokens source => converter.attemptTokens tokens source
  | .again => converter.attemptTokens (converter.last.getD []) unnamedTokens

/-- The converter after an attempt: a success replaces the last output. -/
def after (converter : Converter) (attempt : Attempt) : Converter :=
  match attempt.result with
  | .ok rpn => { converter with last := some rpn }
  | .error _ => converter

/-- What a request does, and the converter after it. -/
def perform (converter : Converter) (call : Call) : Attempt × Converter :=
  let attempt := converter.attempt call
  (attempt, converter.after attempt)

/-- A text that is scanned to its end has the outcome of its tokens. -/
theorem result_text_of_scanned {converter : Converter} {rules : Lexer} {expression : String}
    {tokens : List Token} (supplied : converter.rules = some rules)
    (scanned : (rules.scan expression).result = .ok tokens) :
    (converter.attempt (.text expression)).result =
      (converter.attempt (.tokens tokens expression)).result := by
  simp [attempt, attemptText, attemptTokens, supplied, scanned, Attempt.ofConversion]

theorem result_text_of_noRule {converter : Converter} {rules : Lexer} {expression : String}
    {position : Nat} (supplied : converter.rules = some rules)
    (stuck : (rules.scan expression).result = .error (.noRule position)) :
    (converter.attempt (.text expression)).result =
      .error (.expression ⟨.noRule position, expression⟩) := by
  simp [attempt, attemptText, supplied, stuck]

end Converter

/-- A fault in words, where it has any. -/
def Fault.message? : Fault → Option String
  | .noRules => some "No token rules configured, use convert_tokens()"
  | .transform _ => none

end Rpn
