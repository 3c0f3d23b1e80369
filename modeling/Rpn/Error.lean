import Rpn.Text.Quoted

/-!
# Errors of an expression

What can be wrong with an expression: no rule recognizes a part of it, its brackets do not match,
or an operator has no precedence. An error is a cause together with the expression, or a name for
the sequence of tokens, that it occurred in. A report is an error that a caller puts into words.
-/

namespace Rpn

/-- The kinds of errors, from the general to the special. -/
inductive ErrorKind where
  | expression
  | lexical
  | conversion
  | unmatchedBracket
  | mismatchedBrackets
  | unknownOperator
  deriving DecidableEq, Repr

/-- The kind that a kind belongs to. -/
def ErrorKind.parent? : ErrorKind → Option ErrorKind
  | .expression => none
  | .lexical => some .expression
  | .conversion => some .expression
  | .unmatchedBracket => some .conversion
  | .mismatchedBrackets => some .conversion
  | .unknownOperator => some .conversion

/-- The kind and all those that it belongs to, the most special first. -/
def ErrorKind.lineage (kind : ErrorKind) : List ErrorKind :=
  match kind.parent? with
  | none => [kind]
  | some parent => kind :: parent :: parent.parent?.toList

/-- What is wrong with an expression. -/
inductive Cause where
  /-- No rule recognizes the text at a position. -/
  | noRule (position : Int)
  /-- A closing bracket has no opening bracket. -/
  | unmatchedBracket
  /-- A separator of parameters stands in no bracket. -/
  | unmatchedSeparator
  /-- An opening bracket has no closing bracket. -/
  | mismatchedBrackets
  /-- An operator has no precedence. -/
  | unknownOperator (operator : String)
  deriving DecidableEq, Repr

namespace Cause

/-- The kind of error that the cause leads to. -/
def kind : Cause → ErrorKind
  | .noRule _ => .lexical
  | .unmatchedBracket => .unmatchedBracket
  | .unmatchedSeparator => .unmatchedBracket
  | .mismatchedBrackets => .mismatchedBrackets
  | .unknownOperator _ => .unknownOperator

/-- The words for a position that no rule matches at. -/
def noRuleMessage (position : String) : String :=
  "No token rule matches at position " ++ position

/-- The words for an operator, shown between quotation marks, that has no precedence. -/
def unknownOperatorMessage (operator : String) : String :=
  "No precedence defined for operator " ++ operator ++ " in expression"

/-- The problem in words. -/
def message : Cause → String
  | .noRule position => noRuleMessage (toString position)
  | .unmatchedBracket => "Could not find opening bracket in expression"
  | .unmatchedSeparator =>
      "Could not find opening bracket for parameter separator in expression"
  | .mismatchedBrackets => "Brackets are not balanced in expression"
  | .unknownOperator operator => unknownOperatorMessage (Text.quoted operator)

end Cause

/-- A problem and the expression that has it. -/
structure ExpressionError where
  cause : Cause
  expression : String
  deriving DecidableEq, Repr

/-- The problem in words, followed by the expression. -/
def ExpressionError.text (error : ExpressionError) : String :=
  error.cause.message ++ ": " ++ error.expression

/-- An error in the words of a caller, who may leave out any part of it. -/
structure ErrorReport where
  kind : ErrorKind
  message : Option String
  expression : Option String
  deriving DecidableEq, Repr

namespace ErrorReport

/-- A part of a report as it is shown. -/
def shown (part : Option String) : String :=
  part.getD "None"

/-- The problem in words, followed by the expression. -/
def text (report : ErrorReport) : String :=
  shown report.message ++ ": " ++ shown report.expression

/-- No rule recognizes an expression at a position. -/
def noRule (expression : Option String) (position : Option Int) : ErrorReport :=
  ⟨.lexical, some (Cause.noRuleMessage (shown (position.map toString))), expression⟩

/-- A missing opening bracket, in the words of the caller if there are any. -/
def unmatchedBracket (expression message : Option String) : ErrorReport :=
  ⟨.unmatchedBracket, some ((message.filter (· ≠ "")).getD Cause.unmatchedBracket.message),
    expression⟩

/-- A missing closing bracket. -/
def mismatchedBrackets (expression : Option String) : ErrorReport :=
  ⟨.mismatchedBrackets, some Cause.mismatchedBrackets.message, expression⟩

/-- An operator without a precedence. -/
def unknownOperator (expression operator : Option String) : ErrorReport :=
  ⟨.unknownOperator, some (Cause.unknownOperatorMessage (shown (operator.map Text.quoted))),
    expression⟩

end ErrorReport

/-- The report of an error in its usual words. -/
def ExpressionError.report (error : ExpressionError) : ErrorReport :=
  ⟨error.cause.kind, some error.cause.message, some error.expression⟩

theorem ExpressionError.text_report (error : ExpressionError) : error.report.text = error.text :=
  rfl

end Rpn
