/-!
# Tokens

A token is a piece of an expression with the tag of the rule that recognized it.
-/

namespace Rpn

/-- A piece of an expression and its type tag. -/
structure Token where
  value : String
  tag : String
  deriving DecidableEq, Repr

/-- The token on one line, its tag first. -/
def Token.describe (token : Token) : String :=
  token.tag ++ " " ++ token.value

end Rpn
