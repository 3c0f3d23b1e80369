import Rpn.Token

/-!
# Listings of tokens

Two ways to show a sequence of tokens: a table with one token per entry, its tags aligned to the
right, and the values on one line.
-/

namespace Rpn

namespace Listing

/-- A text with spaces in front, so that it has at least a number of characters. -/
def alignRight (width : Nat) (text : String) : String :=
  String.ofList (List.replicate (width - text.length) ' ') ++ text

/-- The length of the longest tag. -/
def tagWidth (tokens : List Token) : Nat :=
  tokens.foldr (fun token width => max token.tag.length width) 0

/-- One entry: the tag aligned to the right, a space, and the value. -/
def entry (width : Nat) (token : Token) : String :=
  alignRight width token.tag ++ " " ++ token.value

/-- The entries of all tokens, with a line feed between them. -/
def table (tokens : List Token) : String :=
  "\n".intercalate (tokens.map (entry (tagWidth tokens)))

/-- The values of all tokens, with a space between them. -/
def line (tokens : List Token) : String :=
  " ".intercalate (tokens.map Token.value)

end Listing

end Rpn
