import Rpn.Text.CharClass

/-!
# Lines

A line ends with a line feed, a carriage return, or the two together; no other character ends one.
The characters that end a line do not belong to it, and nothing follows the last ending. A line is
trimmed of the blanks at both of its ends, whichever characters of `isBlank` they are.
-/

namespace Rpn.Text

/-- The lines of a text, the characters of the first one so far given in reverse. -/
def linesAfter (current : List Char) : List Char → List (List Char)
  | [] => if current.isEmpty then [] else [current.reverse]
  | '\r' :: '\n' :: rest => current.reverse :: linesAfter [] rest
  | c :: rest =>
      if c = '\n' ∨ c = '\r' then current.reverse :: linesAfter [] rest
      else linesAfter (c :: current) rest

/-- The lines of a text. -/
def lines (text : List Char) : List (List Char) :=
  linesAfter [] text

/-- The front of a text up to its last line ending. A carriage return at the very end is not taken
for one, because a line feed may still follow it. -/
def upToLastEnding (text : List Char) : List Char :=
  let settled := if text.getLast? = some '\r' then text.dropLast else text
  (settled.reverse.dropWhile fun c => c != '\n' && c != '\r').reverse

/-- The characters without those of a class at both ends. -/
def trimOff (drops : Char → Bool) (chars : List Char) : List Char :=
  ((chars.dropWhile drops).reverse.dropWhile drops).reverse

/-- The characters without the blanks at both ends. -/
def trim (chars : List Char) : List Char :=
  trimOff isBlank chars

end Rpn.Text
