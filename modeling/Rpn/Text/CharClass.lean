import Rpn.Text.DigitTable
import Rpn.Text.UnprintableTable
import Rpn.Text.WordTable

/-!
# Classes of characters

Digits, blanks, word characters and printable characters, each over all scripts, and for the first
three also restricted to ASCII.
-/

namespace Rpn.Text

/-- Code points of the blanks: ASCII controls that move the caret, and the Unicode spaces. -/
def blanks : List CodeRange :=
  [(0x9, 0xD), (0x1C, 0x20), (0x85, 0x85), (0xA0, 0xA0), (0x1680, 0x1680), (0x2000, 0x200A),
   (0x2028, 0x2029), (0x202F, 0x202F), (0x205F, 0x205F), (0x3000, 0x3000)]

/-- A decimal digit of any script. -/
def isDigit (c : Char) : Bool :=
  CodeRange.covers decimalDigits c.toNat

/-- A blank of any script; the byte order mark `0xFEFF` is none. -/
def isBlank (c : Char) : Bool :=
  CodeRange.covers blanks c.toNat

/-- A blank other than the four ASCII controls that separate records. -/
def isSpace (c : Char) : Bool :=
  isBlank c && !CodeRange.contains (0x1C, 0x1F) c.toNat

/-- A letter or number of any script, or the low line. -/
def isWord (c : Char) : Bool :=
  CodeRange.covers wordsBelow1000 c.toNat || CodeRange.covers wordsBelow3000 c.toNat ||
    CodeRange.covers wordsBelow10000 c.toNat || CodeRange.covers wordsAbove10000 c.toNat

/-- A character with a visible form, or the space. -/
def isPrintable (c : Char) : Bool :=
  !(CodeRange.covers unprintableBelow1000 c.toNat ||
    CodeRange.covers unprintableBelow3000 c.toNat ||
    CodeRange.covers unprintableBelow10000 c.toNat ||
    CodeRange.covers unprintableAbove10000 c.toNat)

/-- One of the ten ASCII digits. -/
def isAsciiDigit (c : Char) : Bool :=
  CodeRange.contains (0x30, 0x39) c.toNat

/-- The space, or one of the ASCII controls from the tabulation to the carriage return. -/
def isAsciiBlank (c : Char) : Bool :=
  c == ' ' || CodeRange.contains (0x9, 0xD) c.toNat

/-- An ASCII letter, an ASCII digit, or the low line. -/
def isAsciiWord (c : Char) : Bool :=
  CodeRange.covers [(0x30, 0x39), (0x41, 0x5A), (0x5F, 0x5F), (0x61, 0x7A)] c.toNat

/-- Every blank of core's ASCII class is a blank here. -/
theorem isBlank_of_isWhitespace {c : Char} (blank : c.isWhitespace = true) : isBlank c = true := by
  simp only [Char.isWhitespace, Bool.or_eq_true, decide_eq_true_eq] at blank
  rcases blank with ((rfl | rfl) | rfl) | rfl <;> decide

end Rpn.Text
