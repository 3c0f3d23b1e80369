import Rpn.Text.CharClass

/-!
# Quoted text

The form in which messages show a text: between quotation marks, with backslash escapes for the
mark itself, the backslash and every character without a visible form.
-/

namespace Rpn.Text

/-- The number in lower-case hexadecimal digits, with leading zeros up to a number of digits. -/
def hexadecimal (digits code : Nat) : List Char :=
  let shown := Nat.toDigits 16 code
  List.replicate (digits - shown.length) '0' ++ shown

/-- The mark around a text: the apostrophe, unless the text holds one and no double mark. -/
def quoteMark (text : List Char) : Char :=
  if text.contains '\'' && !text.contains '"' then '"' else '\''

/-- A character between quotation marks. -/
def quotedChar (mark c : Char) : List Char :=
  if c = mark ∨ c = '\\' then ['\\', c]
  else if c = '\n' then ['\\', 'n']
  else if c = '\r' then ['\\', 'r']
  else if c = '\t' then ['\\', 't']
  else if isPrintable c then [c]
  else if c.toNat ≤ 0xFF then '\\' :: 'x' :: hexadecimal 2 c.toNat
  else if c.toNat ≤ 0xFFFF then '\\' :: 'u' :: hexadecimal 4 c.toNat
  else '\\' :: 'U' :: hexadecimal 8 c.toNat

/-- The text between quotation marks. -/
def quoted (text : String) : String :=
  let chars := text.toList
  let mark := quoteMark chars
  String.ofList (mark :: chars.flatMap (quotedChar mark) ++ [mark])

end Rpn.Text
