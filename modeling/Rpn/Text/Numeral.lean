import Rpn.Text.Lines

/-!
# Numerals

Numbers written in digits of a base up to sixteen, and whole numbers written in ASCII digits with an
optional sign. Spaces around a whole number do not count, and neither do leading zeros.
-/

namespace Rpn.Text

/-- The value of a digit in a base up to sixteen. -/
def digitValue? (base : Nat) (c : Char) : Option Nat :=
  let value :=
    if isAsciiDigit c then c.toNat - 0x30
    else if 'a' ≤ c ∧ c ≤ 'f' then c.toNat - 0x61 + 10
    else if 'A' ≤ c ∧ c ≤ 'F' then c.toNat - 0x41 + 10
    else base
  if value < base then some value else none

/-- The number that digits stand for. -/
def numberOf (base : Nat) (digits : List Char) : Nat :=
  digits.foldl (fun value c => value * base + (digitValue? base c).getD 0) 0

/-- The digits of a base at the front of a text, at most a number of them. -/
def leadingDigits (base count : Nat) (text : List Char) : List Char :=
  (text.take count).takeWhile fun c => (digitValue? base c).isSome

/-- The number that ASCII digits stand for, if there are only those and at least one. -/
def magnitude? (digits : List Char) : Option Nat :=
  if digits ≠ [] ∧ digits.all isAsciiDigit then some (numberOf 10 digits) else none

/-- The whole number that a text stands for. -/
def integer? (text : String) : Option Int :=
  match trimOff isSpace text.toList with
  | '-' :: digits => (magnitude? digits).map fun value => -(value : Int)
  | '+' :: digits => (magnitude? digits).map fun value => (value : Int)
  | digits => (magnitude? digits).map fun value => (value : Int)

end Rpn.Text
