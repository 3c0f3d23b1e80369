import Rpn.Text.CharClass

/-!
# Sets of characters

What one position of a pattern accepts: a union of ranges and named classes, possibly negated and
possibly blind to the case of ASCII letters.
-/

namespace Rpn

/-- A named class of characters. -/
inductive CharKind where
  | digit
  | blank
  | word
  deriving DecidableEq, Repr

/-- Whether a character is of the kind, over all scripts or within ASCII. -/
def CharKind.holds (kind : CharKind) (ascii : Bool) (c : Char) : Bool :=
  match kind, ascii with
  | .digit, false => Text.isDigit c
  | .digit, true => Text.isAsciiDigit c
  | .blank, false => Text.isBlank c
  | .blank, true => Text.isAsciiBlank c
  | .word, false => Text.isWord c
  | .word, true => Text.isAsciiWord c

/-- One member of a character set. -/
inductive CharItem where
  /-- The characters between two code points, both included. -/
  | range (low high : Nat)
  /-- The characters of a kind, or those of no such kind. -/
  | named (kind : CharKind) (ascii negated : Bool)
  deriving DecidableEq, Repr

/-- Whether the item lists the character. -/
def CharItem.holds (item : CharItem) (c : Char) : Bool :=
  match item with
  | .range low high => Text.CodeRange.contains (low, high) c.toNat
  | .named kind ascii negated => kind.holds ascii c != negated

/-- The other case of an ASCII letter; every other character is its own. -/
def otherCase (c : Char) : Char :=
  if c.isUpper then c.toLower else c.toUpper

/-- What one position of a pattern accepts. -/
structure CharSet where
  items : List CharItem
  negated : Bool
  caseless : Bool
  deriving DecidableEq, Repr

namespace CharSet

/-- The characters with one code point. -/
def single (code : Nat) (caseless : Bool) : CharSet :=
  ⟨[.range code code], false, caseless⟩

/-- Every character. -/
def all : CharSet :=
  ⟨[], true, false⟩

/-- Every character but the line feed. -/
def withinLine : CharSet :=
  ⟨[.range 0xA 0xA], true, false⟩

/-- Whether one of the items lists the character, in its own case or, if asked for, the other. -/
def lists (set : CharSet) (c : Char) : Bool :=
  set.items.any (·.holds c) || (set.caseless && set.items.any (·.holds (otherCase c)))

/-- Whether the set accepts the character. -/
def accepts (set : CharSet) (c : Char) : Bool :=
  set.lists c != set.negated

@[simp]
theorem accepts_all (c : Char) : all.accepts c = true := rfl

end CharSet

end Rpn
