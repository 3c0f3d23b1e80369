import Rpn.Pattern.CharSet

/-!
# Regular expressions

The expressions that a pattern is read into, and the least and the greatest number of characters
that an expression can consume.
-/

namespace Rpn

/-- A condition on the place in the text, met without consuming a character. -/
inductive Anchor where
  /-- The start of the text. -/
  | textStart
  /-- The start of the text or of a line. -/
  | lineStart
  /-- The end of the text. -/
  | textEnd
  /-- The end of the text, or the place in front of a line feed that ends the text. -/
  | lastLineEnd
  /-- The end of the text or of a line. -/
  | lineEnd
  /-- A place between a word character and something else, or, negated, no such place. -/
  | wordBoundary (ascii negated : Bool)
  deriving DecidableEq, Repr

/-- How a repetition decides between one more round and none. -/
inductive Greed where
  /-- As many rounds as possible, giving rounds back when what follows needs it. -/
  | greedy
  /-- As few rounds as possible, taking more when what follows needs it. -/
  | reluctant
  /-- As many rounds as possible, and none is given back. -/
  | possessive
  deriving DecidableEq, Repr

/-- A regular expression. -/
inductive Regex where
  | empty
  | one (set : CharSet)
  | anchor (place : Anchor)
  | sequence (first second : Regex)
  | choice (first second : Regex)
  /-- At least `low` rounds of the body and at most `high`, if there is such a bound. -/
  | repetition (body : Regex) (low : Nat) (high : Option Nat) (greed : Greed)
  /-- The body, what it consumes being kept as the group of that number. -/
  | capture (index : Nat) (body : Regex)
  /-- The body, whose first success is final. -/
  | atomic (body : Regex)
  /-- The text last kept by a group, once more. -/
  | backreference (index : Nat) (caseless : Bool)
  /-- The body matches here (or, not positive, does not); nothing is consumed. -/
  | ahead (positive : Bool) (body : Regex)
  /-- The body matches `width` characters further to the front (or does not). -/
  | behind (width : Nat) (positive : Bool) (body : Regex)
  deriving DecidableEq, Repr

/-- The least and the greatest number of characters consumed; `none` is no bound. -/
structure Width where
  least : Nat
  greatest : Option Nat
  deriving DecidableEq, Repr

namespace Width

/-- The width of something that consumes exactly a number of characters. -/
def exactly (count : Nat) : Width :=
  ⟨count, some count⟩

/-- The width of two expressions one after the other. -/
def plus (first second : Width) : Width :=
  ⟨first.least + second.least,
    match first.greatest, second.greatest with
    | some m, some n => some (m + n)
    | _, _ => none⟩

/-- The width of a choice between two expressions. -/
def join (first second : Width) : Width :=
  ⟨min first.least second.least,
    match first.greatest, second.greatest with
    | some m, some n => some (max m n)
    | _, _ => none⟩

/-- The width of `low` up to `high` rounds. Any number of rounds that consume nothing consumes
nothing. -/
def times (round : Width) (low : Nat) (high : Option Nat) : Width :=
  ⟨low * round.least,
    match round.greatest, high with
    | some 0, _ => some 0
    | _, some 0 => some 0
    | some m, some n => some (m * n)
    | _, _ => none⟩

end Width

namespace Regex

/-- The expressions one after the other. -/
def ofList : List Regex → Regex
  | [] => .empty
  | [last] => last
  | first :: rest => .sequence first (ofList rest)

/-- The first of the expressions that leads to a match. -/
def anyOf : List Regex → Regex
  | [] => .empty
  | [last] => last
  | first :: rest => .choice first (anyOf rest)

/-- How many characters an expression consumes, given the widths of the groups that its
backreferences name. -/
def width (groups : List (Nat × Width)) : Regex → Width
  | .empty => .exactly 0
  | .one _ => .exactly 1
  | .anchor _ => .exactly 0
  | .sequence first second => (first.width groups).plus (second.width groups)
  | .choice first second => (first.width groups).join (second.width groups)
  | .repetition body low high _ => (body.width groups).times low high
  | .capture _ body => body.width groups
  | .atomic body => body.width groups
  | .backreference index _ => (groups.lookup index).getD ⟨0, none⟩
  | .ahead _ _ => .exactly 0
  | .behind _ _ _ => .exactly 0

end Regex

end Rpn
