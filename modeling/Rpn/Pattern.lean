import Rpn.Pattern.Nesting
import Rpn.Pattern.Search

/-!
# Patterns

A pattern is a regular expression together with the text that it was read from. It is matched at
a cursor, so anchors and expressions that look behind see the whole text around the match.

`Pattern.read` turns a text into a pattern or says why it is none; `Pattern.match?` finds the
preferred match at a place.
-/

namespace Rpn

/-- A regular expression and the text that it was read from. -/
structure Pattern where
  source : String
  regex : Regex
  groupCount : Nat
  deriving DecidableEq, Repr

/-- A match: the places where it starts and ends, and the texts of its groups. -/
structure Match where
  first : Cursor
  last : Cursor
  groups : List (Nat × List Char)
  groupCount : Nat
  deriving DecidableEq, Repr

namespace Match

/-- The matched characters. -/
def chars (found : Match) : List Char :=
  found.first.textUntil found.last

/-- The matched text. -/
def text (found : Match) : String :=
  String.ofList found.chars

/-- The match takes at least one character. -/
def consumes (found : Match) : Bool :=
  found.first.isBefore found.last

/-- The text of a group: the whole match for number zero, `none` if the pattern has no such group,
and `some none` if the group took no part. -/
def group? (found : Match) (index : Nat) : Option (Option String) :=
  if index = 0 then some (some found.text)
  else if index ≤ found.groupCount then some ((found.groups.lookup index).map String.ofList)
  else none

end Match

namespace Pattern

/-- The options given by letters in brackets, such as `(?im)`, in front of a pattern, and the text
behind them. Brackets that hold anything else are left in place. -/
def leadingFlags (flags : PatternFlags) : Nat → List Char → PatternFlags × List Char
  | 0, text => (flags, text)
  | fuel + 1, text =>
      match Lexeme.skip? flags text, text with
      | some rest, _ => leadingFlags flags fuel rest
      | none, '(' :: '?' :: inside =>
          let letters := inside.takeWhile (· != ')')
          match letters, inside.dropWhile (· != ')'), letters.foldlM PatternFlags.add? flags with
          | _ :: _, _ :: rest, some flags => leadingFlags flags fuel rest
          | _, _, _ => (flags, text)
      | none, _ => (flags, text)

/-- The pattern that a text stands for under the given options. -/
def readWith (flags : PatternFlags) (source : String) : Except PatternError Pattern := do
  let text := source.toList
  let (flags, text) := leadingFlags flags text.length text
  let lexemes ← Lexeme.ofText flags text
  let (regex, groupCount) ← Nesting.ofLexemes flags.caseless lexemes
  .ok ⟨source, regex, groupCount⟩

/-- The pattern that a text stands for. -/
def read (source : String) : Except PatternError Pattern :=
  readWith .none source

/-- The preferred match at a place. -/
def match? (pattern : Pattern) (cursor : Cursor) : Option Match :=
  (pattern.regex.search ⟨cursor, []⟩ some).map fun found =>
    ⟨cursor, found.cursor, found.groups, pattern.groupCount⟩

/-- Whether the pattern matches in the empty text. -/
def matchesEmpty (pattern : Pattern) : Bool :=
  (pattern.match? (.start [])).isSome

end Pattern

end Rpn
