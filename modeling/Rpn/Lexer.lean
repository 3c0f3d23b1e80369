import Rpn.Pattern
import Rpn.Token

/-!
# Splitting a text into tokens

A lexer is a list of rules. At a cursor the first rule wins whose pattern matches at least one
character there; it need not be the rule with the longest match. The winner's match becomes a
token, unless the rule's transform drops it, and the cursor moves behind the match.

`Lexer.scan` repeats this up to the end of the text, and stops early where no rule matches or a
transform fails. It ends because each match takes at least one character.
-/

namespace Rpn

/-- Why a transform gives no token. -/
inductive TransformFault where
  /-- It asked for a group that the pattern does not have. -/
  | noSuchGroup
  /-- It answered with something other than a text. -/
  | notText
  deriving DecidableEq, Repr

/-- What a transform makes of a match. -/
inductive Transformed where
  | value (text : String)
  | dropped
  | failed (fault : TransformFault)
  deriving DecidableEq, Repr

/-- A pattern, the tag of the tokens that it recognizes, and what is done with a match. -/
structure Rule where
  pattern : Pattern
  tag : String
  transform : Option (Match → Transformed)

namespace Rule

/-- The transform that drops every match. -/
def discard (_ : Match) : Transformed :=
  .dropped

/-- The value that a match gives: the matched text, unless there is a transform. -/
def apply (rule : Rule) (found : Match) : Transformed :=
  match rule.transform with
  | none => .value found.text
  | some transform => transform found

/-- The match of a rule at a place, if it takes at least one character. -/
def match? (rule : Rule) (cursor : Cursor) : Option Match :=
  (rule.pattern.match? cursor).filter Match.consumes

end Rule

/-- Why a scan stops in front of the end. -/
inductive ScanFault where
  /-- No rule matches at a position. -/
  | noRule (position : Nat)
  | transform (fault : TransformFault)
  deriving DecidableEq, Repr

/-- The tokens that a scan found, and why it stopped if it did not reach the end. -/
structure Scan where
  tokens : List Token
  fault : Option ScanFault
  deriving DecidableEq, Repr

namespace Scan

/-- The scan of nothing. -/
def complete : Scan :=
  ⟨[], none⟩

/-- A scan that found one more token in front. -/
def cons (token : Token) (scan : Scan) : Scan :=
  { scan with tokens := token :: scan.tokens }

/-- The tokens of a scan that reached the end. -/
def result (scan : Scan) : Except ScanFault (List Token) :=
  match scan.fault with
  | none => .ok scan.tokens
  | some fault => .error fault

theorem tokens_of_result_eq_ok {scan : Scan} {tokens : List Token}
    (succeeded : scan.result = .ok tokens) : scan.tokens = tokens := by
  rcases scan with ⟨_, _ | _⟩ <;> simp_all [result]

end Scan

/-- Rules in the order in which they are tried. -/
abbrev Lexer := List Rule

namespace Lexer

/-- The first rule that takes at least one character at a place, and its match. -/
def firstMatch? (rules : Lexer) (cursor : Cursor) : Option (Rule × Match) :=
  rules.findSome? fun rule => (rule.match? cursor).map (rule, ·)

theorem isBefore_of_firstMatch? {rules : Lexer} {cursor : Cursor} {rule : Rule} {found : Match}
    (first : rules.firstMatch? cursor = some (rule, found)) :
    cursor.isBefore found.last = true := by
  obtain ⟨candidate, -, matched⟩ := List.exists_of_findSome?_eq_some first
  simp only [Rule.match?, Option.map_eq_some_iff, Option.filter_eq_some_iff, Prod.mk.injEq]
    at matched
  obtain ⟨_, ⟨found', consumes⟩, rfl, rfl⟩ := matched
  simp only [Pattern.match?, Option.map_eq_some_iff] at found'
  obtain ⟨_, _, rfl⟩ := found'
  exact consumes

/-- The tokens from a place on. -/
def scanFrom (rules : Lexer) (cursor : Cursor) : Scan :=
  match cursor.after with
  | [] => .complete
  | _ :: _ =>
      match first : rules.firstMatch? cursor with
      | none => ⟨[], some (.noRule cursor.position)⟩
      | some (rule, found) =>
          have := isBefore_of_firstMatch? first
          match rule.apply found with
          | .value text => .cons ⟨text, rule.tag⟩ (scanFrom rules found.last)
          | .dropped => scanFrom rules found.last
          | .failed fault => ⟨[], some (.transform fault)⟩
termination_by cursor.after.length
decreasing_by
  all_goals simpa [Cursor.isBefore] using this

/-- The scan from a place that is not the end, by what the first matching rule does. -/
theorem scanFrom_of_ne_nil (rules : Lexer) {cursor : Cursor} (more : cursor.after ≠ []) :
    rules.scanFrom cursor =
      match rules.firstMatch? cursor with
      | none => ⟨[], some (.noRule cursor.position)⟩
      | some (rule, found) =>
          match rule.apply found with
          | .value text => .cons ⟨text, rule.tag⟩ (rules.scanFrom found.last)
          | .dropped => rules.scanFrom found.last
          | .failed fault => ⟨[], some (.transform fault)⟩ := by
  rw [scanFrom]
  split
  · contradiction
  · split <;> simp_all

/-- The tokens of a text. -/
def scan (rules : Lexer) (text : String) : Scan :=
  rules.scanFrom (.start text.toList)

end Lexer

end Rpn
