import Rpn.Pattern.Cursor
import Rpn.Pattern.Regex

/-!
# Backtracking search

`Regex.search` looks for the first way, in the order of preference that the expression states, in
which an expression matches at a place and what is asked for afterwards succeeds. What is asked
for afterwards is a function: the rest of the expression, and in the end `some`.

The search is structurally recursive in the expression. A repetition has as many optional rounds
as there are characters left, and one more, because a round that consumes nothing is the last.
-/

namespace Rpn

/-- How far a search has come: its place, and the texts kept by groups, the latest first. -/
structure Progress where
  cursor : Cursor
  groups : List (Nat × List Char)
  deriving DecidableEq, Repr

namespace Progress

/-- The text that a group kept last. -/
def group? (progress : Progress) (index : Nat) : Option (List Char) :=
  progress.groups.lookup index

/-- The place after some rounds is not the place before them. -/
def hasMoved (first last : Progress) : Bool :=
  first.cursor.isBefore last.cursor

/-- The number of optional rounds that a repetition may still take. -/
def roundsLeft (progress : Progress) (low : Nat) (high : Option Nat) : Nat :=
  let bound := progress.cursor.after.length + 1
  match high with
  | some high => min (high - low) bound
  | none => bound

/-- The progress with the text since an earlier one kept as a group. -/
def keep (index : Nat) (first last : Progress) : Progress :=
  { last with groups := (index, first.cursor.textUntil last.cursor) :: last.groups }

end Progress

/-- Whether a place meets the condition. In the empty text there is no word boundary, and no other
place either. -/
def Anchor.holds (anchor : Anchor) (cursor : Cursor) : Bool :=
  match anchor with
  | .textStart => cursor.before.isEmpty
  | .lineStart => cursor.before.head?.all (· == '\n')
  | .textEnd => cursor.after.isEmpty
  | .lastLineEnd => cursor.after.isEmpty || cursor.after == ['\n']
  | .lineEnd => cursor.after.head?.all (· == '\n')
  | .wordBoundary ascii negated =>
      let isWord := fun c => CharKind.word.holds ascii c
      let crossing := cursor.before.head?.any isWord != cursor.after.head?.any isWord
      !(cursor.before.isEmpty && cursor.after.isEmpty) && crossing != negated

/-- What is asked for after a match. -/
abbrev Goal := Progress → Option Progress

/-- A search for a match that reaches a goal. -/
abbrev Search := Progress → Goal → Option Progress

namespace Search

/-- Exactly a number of rounds. -/
def rounds (body : Search) : Nat → Search
  | 0, progress, goal => goal progress
  | count + 1, progress, goal => body progress fun moved => rounds body count moved goal

/-- At most a number of rounds, more of them preferred. -/
def greedy (body : Search) : Nat → Search
  | 0, progress, goal => goal progress
  | count + 1, progress, goal =>
      let another := body progress fun moved =>
        if progress.hasMoved moved then greedy body count moved goal else goal moved
      match another with
      | some found => some found
      | none => goal progress

/-- At most a number of rounds, fewer of them preferred. -/
def reluctant (body : Search) : Nat → Search
  | 0, progress, goal => goal progress
  | count + 1, progress, goal =>
      match goal progress with
      | some found => some found
      | none =>
          body progress fun moved =>
            if progress.hasMoved moved then reluctant body count moved goal else goal moved

/-- Exactly a number of rounds, each final once it has succeeded. -/
def finalRounds (body : Search) : Nat → Progress → Option Progress
  | 0, progress => some progress
  | count + 1, progress => (body progress some).bind (finalRounds body count)

/-- As many rounds as possible up to a number, each final once it has succeeded. -/
def exhaust (body : Search) : Nat → Progress → Progress
  | 0, progress => progress
  | count + 1, progress =>
      match body progress some with
      | none => progress
      | some moved => if progress.hasMoved moved then exhaust body count moved else moved

/-- A repetition of the body. -/
def repeated (body : Search) (low : Nat) (high : Option Nat) (greed : Greed) : Search :=
  fun progress goal =>
    match greed with
    | .greedy =>
        rounds body low progress fun moved =>
          greedy body (moved.roundsLeft low high) moved goal
    | .reluctant =>
        rounds body low progress fun moved =>
          reluctant body (moved.roundsLeft low high) moved goal
    | .possessive =>
        (finalRounds body low progress).bind fun moved =>
          goal (exhaust body (moved.roundsLeft low high) moved)

end Search

/-- The comparison of a character with one kept by a group. -/
def sameLetter (caseless : Bool) (kept c : Char) : Bool :=
  kept == c || (caseless && otherCase kept == c)

/-- The first match of an expression that reaches the goal. -/
def Regex.search (regex : Regex) (progress : Progress) (goal : Goal) : Option Progress :=
  match regex with
  | .empty => goal progress
  | .one set =>
      match progress.cursor.next? with
      | some (c, cursor) => if set.accepts c then goal { progress with cursor } else none
      | none => none
  | .anchor place => if place.holds progress.cursor then goal progress else none
  | .sequence first second => first.search progress fun moved => second.search moved goal
  | .choice first second =>
      match first.search progress goal with
      | some found => some found
      | none => second.search progress goal
  | .repetition body low high greed =>
      Search.repeated (fun progress goal => body.search progress goal) low high greed progress goal
  | .capture index body => body.search progress fun moved => goal (progress.keep index moved)
  | .atomic body => (body.search progress some).bind goal
  | .backreference index caseless =>
      match progress.group? index with
      | none => none
      | some kept =>
          match progress.cursor.skip? (sameLetter caseless) kept with
          | some cursor => goal { progress with cursor }
          | none => none
  | .ahead positive body =>
      match positive, body.search progress some with
      | true, some found => goal { progress with groups := found.groups }
      | false, none => goal progress
      | _, _ => none
  | .behind width positive body =>
      let found := (progress.cursor.back? width).bind fun cursor =>
        body.search { progress with cursor } some
      match positive, found with
      | true, some found => goal { progress with groups := found.groups }
      | false, none => goal progress
      | _, _ => none

end Rpn
