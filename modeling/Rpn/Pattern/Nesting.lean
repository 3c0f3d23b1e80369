import Rpn.Pattern.Lexeme

/-!
# From lexemes to expressions

The lexemes of a pattern are read from left to right with a stack of open groups. Each open group
keeps the alternatives that are complete and the items of the current one; a closing bracket turns
the group into an item of the group around it.
-/

namespace Rpn

/-- What a repetition may do with the item in front of it. -/
inductive Standing where
  | repeatable
  /-- A mere place, which cannot be repeated. -/
  | place
  /-- Already a repetition. -/
  | repetition
  deriving DecidableEq, Repr

/-- A group that waits for its closing bracket, or the whole pattern. -/
inductive OpenKind where
  | whole
  | plain
  | capture (index : Nat)
  | atomic
  | ahead (positive : Bool)
  /-- With the number of groups that had been opened in front of it. -/
  | behind (positive : Bool) (groupsBefore : Nat)
  deriving DecidableEq, Repr

/-- An open group: its finished alternatives and the items of the current one, the latest first. -/
structure OpenGroup where
  kind : OpenKind
  choices : List Regex
  items : List (Regex × Standing)
  deriving Repr

namespace OpenGroup

/-- A group with nothing in it yet. -/
def ofKind (kind : OpenKind) : OpenGroup :=
  ⟨kind, [], []⟩

/-- The current alternative. -/
def current (group : OpenGroup) : Regex :=
  .ofList (group.items.reverse.map (·.1))

/-- The group with one more item. -/
def add (group : OpenGroup) (regex : Regex) (standing : Standing) : OpenGroup :=
  { group with items := (regex, standing) :: group.items }

/-- The group with its current alternative finished. -/
def nextChoice (group : OpenGroup) : OpenGroup :=
  { group with choices := group.current :: group.choices, items := [] }

/-- The expression between the brackets of the group. -/
def body (group : OpenGroup) : Regex :=
  .anyOf (group.current :: group.choices).reverse

/-- The group with its last item repeated. -/
def repeatLast (group : OpenGroup) (low : Nat) (high : Option Nat) (greed : Greed) :
    Except PatternError OpenGroup :=
  match group.items with
  | [] => .error .nothingToRepeat
  | (_, .place) :: _ => .error .nothingToRepeat
  | (_, .repetition) :: _ => .error .repeatedTwice
  | (last, .repeatable) :: earlier =>
      .ok { group with items := (.repetition last low high greed, .repetition) :: earlier }

end OpenGroup

/-- A pattern that is being read. -/
structure Nesting where
  /-- The innermost open group. -/
  inner : OpenGroup
  /-- The open groups around it, the nearest first. -/
  outer : List OpenGroup
  groupCount : Nat
  names : List (String × Nat)
  /-- The widths of the complete capturing groups. -/
  widths : List (Nat × Width)
  deriving Repr

namespace Nesting

/-- A pattern of which nothing has been read. -/
def start : Nesting :=
  ⟨.ofKind .whole, [], 0, [], []⟩

/-- The number of groups opened in front of the outermost expression that looks behind, if the
place is inside of one. -/
def groupsBeforeLookbehind (nesting : Nesting) : Option Nat :=
  (nesting.inner :: nesting.outer).foldl (fun found group =>
    match group.kind with
    | .behind _ count => some count
    | _ => found) none

/-- The nesting with one more item in the innermost group. -/
def add (nesting : Nesting) (regex : Regex) (standing : Standing) : Nesting :=
  { nesting with inner := nesting.inner.add regex standing }

/-- The nesting inside of one more group. -/
def enter (nesting : Nesting) (kind : OpenKind) : Nesting :=
  { nesting with inner := .ofKind kind, outer := nesting.inner :: nesting.outer }

/-- The nesting inside of one more capturing group. -/
def enterCapture (nesting : Nesting) (name : Option String) : Except PatternError Nesting :=
  let index := nesting.groupCount + 1
  let inside := { nesting.enter (.capture index) with groupCount := index }
  match name with
  | none => .ok inside
  | some name =>
      if (nesting.names.lookup name).isSome then .error .badGroupName
      else .ok { inside with names := (name, index) :: nesting.names }

/-- The nesting with a backreference. The group must be complete, and inside of an expression that
looks behind it must have been complete in front of that expression. -/
def refer (nesting : Nesting) (caseless : Bool) (index : Nat) : Except PatternError Nesting :=
  let complete := (nesting.widths.lookup index).isSome
  let inFront := nesting.groupsBeforeLookbehind.all (index ≤ ·)
  if complete && inFront then .ok (nesting.add (.backreference index caseless) .repeatable)
  else .error .badReference

/-- The item that a complete group is. -/
def closed (widths : List (Nat × Width)) (group : OpenGroup) : Except PatternError Regex :=
  let body := group.body
  match group.kind with
  | .whole => .error .closedTooOften
  | .plain => .ok body
  | .capture index => .ok (.capture index body)
  | .atomic => .ok (.atomic body)
  | .ahead positive => .ok (.ahead positive body)
  | .behind positive _ =>
      let width := body.width widths
      if width.greatest = some width.least then .ok (.behind width.least positive body)
      else .error .variableWidth

/-- The nesting with the innermost group complete. -/
def leave (nesting : Nesting) : Except PatternError Nesting :=
  match nesting.outer with
  | [] => .error .closedTooOften
  | outer :: rest => do
      let item ← closed nesting.widths nesting.inner
      let widths := match nesting.inner.kind with
        | .capture index => (index, nesting.inner.body.width nesting.widths) :: nesting.widths
        | _ => nesting.widths
      .ok { nesting with inner := outer.add item .repeatable, outer := rest, widths }

/-- The nesting after one more lexeme. -/
def step (caseless : Bool) (nesting : Nesting) (lexeme : Lexeme) : Except PatternError Nesting :=
  match lexeme with
  | .one set => .ok (nesting.add (.one set) .repeatable)
  | .anchor place => .ok (nesting.add (.anchor place) .place)
  | .numberReference index => nesting.refer caseless index
  | .nameReference name =>
      match nesting.names.lookup name with
      | some index => nesting.refer caseless index
      | none => .error .badReference
  | .opening (.group name) => nesting.enterCapture name
  | .opening .plain => .ok (nesting.enter .plain)
  | .opening .atomic => .ok (nesting.enter .atomic)
  | .opening (.ahead positive) => .ok (nesting.enter (.ahead positive))
  | .opening (.behind positive) => .ok (nesting.enter (.behind positive nesting.groupCount))
  | .closing => nesting.leave
  | .bar => .ok { nesting with inner := nesting.inner.nextChoice }
  | .repetition low high greed => do
      let inner ← nesting.inner.repeatLast low high greed
      .ok { nesting with inner }

/-- The expression that lexemes stand for, and the number of its groups. -/
def ofLexemes (caseless : Bool) (lexemes : List Lexeme) : Except PatternError (Regex × Nat) := do
  let nesting ← lexemes.foldlM (step caseless) start
  match nesting.outer with
  | [] => .ok (nesting.inner.body, nesting.groupCount)
  | _ :: _ => .error .openGroup

end Nesting

end Rpn
