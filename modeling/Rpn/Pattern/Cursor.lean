/-!
# Cursors

A cursor is a place in a text. It keeps the characters on both of its sides, so that the text in
front of the cursor can be inspected as well as the text that follows. Moving a cursor never
changes the text that it stands in.
-/

namespace Rpn

/-- A place in a text: the characters in front of it, the nearest first, and those after it. -/
structure Cursor where
  before : List Char
  after : List Char
  deriving DecidableEq, Repr

namespace Cursor

/-- The place in front of a text. -/
def start (text : List Char) : Cursor :=
  ⟨[], text⟩

/-- The whole text that the cursor stands in. -/
def text (cursor : Cursor) : List Char :=
  cursor.before.reverse ++ cursor.after

/-- The number of characters in front of the cursor. -/
def position (cursor : Cursor) : Nat :=
  cursor.before.length

/-- The next character and the place behind it. -/
def next? (cursor : Cursor) : Option (Char × Cursor) :=
  match cursor.after with
  | [] => none
  | c :: after => some (c, ⟨c :: cursor.before, after⟩)

/-- The place behind the given characters, if they are the next ones. -/
def skip? (same : Char → Char → Bool) : List Char → Cursor → Option Cursor
  | [], cursor => some cursor
  | expected :: rest, cursor =>
      match cursor.next? with
      | some (c, moved) => if same expected c then skip? same rest moved else none
      | none => none

/-- The place a number of characters further to the front. -/
def back? : Nat → Cursor → Option Cursor
  | 0, cursor => some cursor
  | count + 1, ⟨c :: before, after⟩ => back? count ⟨before, c :: after⟩
  | _ + 1, ⟨[], _⟩ => none

/-- The characters from a place up to a later place of the same text. -/
def textUntil (first last : Cursor) : List Char :=
  first.after.take (first.after.length - last.after.length)

/-- The second place stands strictly behind the first, both in the same text. -/
def isBefore (first last : Cursor) : Bool :=
  last.after.length < first.after.length

@[simp]
theorem text_start (text : List Char) : (start text).text = text := by
  simp [start, Cursor.text]

@[simp]
theorem position_start (text : List Char) : (start text).position = 0 := rfl

theorem text_next {cursor moved : Cursor} {c : Char} (step : cursor.next? = some (c, moved)) :
    moved.text = cursor.text := by
  obtain ⟨before, after⟩ := cursor
  cases after with
  | nil => simp [next?] at step
  | cons d after =>
      simp only [next?, Option.some.injEq, Prod.mk.injEq] at step
      obtain ⟨rfl, rfl⟩ := step
      simp [text]

theorem position_next {cursor moved : Cursor} {c : Char} (step : cursor.next? = some (c, moved)) :
    moved.position = cursor.position + 1 := by
  obtain ⟨before, after⟩ := cursor
  cases after with
  | nil => simp [next?] at step
  | cons d after =>
      simp only [next?, Option.some.injEq, Prod.mk.injEq] at step
      obtain ⟨rfl, rfl⟩ := step
      simp [position]

theorem text_back {count : Nat} {cursor moved : Cursor} (step : cursor.back? count = some moved) :
    moved.text = cursor.text := by
  induction count generalizing cursor with
  | zero => simp_all [back?]
  | succ count ih =>
      obtain ⟨before, after⟩ := cursor
      cases before with
      | nil => simp [back?] at step
      | cons c before =>
          have same : moved.text = text ⟨before, c :: after⟩ := ih step
          simpa [text] using same

end Cursor

end Rpn
