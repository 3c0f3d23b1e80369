import Rpn.Error
import Rpn.Grammar

/-!
# Conversion into reverse Polish order

An infix sequence of tokens is read once, from left to right. Values go to the output at once.
Functions, operators and opening brackets wait on a stack: an operator first releases the operators
on top that bind at least as tightly (more tightly, if it groups to the right), a separator
releases everything down to the opening bracket, and a closing bracket also removes that bracket
and releases the function in front of it. At the end everything left on the stack is released.

A conversion is the sequence of its moves, the `Event`s, together with the stack that it leaves or
the cause of its failure. The output is what the events emit; the stack's top is its first element.
-/

namespace Rpn

/-- One move of a conversion. -/
inductive Event where
  /-- A token is put on the stack. -/
  | pushed (token : Token)
  /-- The token on top of the stack is taken away. -/
  | popped (token : Token)
  /-- There is no token to take from the stack. -/
  | poppedNothing
  /-- A token is put to the end of the output. -/
  | emitted (token : Token)
  /-- A token without a role is passed over. -/
  | ignored (token : Token)
  deriving DecidableEq, Repr

namespace Event

/-- The move in words. -/
def describe : Event → String
  | .pushed token => "Push " ++ token.value ++ " into the operator stack."
  | .popped token => "Pop " ++ token.value ++ " from the operator stack."
  | .poppedNothing => "Pop NULL from the operator stack."
  | .emitted token => "Push " ++ token.value ++ " to the output queue."
  | .ignored token =>
      "Ignore " ++ token.value ++ " of unclassified type " ++ token.tag ++ "."

/-- The token that the move puts to the output. -/
def output? : Event → Option Token
  | .emitted token => some token
  | _ => none

@[simp]
theorem output?_pushed (token : Token) : (pushed token).output? = none := rfl

@[simp]
theorem output?_popped (token : Token) : (popped token).output? = none := rfl

@[simp]
theorem output?_poppedNothing : poppedNothing.output? = none := rfl

@[simp]
theorem output?_emitted (token : Token) : (emitted token).output? = some token := rfl

@[simp]
theorem output?_ignored (token : Token) : (ignored token).output? = none := rfl

end Event

/-- Some moves of a conversion, and the stack after them or the cause of failure. -/
structure Conversion where
  events : List Event
  stack : Except Cause (List Token)

namespace Conversion

/-- No move. -/
def idle (stack : List Token) : Conversion :=
  ⟨[], .ok stack⟩

/-- Further moves, made from the stack that the first ones leave. -/
def andThen (first : Conversion) (next : List Token → Conversion) : Conversion :=
  match first.stack with
  | .ok stack =>
      let second := next stack
      ⟨first.events ++ second.events, second.stack⟩
  | .error cause => ⟨first.events, .error cause⟩

/-- The tokens emitted so far. -/
def output (conversion : Conversion) : List Token :=
  conversion.events.filterMap Event.output?

/-- The tokens in reverse Polish order, if the conversion succeeded. -/
def rpn (conversion : Conversion) : Except Cause (List Token) :=
  conversion.stack.map fun _ => conversion.output

/-- The moves that take tokens from the stack and emit them. -/
def release (tokens : List Token) : List Event :=
  tokens.flatMap fun token => [.popped token, .emitted token]

/-- Releasing tokens emits just these, in their order. -/
@[simp]
theorem filterMap_output?_release (tokens : List Token) :
    (release tokens).filterMap Event.output? = tokens := by
  induction tokens with
  | nil => rfl
  | cons token tokens ih =>
      simp only [release, List.flatMap_cons, List.filterMap_append] at ih ⊢
      simp [List.filterMap_cons, ih]

@[simp]
theorem idle_andThen (stack : List Token) (next : List Token → Conversion) :
    (idle stack).andThen next = next stack := by
  simp [idle, andThen]

theorem andThen_assoc (first : Conversion) (second third : List Token → Conversion) :
    (first.andThen second).andThen third =
      first.andThen fun stack => (second stack).andThen third := by
  obtain ⟨events, _ | stack⟩ := first
  · rfl
  · simp only [andThen]
    split <;> simp_all

/-- Moves go on to the end just if the first ones and the further ones do. -/
theorem andThen_eq_ok_iff {first : Conversion} {next : List Token → Conversion}
    {events : List Event} {last : List Token} :
    first.andThen next = ⟨events, .ok last⟩ ↔
      ∃ before stack later, first = ⟨before, .ok stack⟩ ∧ next stack = ⟨later, .ok last⟩ ∧
        events = before ++ later := by
  obtain ⟨before, _ | stack⟩ := first
  · simp [andThen]
  · simp only [andThen, mk.injEq, Except.ok.injEq]
    constructor
    · rintro ⟨rfl, ended⟩
      exact ⟨before, stack, (next stack).events, ⟨rfl, rfl⟩, by rw [← ended], rfl⟩
    · rintro ⟨_, _, later, ⟨rfl, rfl⟩, ended, rfl⟩
      simp [ended]

end Conversion

namespace Grammar

variable (grammar : Grammar)

/-- Whether a token plays a role. -/
def plays (role : Role) (token : Token) : Bool :=
  grammar.roleOf token = some role

/-- Whether a token is an opening or a closing bracket. -/
def isBracket (token : Token) : Bool :=
  grammar.plays .openBracket token || grammar.plays .closeBracket token

/-- Whether an operator of a precedence, grouping to one side, lets the token on top of the stack
go first. -/
def yieldsTo (precedence : Int) (side : Associativity) (top : Token) : Bool :=
  grammar.plays .operator top &&
    match grammar.precedenceOf top, side with
    | some other, .left => precedence ≤ other
    | some other, .right => precedence < other
    | none, _ => false

/-- The operator on top of the stack, if it has no precedence to compare with. -/
def undecided? : List Token → Option Token
  | [] => none
  | top :: _ =>
      if grammar.plays .operator top && (grammar.precedenceOf top).isNone then some top else none

/-- The moves for an operator. -/
def onOperator (stack : List Token) (token : Token) : Conversion :=
  match grammar.precedenceOf token with
  | none => ⟨[], .error (.unknownOperator token.value)⟩
  | some precedence =>
      let yields := grammar.yieldsTo precedence (grammar.associativityOf token)
      let released := Conversion.release (stack.takeWhile yields)
      let rest := stack.dropWhile yields
      match grammar.undecided? rest with
      | some top => ⟨released, .error (.unknownOperator top.value)⟩
      | none => ⟨released ++ [.pushed token], .ok (token :: rest)⟩

/-- The moves for a separator of parameters. -/
def onSeparator (stack : List Token) : Conversion :=
  let inside := fun token => !grammar.plays .openBracket token
  let released := Conversion.release (stack.takeWhile inside)
  match stack.dropWhile inside with
  | [] => ⟨released, .error .unmatchedSeparator⟩
  | rest => ⟨released, .ok rest⟩

/-- The moves that let a function follow its parameters, if one is on top of the stack. -/
def onCallEnd : List Token → Conversion
  | [] => .idle []
  | top :: rest =>
      if grammar.plays .function top then ⟨[.popped top, .emitted top], .ok rest⟩
      else .idle (top :: rest)

/-- The moves for a closing bracket. -/
def onCloseBracket (stack : List Token) : Conversion :=
  let inside := fun token => !grammar.plays .openBracket token
  let released := Conversion.release (stack.takeWhile inside)
  match stack.dropWhile inside with
  | [] => ⟨released ++ [.poppedNothing], .error .unmatchedBracket⟩
  | bracket :: rest =>
      Conversion.andThen ⟨released ++ [.popped bracket], .ok rest⟩ grammar.onCallEnd

/-- The moves for the next token. -/
def step (stack : List Token) (token : Token) : Conversion :=
  match grammar.roleOf token with
  | none => ⟨[.ignored token], .ok stack⟩
  | some .value => ⟨[.emitted token], .ok stack⟩
  | some .function => ⟨[.pushed token], .ok (token :: stack)⟩
  | some .operator => grammar.onOperator stack token
  | some .separator => grammar.onSeparator stack
  | some .openBracket => ⟨[.pushed token], .ok (token :: stack)⟩
  | some .closeBracket => grammar.onCloseBracket stack

/-- The moves for a sequence of tokens. -/
def feed (stack : List Token) : List Token → Conversion
  | [] => .idle stack
  | token :: tokens => (grammar.step stack token).andThen fun next => feed next tokens

/-- Two sequences, one after the other. -/
theorem feed_append (stack first second : List Token) :
    grammar.feed stack (first ++ second) =
      (grammar.feed stack first).andThen fun next => grammar.feed next second := by
  induction first generalizing stack with
  | nil => simp [feed]
  | cons token first ih => simp [feed, Conversion.andThen_assoc, ih]

/-- The moves after the last token. -/
def drain (stack : List Token) : Conversion :=
  let free := fun token => !grammar.isBracket token
  let released := Conversion.release (stack.takeWhile free)
  match stack.dropWhile free with
  | [] => ⟨released, .ok []⟩
  | bracket :: _ => ⟨released ++ [.popped bracket], .error .mismatchedBrackets⟩

/-- The whole conversion of a sequence of tokens. -/
def conversion (tokens : List Token) : Conversion :=
  (grammar.feed [] tokens).andThen grammar.drain

end Grammar

end Rpn
