import Mathlib.Data.List.Induction
import Mathlib.Data.List.TakeWhile
import Rpn.Conversion

/-!
# The moves for one token

`Moves` lists what the conversion can do with the next token when it goes on, and `Stalls` what it
can do when it fails; `step_eq_ok_iff` and `step_eq_error_iff` say that these are exactly the
moves of `step`. Both relations show the stack as the tokens that are released followed by those
that stay, so that later proofs need not look into the loops that release them.

`feed_induction` is the induction over the runs of a conversion that starts with an empty stack.
Invariants of the stack are proved for one token and carried over to all runs by it.
-/

namespace Rpn

theorem takeWhile_append_eq {α : Type} {test : α → Bool} {front back : List α}
    (passes : ∀ a ∈ front, test a = true) (stops : ∀ a ∈ back.head?, test a = false) :
    (front ++ back).takeWhile test = front := by
  rw [List.takeWhile_append_of_pos passes]
  cases back with
  | nil => simp
  | cons a back => simp [stops a (by simp)]

theorem dropWhile_append_eq {α : Type} {test : α → Bool} {front back : List α}
    (passes : ∀ a ∈ front, test a = true) (stops : ∀ a ∈ back.head?, test a = false) :
    (front ++ back).dropWhile test = back := by
  rw [List.dropWhile_append_of_pos passes]
  cases back with
  | nil => simp
  | cons a back => simp [stops a (by simp)]

/-- Every list splits into elements that pass a test and a rest that does not begin with one. -/
theorem exists_split {α : Type} (test : α → Bool) (list : List α) :
    ∃ front back, list = front ++ back ∧ (∀ a ∈ front, test a = true) ∧
      ∀ a ∈ back.head?, test a = false := by
  refine ⟨list.takeWhile test, list.dropWhile test, ?_, ?_, ?_⟩
  · exact List.takeWhile_append_dropWhile.symm
  · intro a a_mem
    exact List.mem_takeWhile_imp a_mem
  · intro a a_head
    have := List.head?_dropWhile_not test list
    simp only [Option.mem_def] at a_head
    simpa [a_head] using this

/-- There is only one such split of a list. -/
theorem split_unique {α : Type} {test : α → Bool} {front back otherFront otherBack : List α}
    (passes : ∀ a ∈ front, test a = true) (stops : ∀ a ∈ back.head?, test a = false)
    (otherPasses : ∀ a ∈ otherFront, test a = true)
    (otherStops : ∀ a ∈ otherBack.head?, test a = false)
    (same : front ++ back = otherFront ++ otherBack) : front = otherFront ∧ back = otherBack := by
  constructor
  · rw [← takeWhile_append_eq passes stops, same, takeWhile_append_eq otherPasses otherStops]
  · rw [← dropWhile_append_eq passes stops, same, dropWhile_append_eq otherPasses otherStops]

namespace Grammar

variable {grammar : Grammar}

@[simp]
theorem plays_iff {role : Role} {token : Token} :
    grammar.plays role token = true ↔ grammar.roleOf token = some role := by
  simp [plays]

@[simp]
theorem plays_eq_false_iff {role : Role} {token : Token} :
    grammar.plays role token = false ↔ grammar.roleOf token ≠ some role := by
  simp [plays]

theorem roleOf_of_yieldsTo {precedence : Int} {side : Associativity} {top : Token}
    (yields : grammar.yieldsTo precedence side top = true) :
    grammar.roleOf top = some .operator := by
  simp only [yieldsTo, Bool.and_eq_true, plays_iff] at yields
  exact yields.1

/-- Two operators can be compared unless the one on top has no precedence. -/
theorem of_undecided?_eq_some {stack : List Token} {top : Token}
    (found : grammar.undecided? stack = some top) :
    ∃ below, stack = top :: below ∧ grammar.roleOf top = some .operator ∧
      grammar.precedenceOf top = none := by
  cases stack with
  | nil => simp [undecided?] at found
  | cons first below =>
      simp only [undecided?, Bool.and_eq_true, plays_iff, Option.isNone_iff_eq_none,
        Option.ite_none_right_eq_some, Option.some.injEq] at found
      rcases found with ⟨⟨topRole, undecided⟩, rfl⟩
      exact ⟨below, rfl, topRole, undecided⟩

/-- What a token does to a stack on which the conversion goes on. -/
inductive Moves (grammar : Grammar) :
    List Token → Token → List Event → List Token → Prop where
  | ignored {stack : List Token} {token : Token} (role : grammar.roleOf token = none) :
      Moves grammar stack token [.ignored token] stack
  | value {stack : List Token} {token : Token} (role : grammar.roleOf token = some .value) :
      Moves grammar stack token [.emitted token] stack
  | function {stack : List Token} {token : Token}
      (role : grammar.roleOf token = some .function) :
      Moves grammar stack token [.pushed token] (token :: stack)
  | openBracket {stack : List Token} {token : Token}
      (role : grammar.roleOf token = some .openBracket) :
      Moves grammar stack token [.pushed token] (token :: stack)
  /-- The operators that bind at least as tightly are released. -/
  | operator {released rest : List Token} {token : Token} {precedence : Int}
      (role : grammar.roleOf token = some .operator)
      (decided : grammar.precedenceOf token = some precedence)
      (yielding : ∀ top ∈ released,
        grammar.yieldsTo precedence (grammar.associativityOf token) top = true)
      (staying : ∀ top ∈ rest.head?,
        grammar.yieldsTo precedence (grammar.associativityOf token) top = false)
      (comparable : grammar.undecided? rest = none) :
      Moves grammar (released ++ rest) token (Conversion.release released ++ [.pushed token])
        (token :: rest)
  /-- Everything above the opening bracket is released. -/
  | separator {released below : List Token} {token bracket : Token}
      (role : grammar.roleOf token = some .separator)
      (inside : ∀ top ∈ released, grammar.roleOf top ≠ some .openBracket)
      (opening : grammar.roleOf bracket = some .openBracket) :
      Moves grammar (released ++ bracket :: below) token (Conversion.release released)
        (bracket :: below)
  /-- The opening bracket goes too, and there is no function in front of it. -/
  | closeBracket {released below : List Token} {token bracket : Token}
      (role : grammar.roleOf token = some .closeBracket)
      (inside : ∀ top ∈ released, grammar.roleOf top ≠ some .openBracket)
      (opening : grammar.roleOf bracket = some .openBracket)
      (uncalled : ∀ top ∈ below.head?, grammar.roleOf top ≠ some .function) :
      Moves grammar (released ++ bracket :: below) token
        (Conversion.release released ++ [.popped bracket]) below
  /-- The function in front of the opening bracket follows its parameters. -/
  | call {released below : List Token} {token bracket function : Token}
      (role : grammar.roleOf token = some .closeBracket)
      (inside : ∀ top ∈ released, grammar.roleOf top ≠ some .openBracket)
      (opening : grammar.roleOf bracket = some .openBracket)
      (called : grammar.roleOf function = some .function) :
      Moves grammar (released ++ bracket :: function :: below) token
        (Conversion.release released ++ [.popped bracket, .popped function, .emitted function])
        below

/-- What a token does to a stack on which the conversion fails. -/
inductive Stalls (grammar : Grammar) :
    List Token → Token → List Event → Cause → Prop where
  | unknown {stack : List Token} {token : Token}
      (role : grammar.roleOf token = some .operator)
      (undecided : grammar.precedenceOf token = none) :
      Stalls grammar stack token [] (.unknownOperator token.value)
  /-- The comparison with an operator on the stack is impossible. -/
  | incomparable {released rest : List Token} {token top : Token} {precedence : Int}
      (role : grammar.roleOf token = some .operator)
      (decided : grammar.precedenceOf token = some precedence)
      (yielding : ∀ above ∈ released,
        grammar.yieldsTo precedence (grammar.associativityOf token) above = true)
      (topRole : grammar.roleOf top = some .operator)
      (undecided : grammar.precedenceOf top = none) :
      Stalls grammar (released ++ top :: rest) token (Conversion.release released)
        (.unknownOperator top.value)
  | separator {stack : List Token} {token : Token}
      (role : grammar.roleOf token = some .separator)
      (inside : ∀ top ∈ stack, grammar.roleOf top ≠ some .openBracket) :
      Stalls grammar stack token (Conversion.release stack) .unmatchedSeparator
  | closeBracket {stack : List Token} {token : Token}
      (role : grammar.roleOf token = some .closeBracket)
      (inside : ∀ top ∈ stack, grammar.roleOf top ≠ some .openBracket) :
      Stalls grammar stack token (Conversion.release stack ++ [.poppedNothing])
        .unmatchedBracket

/-- A stack holds no opening bracket, or it is cut in front of the topmost one. -/
theorem exists_bracket_or (grammar : Grammar) (stack : List Token) :
    (∀ top ∈ stack, grammar.roleOf top ≠ some .openBracket) ∨
      ∃ released bracket below, stack = released ++ bracket :: below ∧
        (∀ top ∈ released, grammar.roleOf top ≠ some .openBracket) ∧
        grammar.roleOf bracket = some .openBracket := by
  rcases exists_split (fun top => !grammar.plays .openBracket top) stack with
    ⟨released, rest, rfl, inside, opening⟩
  cases rest with
  | nil => exact Or.inl (by simpa using inside)
  | cons bracket below =>
      exact Or.inr ⟨released, bracket, below, rfl, by simpa using inside, by simpa using opening⟩

theorem onSeparator_append {released below : List Token} {bracket : Token}
    (inside : ∀ top ∈ released, grammar.roleOf top ≠ some .openBracket)
    (opening : grammar.roleOf bracket = some .openBracket) :
    grammar.onSeparator (released ++ bracket :: below) =
      ⟨Conversion.release released, .ok (bracket :: below)⟩ := by
  have passes : ∀ top ∈ released, (!grammar.plays .openBracket top) = true := by
    simpa using inside
  have stops : ∀ top ∈ (bracket :: below).head?, (!grammar.plays .openBracket top) = false := by
    simpa using opening
  simp [onSeparator, takeWhile_append_eq passes stops, dropWhile_append_eq passes stops]

theorem onSeparator_unmatched {stack : List Token}
    (inside : ∀ top ∈ stack, grammar.roleOf top ≠ some .openBracket) :
    grammar.onSeparator stack = ⟨Conversion.release stack, .error .unmatchedSeparator⟩ := by
  have passes : ∀ top ∈ stack, (!grammar.plays .openBracket top) = true := by
    simpa using inside
  simp [onSeparator, List.takeWhile_eq_self_iff.mpr passes, List.dropWhile_eq_nil_iff.mpr passes]

theorem onCloseBracket_append {released below : List Token} {bracket : Token}
    (inside : ∀ top ∈ released, grammar.roleOf top ≠ some .openBracket)
    (opening : grammar.roleOf bracket = some .openBracket) :
    grammar.onCloseBracket (released ++ bracket :: below) =
      Conversion.andThen ⟨Conversion.release released ++ [.popped bracket], .ok below⟩
        grammar.onCallEnd := by
  have passes : ∀ top ∈ released, (!grammar.plays .openBracket top) = true := by
    simpa using inside
  have stops : ∀ top ∈ (bracket :: below).head?, (!grammar.plays .openBracket top) = false := by
    simpa using opening
  simp [onCloseBracket, takeWhile_append_eq passes stops, dropWhile_append_eq passes stops]

theorem onCloseBracket_unmatched {stack : List Token}
    (inside : ∀ top ∈ stack, grammar.roleOf top ≠ some .openBracket) :
    grammar.onCloseBracket stack =
      ⟨Conversion.release stack ++ [.poppedNothing], .error .unmatchedBracket⟩ := by
  have passes : ∀ top ∈ stack, (!grammar.plays .openBracket top) = true := by
    simpa using inside
  simp [onCloseBracket, List.takeWhile_eq_self_iff.mpr passes,
    List.dropWhile_eq_nil_iff.mpr passes]

theorem onCallEnd_of_uncalled {stack : List Token}
    (uncalled : ∀ top ∈ stack.head?, grammar.roleOf top ≠ some .function) :
    grammar.onCallEnd stack = .idle stack := by
  cases stack with
  | nil => rfl
  | cons top below => simp [onCallEnd, show grammar.roleOf top ≠ _ from uncalled top (by simp)]

/-- Every token either lets the conversion go on or makes it fail. -/
theorem moves_or_stalls (grammar : Grammar) (stack : List Token) (token : Token) :
    (∃ events next, grammar.Moves stack token events next) ∨
      ∃ events cause, grammar.Stalls stack token events cause := by
  cases role : grammar.roleOf token with
  | none => exact Or.inl ⟨_, _, .ignored role⟩
  | some kind =>
      cases kind with
      | value => exact Or.inl ⟨_, _, .value role⟩
      | function => exact Or.inl ⟨_, _, .function role⟩
      | openBracket => exact Or.inl ⟨_, _, .openBracket role⟩
      | operator =>
          cases decided : grammar.precedenceOf token with
          | none => exact Or.inr ⟨_, _, .unknown role decided⟩
          | some precedence =>
              rcases exists_split
                (grammar.yieldsTo precedence (grammar.associativityOf token)) stack with
                ⟨released, rest, rfl, yielding, staying⟩
              cases comparable : grammar.undecided? rest with
              | none => exact Or.inl ⟨_, _, .operator role decided yielding staying comparable⟩
              | some top =>
                  rcases of_undecided?_eq_some comparable with ⟨below, rfl, topRole, undecided⟩
                  exact Or.inr ⟨_, _, .incomparable role decided yielding topRole undecided⟩
      | separator =>
          rcases exists_bracket_or grammar stack with
            inside | ⟨released, bracket, below, rfl, inside, opening⟩
          · exact Or.inr ⟨_, _, .separator role inside⟩
          · exact Or.inl ⟨_, _, .separator role inside opening⟩
      | closeBracket =>
          rcases exists_bracket_or grammar stack with
            inside | ⟨released, bracket, below, rfl, inside, opening⟩
          · exact Or.inr ⟨_, _, .closeBracket role inside⟩
          · by_cases uncalled : ∀ top ∈ below.head?, grammar.roleOf top ≠ some .function
            · exact Or.inl ⟨_, _, .closeBracket role inside opening uncalled⟩
            · cases below with
              | nil => simp at uncalled
              | cons function below =>
                  exact Or.inl ⟨_, _, .call role inside opening (by simpa using uncalled)⟩

theorem step_of_moves {stack next : List Token} {token : Token} {events : List Event}
    (moves : grammar.Moves stack token events next) :
    grammar.step stack token = ⟨events, .ok next⟩ := by
  cases moves with
  | ignored role => simp [step, role]
  | value role => simp [step, role]
  | function role => simp [step, role]
  | openBracket role => simp [step, role]
  | operator role decided yielding staying comparable =>
      simp [step, role, onOperator, decided, takeWhile_append_eq yielding staying,
        dropWhile_append_eq yielding staying, comparable]
  | separator role inside opening => simp [step, role, onSeparator_append inside opening]
  | closeBracket role inside opening uncalled =>
      simp [step, role, onCloseBracket_append inside opening, Conversion.andThen,
        onCallEnd_of_uncalled uncalled, Conversion.idle]
  | call role inside opening called =>
      simp [step, role, onCloseBracket_append inside opening, Conversion.andThen, onCallEnd,
        called]

theorem step_of_stalls {stack : List Token} {token : Token} {events : List Event}
    {cause : Cause} (stalls : grammar.Stalls stack token events cause) :
    grammar.step stack token = ⟨events, .error cause⟩ := by
  cases stalls with
  | unknown role undecided => simp [step, role, onOperator, undecided]
  | @incomparable released rest _ top precedence role decided yielding topRole undecided =>
      have stops : ∀ below ∈ (top :: rest).head?,
          grammar.yieldsTo precedence (grammar.associativityOf token) below = false := by
        simp [yieldsTo, undecided]
      simp [step, role, onOperator, decided, takeWhile_append_eq yielding stops,
        dropWhile_append_eq yielding stops, undecided?, topRole, undecided]
  | separator role inside => simp [step, role, onSeparator_unmatched inside]
  | closeBracket role inside => simp [step, role, onCloseBracket_unmatched inside]

/-- `Moves` is what `step` does when it goes on. -/
theorem step_eq_ok_iff {stack next : List Token} {token : Token} {events : List Event} :
    grammar.step stack token = ⟨events, .ok next⟩ ↔ grammar.Moves stack token events next := by
  refine ⟨fun stepped => ?_, step_of_moves⟩
  rcases moves_or_stalls grammar stack token with ⟨_, _, moves⟩ | ⟨_, _, stalls⟩
  · simp only [step_of_moves moves, Conversion.mk.injEq, Except.ok.injEq] at stepped
    rcases stepped with ⟨rfl, rfl⟩
    exact moves
  · simp [step_of_stalls stalls] at stepped

/-- `Stalls` is what `step` does when it fails. -/
theorem step_eq_error_iff {stack : List Token} {token : Token} {events : List Event}
    {cause : Cause} :
    grammar.step stack token = ⟨events, .error cause⟩ ↔
      grammar.Stalls stack token events cause := by
  refine ⟨fun stepped => ?_, step_of_stalls⟩
  rcases moves_or_stalls grammar stack token with ⟨_, _, moves⟩ | ⟨_, _, stalls⟩
  · simp [step_of_moves moves] at stepped
  · simp only [step_of_stalls stalls, Conversion.mk.injEq, Except.error.injEq] at stepped
    rcases stepped with ⟨rfl, rfl⟩
    exact stalls

theorem feed_cons_eq_ok_iff {stack last : List Token} {token : Token} {tokens : List Token}
    {events : List Event} :
    grammar.feed stack (token :: tokens) = ⟨events, .ok last⟩ ↔
      ∃ before next later, grammar.Moves stack token before next ∧
        grammar.feed next tokens = ⟨later, .ok last⟩ ∧ events = before ++ later := by
  simp only [feed, Conversion.andThen_eq_ok_iff, step_eq_ok_iff]

theorem feed_append_eq_ok_iff {stack last : List Token} {first second : List Token}
    {events : List Event} :
    grammar.feed stack (first ++ second) = ⟨events, .ok last⟩ ↔
      ∃ before next later, grammar.feed stack first = ⟨before, .ok next⟩ ∧
        grammar.feed next second = ⟨later, .ok last⟩ ∧ events = before ++ later := by
  simp only [feed_append, Conversion.andThen_eq_ok_iff]

theorem feed_concat_eq_ok_iff {stack last : List Token} {token : Token} {tokens : List Token}
    {events : List Event} :
    grammar.feed stack (tokens ++ [token]) = ⟨events, .ok last⟩ ↔
      ∃ before next later, grammar.feed stack tokens = ⟨before, .ok next⟩ ∧
        grammar.Moves next token later last ∧ events = before ++ later := by
  simp [feed_append_eq_ok_iff, Conversion.andThen_eq_ok_iff, step_eq_ok_iff, feed,
    Conversion.idle]

/-- What holds before a run and is kept by each of its steps holds at its end. The run up to a step
is at hand there, for what is already known of it. -/
theorem feed_induction {motive : List Token → List Event → List Token → Prop}
    {start last : List Token} {tokens : List Token} {events : List Event}
    (initial : motive [] [] start)
    (further : ∀ {consumed before stack token later next},
      grammar.feed start consumed = ⟨before, .ok stack⟩ → motive consumed before stack →
        grammar.Moves stack token later next →
          motive (consumed ++ [token]) (before ++ later) next)
    (fed : grammar.feed start tokens = ⟨events, .ok last⟩) : motive tokens events last := by
  induction tokens using List.reverseRecOn generalizing events last with
  | nil =>
      simp only [feed, Conversion.idle, Conversion.mk.injEq, Except.ok.injEq] at fed
      rcases fed with ⟨rfl, rfl⟩
      exact initial
  | append_singleton tokens token ih =>
      rcases feed_concat_eq_ok_iff.mp fed with ⟨before, stack, later, prior, moves, rfl⟩
      exact further prior (ih prior) moves

theorem drain_of_free {stack : List Token}
    (free : ∀ token ∈ stack, grammar.isBracket token = false) :
    grammar.drain stack = ⟨Conversion.release stack, .ok []⟩ := by
  have passes : ∀ token ∈ stack, (!grammar.isBracket token) = true := by
    simpa using free
  simp [drain, List.takeWhile_eq_self_iff.mpr passes, List.dropWhile_eq_nil_iff.mpr passes]

theorem drain_of_bracket {released below : List Token} {bracket : Token}
    (free : ∀ token ∈ released, grammar.isBracket token = false)
    (found : grammar.isBracket bracket = true) :
    grammar.drain (released ++ bracket :: below) =
      ⟨Conversion.release released ++ [.popped bracket], .error .mismatchedBrackets⟩ := by
  have passes : ∀ token ∈ released, (!grammar.isBracket token) = true := by
    simpa using free
  have stops : ∀ token ∈ (bracket :: below).head?, (!grammar.isBracket token) = false := by
    simpa using found
  simp [drain, takeWhile_append_eq passes stops, dropWhile_append_eq passes stops]

/-- A sequence is accepted just if its run leaves no bracket; what waits follows the output. -/
theorem rpn_eq_ok_iff {tokens rpn : List Token} :
    (grammar.conversion tokens).rpn = .ok rpn ↔
      ∃ events stack, grammar.feed [] tokens = ⟨events, .ok stack⟩ ∧
        (∀ token ∈ stack, grammar.isBracket token = false) ∧
        rpn = events.filterMap Event.output? ++ stack := by
  rcases fed : grammar.feed [] tokens with ⟨events, cause | stack⟩
  · simp [conversion, fed, Conversion.andThen, Conversion.rpn, Except.map]
  · rcases exists_split (fun token => !grammar.isBracket token) stack with
      ⟨released, rest, rfl, passes, stops⟩
    have free : ∀ token ∈ released, grammar.isBracket token = false := by
      simpa using passes
    cases rest with
    | nil =>
        simp only [List.append_nil, conversion, fed, Conversion.andThen, drain_of_free free,
          Conversion.rpn, Except.map, Conversion.output, List.filterMap_append,
          Conversion.filterMap_output?_release, Except.ok.injEq, Conversion.mk.injEq]
        constructor
        · rintro rfl
          exact ⟨events, released, ⟨rfl, rfl⟩, free, rfl⟩
        · rintro ⟨_, _, ⟨rfl, rfl⟩, _, rfl⟩
          rfl
    | cons bracket below =>
        have found : grammar.isBracket bracket = true := by simpa using stops
        simp only [conversion, fed, Conversion.andThen, drain_of_bracket free found,
          Conversion.rpn, Except.map, reduceCtorEq, false_iff]
        rintro ⟨_, stack, ran, unbracketed, _⟩
        simp only [Conversion.mk.injEq, Except.ok.injEq] at ran
        have unfound := unbracketed bracket (by simp [← ran.2])
        simp [found] at unfound

end Grammar

end Rpn
