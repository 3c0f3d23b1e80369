import Rpn.Reference
import Rpn.Proofs.Moves

/-!
# Bracketed groups

A step that succeeds on a stack does the same above an opening bracket and whatever lies below it,
because no loop that releases tokens looks past an opening bracket. So an accepted sequence has the
same moves inside brackets as on its own, and what waits at its end is released by the separator
or the closing bracket that follows instead of by the end of the input.

The main statement is that a bracketed group of accepted sequences emits their outputs, one after
the other, followed by the function in front of the group if there is one.
-/

namespace Rpn.Grammar

/-- Accepted sequences with separators between them, and their outputs one after the other. -/
inductive Parameters (grammar : Grammar) : List Token → List Token → Prop where
  | last {tokens rpn : List Token} (converted : (grammar.conversion tokens).rpn = .ok rpn) :
      Parameters grammar tokens rpn
  | more {tokens rpn rest output : List Token} {separator : Token}
      (converted : (grammar.conversion tokens).rpn = .ok rpn)
      (role : grammar.roleOf separator = some .separator)
      (others : Parameters grammar rest output) :
      Parameters grammar (tokens ++ separator :: rest) (rpn ++ output)

/-- Above a stack, a run over the tokens ends with tokens on top that the end of a group releases;
together with the output of the run they are the given output. -/
def ReadsAbove (grammar : Grammar) (stack tokens rpn : List Token) : Prop :=
  ∃ events waiting, grammar.feed stack tokens = ⟨events, .ok (waiting ++ stack)⟩ ∧
    (∀ top ∈ waiting, grammar.roleOf top ≠ some .openBracket) ∧
    rpn = events.filterMap Event.output? ++ waiting

variable {grammar : Grammar}

theorem head?_append_bracket {stack below : List Token} {bracket : Token} {p : Token → Prop}
    (onStack : ∀ top ∈ stack.head?, p top) (onBracket : p bracket) :
    ∀ top ∈ (stack ++ bracket :: below).head?, p top := by
  cases stack with
  | nil => simpa using onBracket
  | cons top stack => simpa using onStack

/-- What lies below an opening bracket does not change a step that succeeds without it. -/
theorem Moves.above {stack next : List Token} {token bracket : Token} {events : List Event}
    (moves : grammar.Moves stack token events next)
    (opening : grammar.roleOf bracket = some .openBracket) (below : List Token) :
    grammar.Moves (stack ++ bracket :: below) token events (next ++ bracket :: below) := by
  cases moves with
  | ignored role => exact .ignored role
  | value role => exact .value role
  | function role => exact .function role
  | openBracket role => exact .openBracket role
  | @operator released rest _ precedence role decided yielding staying comparable =>
      rw [List.append_assoc]
      refine .operator role decided yielding ?_ ?_
      · apply head?_append_bracket staying
        simp [yieldsTo, opening]
      · cases rest with
        | nil => simp [undecided?, opening]
        | cons top rest => simpa [undecided?] using comparable
  | separator role inside opening' =>
      rw [List.append_assoc, List.cons_append]
      exact .separator role inside opening'
  | closeBracket role inside opening' uncalled =>
      rw [List.append_assoc, List.cons_append]
      refine .closeBracket role inside opening' ?_
      apply head?_append_bracket uncalled
      simp [opening]
  | call role inside opening' called =>
      rw [List.append_assoc, List.cons_append, List.cons_append]
      exact .call role inside opening' called

/-- What lies below an opening bracket does not change a run that succeeds without it. -/
theorem feed_above {stack last tokens : List Token} {bracket : Token} {events : List Event}
    (fed : grammar.feed stack tokens = ⟨events, .ok last⟩)
    (opening : grammar.roleOf bracket = some .openBracket) (below : List Token) :
    grammar.feed (stack ++ bracket :: below) tokens =
      ⟨events, .ok (last ++ bracket :: below)⟩ := by
  induction tokens generalizing stack events with
  | nil =>
      simp only [feed, Conversion.idle, Conversion.mk.injEq, Except.ok.injEq] at fed
      rcases fed with ⟨rfl, rfl⟩
      rfl
  | cons token tokens ih =>
      rcases feed_cons_eq_ok_iff.mp fed with ⟨before, next, later, moves, rest, rfl⟩
      exact feed_cons_eq_ok_iff.mpr
        ⟨before, _, later, moves.above opening below, ih rest, rfl⟩

/-- An accepted sequence leaves above an opening bracket what follows its output. -/
theorem feed_accepted {tokens rpn : List Token} {bracket : Token}
    (converted : (grammar.conversion tokens).rpn = .ok rpn)
    (opening : grammar.roleOf bracket = some .openBracket) (below : List Token) :
    grammar.ReadsAbove (bracket :: below) tokens rpn := by
  rcases rpn_eq_ok_iff.mp converted with ⟨events, waiting, fed, free, rfl⟩
  refine ⟨events, waiting, feed_above fed opening below, ?_, rfl⟩
  intro top top_mem role
  have unbracketed := free top top_mem
  simp [isBracket, role] at unbracketed

theorem feed_parameters {tokens rpn : List Token} {bracket : Token}
    (parameters : grammar.Parameters tokens rpn)
    (opening : grammar.roleOf bracket = some .openBracket) (below : List Token) :
    grammar.ReadsAbove (bracket :: below) tokens rpn := by
  induction parameters with
  | last converted => exact feed_accepted converted opening below
  | more converted role others ih =>
      rcases feed_accepted converted opening below with ⟨before, released, fed, inside, rfl⟩
      rcases ih with ⟨later, waiting, rest, free, rfl⟩
      refine ⟨before ++ (Conversion.release released ++ later), waiting, ?_, free, ?_⟩
      · apply feed_append_eq_ok_iff.mpr
        refine ⟨before, _, _, fed, ?_, rfl⟩
        exact feed_cons_eq_ok_iff.mpr ⟨_, _, later, .separator role inside opening, rest, rfl⟩
      · simp

/-- A group that follows no function emits its parameters and leaves the stack as it was. -/
theorem feed_group {stack inner rpn : List Token} {opening closing : Token}
    (openRole : grammar.roleOf opening = some .openBracket)
    (closeRole : grammar.roleOf closing = some .closeBracket)
    (parameters : grammar.Parameters inner rpn)
    (uncalled : ∀ top ∈ stack.head?, grammar.roleOf top ≠ some .function) :
    ∃ events, grammar.feed stack (opening :: inner ++ [closing]) = ⟨events, .ok stack⟩ ∧
      events.filterMap Event.output? = rpn := by
  rcases feed_parameters parameters openRole stack with ⟨middle, waiting, fed, inside, rfl⟩
  refine ⟨_, feed_concat_eq_ok_iff.mpr ⟨_, _, _, feed_cons_eq_ok_iff.mpr
    ⟨_, _, middle, .openBracket openRole, fed, rfl⟩,
    .closeBracket closeRole inside openRole uncalled, rfl⟩, ?_⟩
  simp [List.filterMap_cons]

/-- A group that follows a function emits its parameters and then the function. -/
theorem feed_call {stack inner rpn : List Token} {function opening closing : Token}
    (called : grammar.roleOf function = some .function)
    (openRole : grammar.roleOf opening = some .openBracket)
    (closeRole : grammar.roleOf closing = some .closeBracket)
    (parameters : grammar.Parameters inner rpn) :
    ∃ events, grammar.feed (function :: stack) (opening :: inner ++ [closing]) =
        ⟨events, .ok stack⟩ ∧
      events.filterMap Event.output? = rpn ++ [function] := by
  rcases feed_parameters parameters openRole (function :: stack) with
    ⟨middle, waiting, fed, inside, rfl⟩
  refine ⟨_, feed_concat_eq_ok_iff.mpr ⟨_, _, _, feed_cons_eq_ok_iff.mpr
    ⟨_, _, middle, .openBracket openRole, fed, rfl⟩,
    .call closeRole inside openRole called, rfl⟩, ?_⟩
  simp [List.filterMap_cons]

theorem stack_output_of_feed_append {tokens further stack last : List Token}
    {events : List Event} (fed : (grammar.feed [] tokens).stack = .ok stack)
    (rest : grammar.feed stack further = ⟨events, .ok last⟩) :
    (grammar.feed [] (tokens ++ further)).stack = .ok last ∧
      (grammar.feed [] (tokens ++ further)).output =
        (grammar.feed [] tokens).output ++ events.filterMap Event.output? := by
  simp [feed_append, Conversion.andThen, fed, rest, Conversion.output]

/-- A group of accepted sequences, wherever it stands, emits their outputs and, if it follows a
function, that function; it changes nothing else. -/
theorem output_group {before stack inner rpn : List Token} {opening closing : Token}
    (fed : (grammar.feed [] before).stack = .ok stack)
    (openRole : grammar.roleOf opening = some .openBracket)
    (closeRole : grammar.roleOf closing = some .closeBracket)
    (parameters : grammar.Parameters inner rpn) :
    let group := opening :: inner ++ [closing]
    let emitted := (grammar.feed [] before).output
    let after := grammar.feed [] (before ++ group)
    (∀ function below, stack = function :: below →
        grammar.roleOf function = some .function →
        after.stack = .ok below ∧ after.output = emitted ++ rpn ++ [function]) ∧
      ((∀ top ∈ stack.head?, grammar.roleOf top ≠ some .function) →
        after.stack = .ok stack ∧ after.output = emitted ++ rpn) ∧
      (∀ function, grammar.roleOf function = some .function →
        let called := grammar.feed [] (before ++ function :: group)
        called.stack = .ok stack ∧ called.output = emitted ++ rpn ++ [function]) ∧
      ∀ tokens output, (grammar.conversion tokens).rpn = .ok output →
        (grammar.conversion (opening :: tokens ++ [closing])).rpn = .ok output := by
  intro group emitted after
  refine ⟨?_, ?_, ?_, ?_⟩
  · rintro function below rfl called
    rcases feed_call called openRole closeRole parameters with ⟨events, ran, output_eq⟩
    simpa [output_eq, after, emitted, group] using stack_output_of_feed_append fed ran
  · intro uncalled
    rcases feed_group openRole closeRole parameters uncalled with ⟨events, ran, output_eq⟩
    simpa [output_eq, after, emitted, group] using stack_output_of_feed_append fed ran
  · intro function called
    rcases feed_call called openRole closeRole parameters with ⟨events, ran, output_eq⟩
    have named : grammar.feed stack (function :: group) = ⟨.pushed function :: events, .ok stack⟩ :=
      feed_cons_eq_ok_iff.mpr ⟨_, _, events, .function called, ran, rfl⟩
    simpa [output_eq, emitted, group, List.filterMap_cons] using stack_output_of_feed_append fed named
  · intro tokens output converted
    have uncalled : ∀ top ∈ ([] : List Token).head?, grammar.roleOf top ≠ some .function := by
      simp
    rcases feed_group openRole closeRole (.last converted) uncalled with ⟨events, ran, output_eq⟩
    exact rpn_eq_ok_iff.mpr ⟨events, [], ran, by simp, by simp [output_eq]⟩

/-- The call in `1 + max((1), , 1 + 1)`. -/
theorem output_group_max :
    let one : Token := ⟨"1", "NUMERIC"⟩
    let plus : Token := ⟨"+", "OPERATOR"⟩
    let max : Token := ⟨"max", "FUNCTION"⟩
    let comma : Token := ⟨",", "PARAM_SEPARATOR"⟩
    let opening : Token := ⟨"(", "OPEN_BRACKET"⟩
    let closing : Token := ⟨")", "CLOSE_BRACKET"⟩
    let before := [one, plus, max]
    let inner := [opening, one, closing] ++ comma :: ([] ++ comma :: [one, plus, one])
    let after := Reference.grammar.feed [] (before ++ (opening :: inner ++ [closing]))
    (Reference.grammar.feed [] before).stack = .ok [max, plus] ∧
      Reference.grammar.roleOf opening = some .openBracket ∧
      Reference.grammar.roleOf closing = some .closeBracket ∧
      Reference.grammar.Parameters inner ([one] ++ ([] ++ [one, one, plus])) ∧
      after.stack = .ok [plus] ∧ after.output = [one, one, one, one, plus, max] := by
  intro one plus max comma opening closing before inner after
  have fed : (Reference.grammar.feed [] before).stack = .ok [max, plus] := by rfl
  have openRole : Reference.grammar.roleOf opening = some .openBracket := by rfl
  have closeRole : Reference.grammar.roleOf closing = some .closeBracket := by rfl
  have parameters : Reference.grammar.Parameters inner ([one] ++ ([] ++ [one, one, plus])) :=
    .more (by rfl) (by rfl) (.more (by rfl) (by rfl) (.last (by rfl)))
  exact ⟨fed, openRole, closeRole, parameters,
    (output_group fed openRole closeRole parameters).1 max [plus] rfl (by rfl)⟩

end Rpn.Grammar
