import Mathlib.Data.List.Perm.Basic
import Rpn.Proofs.Acceptance
import Rpn.Reference

/-!
# No token is lost

Values, functions and operators are what a conversion keeps: each of them goes to the output, at
once or after it has waited on the stack, and nothing else does. One step moves kept tokens from
the input and the stack to the stack and the output, so at every place of a run the output and the
stack together hold just the kept tokens that have been read. Values never wait, which is why they
leave in the order in which they came.
-/

namespace Rpn

namespace Grammar

/-- A token that belongs into the output. -/
def isKept (grammar : Grammar) (token : Token) : Bool :=
  grammar.plays .value token || grammar.plays .function token || grammar.plays .operator token

/-- The tokens of a stack that are no brackets. -/
def unbracketed (grammar : Grammar) (stack : List Token) : List Token :=
  stack.filter fun token => !grammar.isBracket token

variable {grammar : Grammar}

theorem isKept_iff {token : Token} :
    grammar.isKept token = true ↔
      grammar.roleOf token = some .value ∨ grammar.roleOf token = some .function ∨
        grammar.roleOf token = some .operator := by
  simp [isKept, or_assoc]

theorem unbracketed_cons_of_openBracket {bracket : Token} (below : List Token)
    (opening : grammar.roleOf bracket = some .openBracket) :
    grammar.unbracketed (bracket :: below) = grammar.unbracketed below := by
  simp [unbracketed, isBracket, opening]

theorem unbracketed_cons_of_isKept {top : Token} (below : List Token)
    (kept : grammar.isKept top = true) :
    grammar.unbracketed (top :: below) = top :: grammar.unbracketed below := by
  rcases isKept_iff.mp kept with role | role | role <;> simp [unbracketed, isBracket, role]

/-- Nothing that waits above the topmost opening bracket is a bracket. -/
theorem unbracketed_released {released below : List Token}
    (waiting : ∀ top ∈ released ++ below, grammar.Waits top)
    (inside : ∀ top ∈ released, grammar.roleOf top ≠ some .openBracket) :
    grammar.unbracketed (released ++ below) = released ++ grammar.unbracketed below := by
  have whole : grammar.unbracketed released = released := by
    apply List.filter_eq_self.mpr
    intro top top_mem
    rcases waiting top (List.mem_append_left _ top_mem) with role | role | ⟨role, _⟩
    · simp [isBracket, role]
    · exact absurd role (inside top top_mem)
    · simp [isBracket, role]
  rw [unbracketed, List.filter_append]
  exact congrArg (· ++ grammar.unbracketed below) whole

theorem filter_value_of_waits {stack : List Token} (waiting : ∀ top ∈ stack, grammar.Waits top) :
    stack.filter (grammar.plays .value) = [] := by
  apply List.filter_eq_nil_iff.mpr
  intro top top_mem
  rcases waiting top top_mem with role | role | ⟨role, _⟩ <;> simp [role]

/-- A step neither loses nor adds a kept token. -/
theorem Moves.perm {stack next : List Token} {token : Token} {events : List Event}
    (moves : grammar.Moves stack token events next)
    (waiting : ∀ top ∈ stack, grammar.Waits top) :
    (events.filterMap Event.output? ++ grammar.unbracketed next).Perm
      (grammar.unbracketed stack ++ [token].filter grammar.isKept) := by
  have moved (below : List Token) : ([token] ++ below).Perm (below ++ [token]) :=
    List.perm_append_comm
  cases moves with
  | ignored role => simp [isKept, role, List.filterMap_cons]
  | value role =>
      have kept : grammar.isKept token = true := by simp [isKept, role]
      simpa [kept, List.filterMap_cons] using moved (grammar.unbracketed stack)
  | function role =>
      have kept : grammar.isKept token = true := by simp [isKept, role]
      rw [unbracketed_cons_of_isKept stack kept]
      simpa [kept, List.filterMap_cons] using moved (grammar.unbracketed stack)
  | openBracket role =>
      rw [unbracketed_cons_of_openBracket stack role]
      simp [isKept, role, List.filterMap_cons]
  | @operator released rest _ _ role decided yielding staying comparable =>
      -- What is released goes in front of the stack either way; only the operator changes places.
      have kept : grammar.isKept token = true := by simp [isKept, role]
      have inside : ∀ top ∈ released, grammar.roleOf top ≠ some .openBracket := by
        intro top top_mem
        simp [roleOf_of_yieldsTo (yielding top top_mem)]
      rw [unbracketed_cons_of_isKept rest kept, unbracketed_released waiting inside]
      simpa [kept, List.filterMap_cons] using
        (moved (grammar.unbracketed rest)).append_left released
  | separator role inside opening =>
      simp [unbracketed_released waiting inside, isKept, role]
  | @closeBracket released below _ bracket role inside opening uncalled =>
      rw [unbracketed_released waiting inside, unbracketed_cons_of_openBracket _ opening]
      simp [isKept, role, List.filterMap_cons]
  | @call released below _ bracket function role inside opening called =>
      have kept : grammar.isKept function = true := by simp [isKept, called]
      rw [unbracketed_released waiting inside, unbracketed_cons_of_openBracket _ opening,
        unbracketed_cons_of_isKept _ kept]
      simp [isKept, role, List.filterMap_cons]

/-- A step emits the values that it reads, and no others. -/
theorem Moves.values {stack next : List Token} {token : Token} {events : List Event}
    (moves : grammar.Moves stack token events next)
    (waiting : ∀ top ∈ stack, grammar.Waits top) :
    (events.filterMap Event.output?).filter (grammar.plays .value) =
      [token].filter (grammar.plays .value) := by
  have none_of {released below : List Token}
      (waiting : ∀ top ∈ released ++ below, grammar.Waits top) :
      released.filter (grammar.plays .value) = [] :=
    filter_value_of_waits fun top top_mem => waiting top (List.mem_append_left _ top_mem)
  cases moves with
  | ignored role | function role | openBracket role => simp [role, List.filterMap_cons]
  | value role => rfl
  | operator role decided yielding staying comparable =>
      simp [role, none_of waiting, List.filterMap_cons]
  | separator role inside opening => simp [role, none_of waiting]
  | closeBracket role inside opening uncalled =>
      simp [role, none_of waiting, List.filterMap_cons]
  | call role inside opening called =>
      simp [role, called, none_of waiting, List.filterMap_cons]

/-- At every place of a run, the output and the stack hold the kept tokens that have been read. -/
theorem perm_of_feed {tokens stack : List Token} {events : List Event}
    (fed : grammar.feed [] tokens = ⟨events, .ok stack⟩) :
    (events.filterMap Event.output? ++ grammar.unbracketed stack).Perm
      (tokens.filter grammar.isKept) := by
  refine feed_induction (motive := fun consumed events stack =>
    (events.filterMap Event.output? ++ grammar.unbracketed stack).Perm
      (consumed.filter grammar.isKept)) (by simp [unbracketed]) ?_ fed
  intro consumed before stack token later next prior balanced moves
  have step := moves.perm (waits_of_feed prior)
  rw [List.filterMap_append, List.append_assoc, List.filter_append]
  refine (step.append_left _).trans ?_
  rw [← List.append_assoc]
  exact balanced.append_right _

/-- A run emits the values in the order in which it reads them. -/
theorem values_of_feed {tokens stack : List Token} {events : List Event}
    (fed : grammar.feed [] tokens = ⟨events, .ok stack⟩) :
    (events.filterMap Event.output?).filter (grammar.plays .value) =
      tokens.filter (grammar.plays .value) := by
  refine feed_induction (motive := fun consumed events _ =>
    (events.filterMap Event.output?).filter (grammar.plays .value) =
      consumed.filter (grammar.plays .value)) (by simp) ?_ fed
  intro consumed before stack token later next prior same moves
  have step := moves.values (waits_of_feed prior)
  rw [List.filterMap_append, List.filter_append, List.filter_append, same, step]

theorem perm_of_rpn {tokens rpn : List Token}
    (converted : (grammar.conversion tokens).rpn = .ok rpn) :
    rpn.Perm (tokens.filter grammar.isKept) := by
  rcases rpn_eq_ok_iff.mp converted with ⟨events, stack, fed, free, rfl⟩
  have whole : grammar.unbracketed stack = stack := by
    apply List.filter_eq_self.mpr
    intro top top_mem
    simp [free top top_mem]
  simpa [whole] using perm_of_feed fed

theorem values_of_rpn {tokens rpn : List Token}
    (converted : (grammar.conversion tokens).rpn = .ok rpn) :
    rpn.filter (grammar.plays .value) = tokens.filter (grammar.plays .value) := by
  rcases rpn_eq_ok_iff.mp converted with ⟨events, stack, fed, -, rfl⟩
  rw [List.filter_append, values_of_feed fed, filter_value_of_waits (waits_of_feed fed),
    List.append_nil]

end Grammar

namespace Converter

/-- An accepted sequence loses no value, function or operator, gains none, and keeps the order of
its values; and at every place of a run that has not failed, each of them that has been read is in
the output or on the stack. -/
theorem result_tokens_conserved (converter : Converter) (tokens : List Token) (source : String) :
    let grammar := converter.grammar
    (∀ rpn, (converter.attempt (.tokens tokens source)).result = .ok rpn →
        rpn.Perm (tokens.filter grammar.isKept) ∧
          (∀ token ∈ rpn, grammar.roleOf token = some .value ∨
            grammar.roleOf token = some .function ∨ grammar.roleOf token = some .operator) ∧
          rpn.filter (grammar.plays .value) = tokens.filter (grammar.plays .value)) ∧
      ∀ before after stack, tokens = before ++ after →
        (grammar.feed [] before).stack = .ok stack →
          ((grammar.feed [] before).output ++ grammar.unbracketed stack).Perm
            (before.filter grammar.isKept) := by
  intro grammar
  constructor
  · intro rpn succeeded
    have converted := result_tokens_eq_ok_iff.mp succeeded
    have balanced := Grammar.perm_of_rpn converted
    refine ⟨balanced, ?_, Grammar.values_of_rpn converted⟩
    intro token token_mem
    have kept := balanced.mem_iff.mp token_mem
    rw [List.mem_filter] at kept
    exact Grammar.isKept_iff.mp kept.2
  · rintro before after stack rfl running
    rcases fed : grammar.feed [] before with ⟨events, outcome⟩
    simp only [fed] at running
    subst running
    exact Grammar.perm_of_feed fed

/-- The stream `max 1 2 ( + )`, in no sensible order and with a comment behind it. -/
theorem result_tokens_conserved_disordered :
    let one : Token := ⟨"1", "NUMERIC"⟩
    let two : Token := ⟨"2", "NUMERIC"⟩
    let plus : Token := ⟨"+", "OPERATOR"⟩
    let max : Token := ⟨"max", "FUNCTION"⟩
    let opening : Token := ⟨"(", "OPEN_BRACKET"⟩
    let closing : Token := ⟨")", "CLOSE_BRACKET"⟩
    let before := [max, one, two, opening, plus]
    let tokens := before ++ [closing, ⟨"#", "COMMENT"⟩]
    let converter := Converter.new Reference.grammar none
    (converter.attempt (.tokens tokens "stream")).result = .ok [one, two, plus, max] ∧
      [one, two, plus, max].Perm (tokens.filter Reference.grammar.isKept) ∧
      (Reference.grammar.feed [] before).stack = .ok [plus, opening, max] ∧
      ([one, two] ++ [plus, max]).Perm (before.filter Reference.grammar.isKept) := by
  intro one two plus max opening closing before tokens converter
  have accepted :
      (converter.attempt (.tokens tokens "stream")).result = .ok [one, two, plus, max] := by
    rfl
  have running : (Reference.grammar.feed [] before).stack = .ok [plus, opening, max] := by rfl
  have conserved := result_tokens_conserved converter tokens "stream"
  exact ⟨accepted, (conserved.1 _ accepted).1, running, conserved.2 before _ _ rfl running⟩

end Converter

end Rpn
