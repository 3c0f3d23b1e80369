import Rpn.Converter
import Rpn.Proofs.Moves

/-!
# Which sequences are accepted

The depth of a place is the number of opening brackets in front of it less the number of closing
ones. A token has a fault if it is an operator without a precedence, or if it needs an open bracket
and stands at depth zero. The first fault decides the error of a conversion; without a fault the
conversion fails just if the depth at the end is positive.

Two invariants of the stack carry the proof: only functions, opening brackets and operators with a
precedence wait there, and the number of brackets among them is the depth. Since both hold after
every run, `step` fails at a token exactly if the token has a fault.
-/

namespace Rpn

namespace Grammar

/-- The number of opening brackets less the number of closing brackets. -/
def depth (grammar : Grammar) (tokens : List Token) : Int :=
  tokens.countP (grammar.plays .openBracket) - tokens.countP (grammar.plays .closeBracket)

/-- What is wrong with a token at a depth. -/
def fault? (grammar : Grammar) (depth : Int) (token : Token) : Option Cause :=
  match grammar.roleOf token with
  | some .operator =>
      if grammar.precedenceOf token = none then some (.unknownOperator token.value) else none
  | some .separator => if depth = 0 then some .unmatchedSeparator else none
  | some .closeBracket => if depth = 0 then some .unmatchedBracket else none
  | _ => none

/-- No token has a fault at the depth where it stands. -/
def Faultless (grammar : Grammar) (tokens : List Token) : Prop :=
  ∀ before token after, tokens = before ++ token :: after →
    grammar.fault? (grammar.depth before) token = none

/-- A token that may be on the stack: a function, an opening bracket, or an operator that can be
compared with others. -/
def Waits (grammar : Grammar) (token : Token) : Prop :=
  grammar.roleOf token = some .function ∨ grammar.roleOf token = some .openBracket ∨
    grammar.roleOf token = some .operator ∧ grammar.precedenceOf token ≠ none

/-- A token whose tag has a role. -/
def classifies (grammar : Grammar) (token : Token) : Bool :=
  (grammar.roleOf token).isSome

/-- The number of opening brackets on a stack. -/
def opened (grammar : Grammar) (stack : List Token) : Nat :=
  stack.countP (grammar.plays .openBracket)

variable {grammar : Grammar}

@[simp]
theorem depth_nil : grammar.depth [] = 0 := rfl

theorem depth_append (first second : List Token) :
    grammar.depth (first ++ second) = grammar.depth first + grammar.depth second := by
  simp only [depth, List.countP_append]
  omega

theorem depth_singleton_of_ne {token : Token}
    (notOpening : grammar.roleOf token ≠ some .openBracket)
    (notClosing : grammar.roleOf token ≠ some .closeBracket) : grammar.depth [token] = 0 := by
  simp [depth, notOpening, notClosing]

theorem depth_openBracket {token : Token} (role : grammar.roleOf token = some .openBracket) :
    grammar.depth [token] = 1 := by
  simp [depth, role]

theorem depth_closeBracket {token : Token} (role : grammar.roleOf token = some .closeBracket) :
    grammar.depth [token] = -1 := by
  simp [depth, role]

theorem opened_append (above below : List Token) :
    grammar.opened (above ++ below) = grammar.opened above + grammar.opened below := by
  simp [opened]

theorem opened_cons_of_ne {top : Token} (below : List Token)
    (notOpening : grammar.roleOf top ≠ some .openBracket) :
    grammar.opened (top :: below) = grammar.opened below := by
  simp [opened, notOpening]

theorem opened_cons_of_openBracket {top : Token} (below : List Token)
    (opening : grammar.roleOf top = some .openBracket) :
    grammar.opened (top :: below) = grammar.opened below + 1 := by
  simp [opened, opening]

theorem opened_eq_zero_iff {stack : List Token} :
    grammar.opened stack = 0 ↔ ∀ top ∈ stack, grammar.roleOf top ≠ some .openBracket := by
  simp [opened, List.countP_eq_zero]

/-- A step puts only tokens on the stack that may wait there. -/
theorem Moves.waits {stack next : List Token} {token : Token} {events : List Event}
    (moves : grammar.Moves stack token events next)
    (waiting : ∀ top ∈ stack, grammar.Waits top) : ∀ top ∈ next, grammar.Waits top := by
  cases moves with
  | ignored role => exact waiting
  | value role => exact waiting
  | function role => exact List.forall_mem_cons.mpr ⟨Or.inl role, waiting⟩
  | openBracket role => exact List.forall_mem_cons.mpr ⟨Or.inr (Or.inl role), waiting⟩
  | operator role decided yielding staying comparable =>
      intro top top_mem
      rcases List.mem_cons.mp top_mem with rfl | top_mem
      · exact Or.inr (Or.inr ⟨role, by simp [decided]⟩)
      · exact waiting top (List.mem_append_right _ top_mem)
  | separator role inside opening =>
      intro top top_mem
      exact waiting top (List.mem_append_right _ top_mem)
  | closeBracket role inside opening uncalled =>
      intro top top_mem
      exact waiting top (by simp [top_mem])
  | call role inside opening called =>
      intro top top_mem
      exact waiting top (by simp [top_mem])

/-- A step changes the number of brackets on the stack as its token changes the depth. -/
theorem Moves.opened_eq {stack next : List Token} {token : Token} {events : List Event}
    (moves : grammar.Moves stack token events next) :
    (grammar.opened next : Int) = grammar.opened stack + grammar.depth [token] := by
  cases moves with
  | ignored role => rw [depth_singleton_of_ne (by simp [role]) (by simp [role]), Int.add_zero]
  | value role => rw [depth_singleton_of_ne (by simp [role]) (by simp [role]), Int.add_zero]
  | function role =>
      rw [opened_cons_of_ne _ (by simp [role]),
        depth_singleton_of_ne (by simp [role]) (by simp [role]), Int.add_zero]
  | openBracket role =>
      rw [opened_cons_of_openBracket _ role, depth_openBracket role, Int.natCast_add]
      rfl
  | @operator released _ _ _ role decided yielding staying comparable =>
      have unbracketed : grammar.opened released = 0 := by
        apply opened_eq_zero_iff.mpr
        intro top top_mem
        simp [roleOf_of_yieldsTo (yielding top top_mem)]
      rw [opened_cons_of_ne _ (by simp [role]), opened_append, unbracketed,
        depth_singleton_of_ne (by simp [role]) (by simp [role])]
      omega
  | separator role inside opening =>
      rw [opened_append, opened_eq_zero_iff.mpr inside,
        depth_singleton_of_ne (by simp [role]) (by simp [role])]
      omega
  | closeBracket role inside opening uncalled =>
      rw [opened_append, opened_eq_zero_iff.mpr inside, opened_cons_of_openBracket _ opening,
        depth_closeBracket role]
      omega
  | call role inside opening called =>
      rw [opened_append, opened_eq_zero_iff.mpr inside, opened_cons_of_openBracket _ opening,
        opened_cons_of_ne _ (by simp [called]), depth_closeBracket role]
      omega

/-- A token on which the conversion goes on has no fault. -/
theorem Moves.fault?_eq_none {stack next : List Token} {token : Token} {events : List Event}
    (moves : grammar.Moves stack token events next) :
    grammar.fault? (grammar.opened stack) token = none := by
  cases moves with
  | ignored role => simp [fault?, role]
  | value role => simp [fault?, role]
  | function role => simp [fault?, role]
  | openBracket role => simp [fault?, role]
  | operator role decided yielding staying comparable => simp [fault?, role, decided]
  | separator role inside opening =>
      simp only [fault?, role, opened_append, opened_cons_of_openBracket _ opening]
      rw [if_neg (by omega)]
  | closeBracket role inside opening uncalled =>
      simp only [fault?, role, opened_append, opened_cons_of_openBracket _ opening]
      rw [if_neg (by omega)]
  | call role inside opening called =>
      simp only [fault?, role, opened_append, opened_cons_of_openBracket _ opening]
      rw [if_neg (by omega)]

/-- A token at which the conversion fails has a fault, and it is the cause of the failure. -/
theorem Stalls.fault?_eq_some {stack : List Token} {token : Token} {events : List Event}
    {cause : Cause} (stalls : grammar.Stalls stack token events cause)
    (waiting : ∀ top ∈ stack, grammar.Waits top) :
    grammar.fault? (grammar.opened stack) token = some cause := by
  cases stalls with
  | unknown role undecided => simp [fault?, role, undecided]
  | @incomparable released rest _ top _ role decided yielding topRole undecided =>
      have waits := waiting top (by simp)
      simp [Waits, topRole, undecided] at waits
  | separator role inside => simp [fault?, role, opened_eq_zero_iff.mpr inside]
  | closeBracket role inside => simp [fault?, role, opened_eq_zero_iff.mpr inside]

theorem waits_of_feed {tokens stack : List Token} {events : List Event}
    (fed : grammar.feed [] tokens = ⟨events, .ok stack⟩) :
    ∀ top ∈ stack, grammar.Waits top := by
  refine feed_induction (motive := fun _ _ stack => ∀ top ∈ stack, grammar.Waits top)
    (by simp) ?_ fed
  intro consumed before stack token later next _ waiting moves
  exact moves.waits waiting

theorem opened_of_feed {tokens stack : List Token} {events : List Event}
    (fed : grammar.feed [] tokens = ⟨events, .ok stack⟩) :
    (grammar.opened stack : Int) = grammar.depth tokens := by
  refine feed_induction
    (motive := fun tokens _ stack => (grammar.opened stack : Int) = grammar.depth tokens)
    (by simp [opened]) ?_ fed
  intro consumed before stack token later next _ opened_eq moves
  rw [moves.opened_eq, opened_eq, depth_append]

theorem Faultless.of_append {first second : List Token}
    (faultless : grammar.Faultless (first ++ second)) : grammar.Faultless first := by
  intro before token after split
  exact faultless before token (after ++ second) (by simp [split])

theorem exists_feed_of_faultless {tokens : List Token} (faultless : grammar.Faultless tokens) :
    ∃ events stack, grammar.feed [] tokens = ⟨events, .ok stack⟩ := by
  induction tokens using List.reverseRecOn with
  | nil => exact ⟨[], [], rfl⟩
  | append_singleton tokens token ih =>
      rcases ih faultless.of_append with ⟨before, stack, fed⟩
      have sound := faultless tokens token [] (by simp)
      rw [← opened_of_feed fed] at sound
      rcases moves_or_stalls grammar stack token with ⟨later, next, moves⟩ | ⟨_, _, stalls⟩
      · exact ⟨_, next, feed_concat_eq_ok_iff.mpr ⟨before, stack, later, fed, moves, rfl⟩⟩
      · rw [stalls.fault?_eq_some (waits_of_feed fed)] at sound
        contradiction

/-- Some token of a sequence with faults is the first that has one. -/
theorem exists_first_fault {tokens : List Token} (faulty : ¬grammar.Faultless tokens) :
    ∃ before token after cause, tokens = before ++ token :: after ∧
      grammar.Faultless before ∧ grammar.fault? (grammar.depth before) token = some cause := by
  induction tokens using List.reverseRecOn with
  | nil =>
      exfalso
      apply faulty
      intro before token after split
      simp at split
  | append_singleton tokens token ih =>
      by_cases earlier : grammar.Faultless tokens
      · refine ⟨tokens, token, [], ?_⟩
        cases fault : grammar.fault? (grammar.depth tokens) token with
        | some cause => exact ⟨cause, rfl, earlier, rfl⟩
        | none =>
            -- A fault would be at the last token or before it, and neither has one.
            exfalso
            apply faulty
            intro before found after split
            rcases List.eq_nil_or_concat after with rfl | ⟨after, last, rfl⟩
            · rcases List.append_inj' split (by simp) with ⟨rfl, singleton⟩
              simp only [List.cons.injEq, and_true] at singleton
              rwa [← singleton]
            · have shorter : tokens = before ++ found :: after := by
                have appended : tokens ++ [token] = (before ++ found :: after) ++ [last] := by
                  simpa using split
                exact (List.append_inj' appended (by simp)).1
              exact earlier before found after shorter
      · rcases ih earlier with ⟨before, found, after, cause, rfl, sound, fault⟩
        exact ⟨before, found, after ++ [token], cause, by simp, sound, fault⟩

/-- The first fault is the cause of failure, whatever follows it. -/
theorem rpn_of_first_fault {before : List Token} {token : Token} {cause : Cause}
    (after : List Token) (sound : grammar.Faultless before)
    (fault : grammar.fault? (grammar.depth before) token = some cause) :
    (grammar.conversion (before ++ token :: after)).rpn = .error cause := by
  rcases exists_feed_of_faultless sound with ⟨events, stack, fed⟩
  rw [← opened_of_feed fed] at fault
  rcases moves_or_stalls grammar stack token with ⟨_, _, moves⟩ | ⟨later, _, stalls⟩
  · simp [moves.fault?_eq_none] at fault
  · simp only [stalls.fault?_eq_some (waits_of_feed fed), Option.some.injEq] at fault
    subst cause
    simp [conversion, feed_append, fed, feed, Conversion.andThen, step_of_stalls stalls,
      Conversion.rpn, Except.map]

/-- Nothing but operators and functions is released at the end if no bracket is open. -/
theorem isBracket_eq_false_of_waits {stack : List Token}
    (waiting : ∀ top ∈ stack, grammar.Waits top) (unopened : grammar.opened stack = 0) :
    ∀ top ∈ stack, grammar.isBracket top = false := by
  intro top top_mem
  have notOpening := opened_eq_zero_iff.mp unopened top top_mem
  rcases waiting top top_mem with role | role | ⟨role, _⟩
  · simp [isBracket, role]
  · exact absurd role notOpening
  · simp [isBracket, role]

/-- Without a fault the conversion succeeds unless a bracket is open at the end. -/
theorem rpn_of_faultless {tokens : List Token} (faultless : grammar.Faultless tokens) :
    (0 < grammar.depth tokens →
        (grammar.conversion tokens).rpn = .error .mismatchedBrackets) ∧
      (grammar.depth tokens ≤ 0 → ∃ rpn, (grammar.conversion tokens).rpn = .ok rpn) := by
  rcases exists_feed_of_faultless faultless with ⟨events, stack, fed⟩
  have waiting := waits_of_feed fed
  rw [← opened_of_feed fed]
  constructor
  · intro positive
    rcases exists_split (fun top => !grammar.isBracket top) stack with
      ⟨released, rest, rfl, free, stops⟩
    replace free : ∀ top ∈ released, grammar.isBracket top = false := by simpa using free
    -- The release stops at a bracket: a stack without one would have nothing open.
    cases rest with
    | nil =>
        have unopened : grammar.opened (released ++ []) = 0 := by
          apply opened_eq_zero_iff.mpr
          intro top top_mem opening
          have unbracketed := free top (by simpa using top_mem)
          simp [isBracket, opening] at unbracketed
        omega
    | cons bracket below =>
        have found : grammar.isBracket bracket = true := by simpa using stops
        simp [conversion, fed, Conversion.andThen, drain_of_bracket free found,
          Conversion.rpn, Except.map]
  · intro closed
    have free := isBracket_eq_false_of_waits waiting (by omega)
    exact ⟨_, rpn_eq_ok_iff.mpr ⟨events, stack, fed, free, rfl⟩⟩

theorem exists_rpn_iff {tokens : List Token} :
    (∃ rpn, (grammar.conversion tokens).rpn = .ok rpn) ↔
      grammar.Faultless tokens ∧ grammar.depth tokens ≤ 0 := by
  constructor
  · rintro ⟨rpn, converted⟩
    have sound : grammar.Faultless tokens := by
      by_contra faulty
      rcases exists_first_fault faulty with ⟨before, token, after, cause, rfl, sound, fault⟩
      simp [rpn_of_first_fault after sound fault] at converted
    refine ⟨sound, ?_⟩
    by_contra positive
    simp [(rpn_of_faultless sound).1 (by omega)] at converted
  · rintro ⟨sound, closed⟩
    exact (rpn_of_faultless sound).2 closed

/-- Tokens without a role change neither the stack nor the output. -/
theorem feed_filter (grammar : Grammar) (stack tokens : List Token) :
    (grammar.feed stack (tokens.filter grammar.classifies)).stack =
        (grammar.feed stack tokens).stack ∧
      (grammar.feed stack (tokens.filter grammar.classifies)).output =
        (grammar.feed stack tokens).output := by
  induction tokens generalizing stack with
  | nil => simp
  | cons token tokens ih =>
      cases role : grammar.roleOf token with
      | none =>
          have skipped : grammar.classifies token = false := by simp [classifies, role]
          simpa [skipped, feed, step, role, Conversion.andThen, Conversion.output,
            List.filterMap_cons] using ih stack
      | some kind =>
          have kept : grammar.classifies token = true := by simp [classifies, role]
          rcases moves_or_stalls grammar stack token with
            ⟨events, next, moves⟩ | ⟨events, cause, stalls⟩
          · simpa [kept, feed, step_of_moves moves, Conversion.andThen, Conversion.output]
              using ih next
          · simp [kept, feed, step_of_stalls stalls, Conversion.andThen, Conversion.output]

theorem rpn_filter (grammar : Grammar) (tokens : List Token) :
    (grammar.conversion (tokens.filter grammar.classifies)).rpn =
      (grammar.conversion tokens).rpn := by
  rcases feed_filter grammar [] tokens with ⟨stack_eq, output_eq⟩
  simp only [conversion, Conversion.andThen, stack_eq]
  cases (grammar.feed [] tokens).stack with
  | error cause => rfl
  | ok stack =>
      cases drained : (grammar.drain stack).stack with
      | error cause => simp [Conversion.rpn, drained, Except.map]
      | ok rest =>
          simp only [Conversion.output] at output_eq
          simp [Conversion.rpn, drained, Except.map, Conversion.output, output_eq]

end Grammar

namespace Converter

variable {converter : Converter} {tokens : List Token} {source : String}

theorem result_tokens_eq_ok_iff {rpn : List Token} :
    (converter.attempt (.tokens tokens source)).result = .ok rpn ↔
      (converter.grammar.conversion tokens).rpn = .ok rpn := by
  simp only [attempt, attemptTokens, Attempt.ofConversion]
  cases (converter.grammar.conversion tokens).rpn <;> simp [Except.mapError]

theorem result_tokens_eq_error_iff {failure : Failure} :
    (converter.attempt (.tokens tokens source)).result = .error failure ↔
      ∃ cause, (converter.grammar.conversion tokens).rpn = .error cause ∧
        failure = .expression ⟨cause, source⟩ := by
  simp only [attempt, attemptTokens, Attempt.ofConversion]
  cases (converter.grammar.conversion tokens).rpn <;> simp [Except.mapError, eq_comm]

theorem result_text_eq_ok_iff {rules : Lexer} (supplied : converter.rules = some rules)
    {expression : String} {rpn : List Token} :
    (converter.attempt (.text expression)).result = .ok rpn ↔
      ∃ tokens, (rules.scan expression).result = .ok tokens ∧
        (converter.grammar.conversion tokens).rpn = .ok rpn := by
  cases scanned : (rules.scan expression).result with
  | ok tokens =>
      rw [result_text_of_scanned supplied scanned, result_tokens_eq_ok_iff]
      simp
  | error fault =>
      cases fault <;> simp [attempt, attemptText, supplied, scanned]

/-- The outcome for any sequence of tokens: the first fault, or else the depth at the end. -/
theorem attempt_tokens_result (converter : Converter) (tokens : List Token) (source : String) :
    let grammar := converter.grammar
    let result := fun others => (converter.attempt (.tokens others source)).result
    (∀ before token after cause, tokens = before ++ token :: after → grammar.Faultless before →
        grammar.fault? (grammar.depth before) token = some cause →
        result tokens = .error (.expression ⟨cause, source⟩)) ∧
      (grammar.Faultless tokens → 0 < grammar.depth tokens →
        result tokens = .error (.expression ⟨.mismatchedBrackets, source⟩)) ∧
      ((∃ rpn, result tokens = .ok rpn) ↔
        grammar.Faultless tokens ∧ grammar.depth tokens ≤ 0) ∧
      (∀ failure, result tokens = .error failure →
        ∃ cause, failure = .expression ⟨cause, source⟩) ∧
      ∀ others : List Token,
        others.filter grammar.classifies = tokens.filter grammar.classifies →
          result others = result tokens := by
  intro grammar result
  refine ⟨?_, ?_, ?_, ?_, ?_⟩
  · rintro before token after cause rfl sound fault
    exact result_tokens_eq_error_iff.mpr
      ⟨cause, Grammar.rpn_of_first_fault after sound fault, rfl⟩
  · intro sound positive
    exact result_tokens_eq_error_iff.mpr
      ⟨_, (Grammar.rpn_of_faultless sound).1 positive, rfl⟩
  · simp only [result, result_tokens_eq_ok_iff]
    exact Grammar.exists_rpn_iff
  · intro failure failed
    rcases result_tokens_eq_error_iff.mp failed with ⟨cause, _, rfl⟩
    exact ⟨cause, rfl⟩
  · intro others same
    have converted : (grammar.conversion others).rpn = (grammar.conversion tokens).rpn := by
      rw [← Grammar.rpn_filter grammar others, same, Grammar.rpn_filter]
    simp only [result, attempt, attemptTokens, Attempt.ofConversion]
    exact congrArg _ converted

end Converter

end Rpn
