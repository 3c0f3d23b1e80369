import Rpn.Proofs.Conservation

/-!
# Sessions

A session is a sequence of requests to one converter. All that a request leaves behind for the next
ones is its output: the converter remembers the last output that it gave, a failure changes
nothing, and no answer depends on what was asked before, save for the one to the request that
converts the remembered output once more.

That request never fails. An output consists of values, functions and operators that can be
compared, and every sequence of such tokens is accepted.
-/

namespace Rpn

/-- What can be asked of a converter. -/
inductive Request where
  | plain (call : Call)
  /-- The conversion of a text, with an error of the expression as part of the result. -/
  | trial (expression : String)
  deriving DecidableEq, Repr

/-- What a converter answers. -/
inductive Answer where
  | output (rpn : List Token)
  | report (result : ConversionResult)
  | failure (failure : Failure)
  deriving DecidableEq, Repr

namespace Answer

/-- The output that an answer brings, if it tells of a success. -/
def output? : Answer → Option (List Token)
  | output rpn => some rpn
  | report result => result.rpn
  | failure _ => none

end Answer

namespace Request

/-- The call that a request leads to. -/
def toCall : Request → Call
  | plain call => call
  | trial expression => .text expression

/-- The answer to a request, by what its call did. -/
def answer (request : Request) (attempt : Attempt) : Answer :=
  match request with
  | plain _ =>
      match attempt.result with
      | .ok rpn => .output rpn
      | .error failure => .failure failure
  | trial expression =>
      match attempt.report expression with
      | .ok result => .report result
      | .error fault => .failure (.fault fault)

/-- An answer brings an output just if the call succeeded. -/
theorem output?_answer (request : Request) (attempt : Attempt) :
    (request.answer attempt).output? = attempt.result.toOption := by
  cases request with
  | plain call =>
      cases result : attempt.result <;> simp [answer, result, Answer.output?, Except.toOption]
  | trial expression =>
      rcases result : attempt.result with (_ | _) | _ <;>
        simp [answer, Attempt.report, result, Answer.output?, Except.toOption]

end Request

namespace Grammar

/-- A token that may be part of an output: a value, a function, or an operator that can be compared
with others. -/
def Lasts (grammar : Grammar) (token : Token) : Prop :=
  grammar.roleOf token = some .value ∨ grammar.roleOf token = some .function ∨
    grammar.roleOf token = some .operator ∧ grammar.precedenceOf token ≠ none

variable {grammar : Grammar}

theorem Faultless.precedenceOf_ne_none {tokens : List Token}
    (faultless : grammar.Faultless tokens) {token : Token} (token_mem : token ∈ tokens)
    (role : grammar.roleOf token = some .operator) : grammar.precedenceOf token ≠ none := by
  rcases List.append_of_mem token_mem with ⟨before, after, split⟩
  intro undecided
  have sound := faultless before token after split
  simp [fault?, role, undecided] at sound

theorem lasts_of_rpn {tokens rpn : List Token}
    (converted : (grammar.conversion tokens).rpn = .ok rpn) :
    ∀ token ∈ rpn, grammar.Lasts token := by
  have faultless := (exists_rpn_iff.mp ⟨rpn, converted⟩).1
  intro token token_mem
  have kept := (perm_of_rpn converted).mem_iff.mp token_mem
  rw [List.mem_filter, isKept_iff] at kept
  rcases kept with ⟨token_mem, role | role | role⟩
  · exact .inl role
  · exact .inr (.inl role)
  · exact .inr (.inr ⟨role, faultless.precedenceOf_ne_none token_mem role⟩)

end Grammar

namespace Converter

/-- The answer to a request, and the converter after it. -/
def serve (converter : Converter) (request : Request) : Answer × Converter :=
  let (attempt, next) := converter.perform request.toCall
  (request.answer attempt, next)

/-- The answers to some requests, one after the other, and the converter after them. -/
def session (converter : Converter) : List Request → List Answer × Converter
  | [] => ([], converter)
  | request :: requests =>
      let (answer, next) := converter.serve request
      let (answers, last) := next.session requests
      (answer :: answers, last)

/-- A converter that came about by sessions remembers only what may be part of an output. -/
def Sound (converter : Converter) : Prop :=
  ∀ rpn, converter.last = some rpn → ∀ token ∈ rpn, converter.grammar.Lasts token

theorem attempt_result_eq_ok {converter : Converter} {call : Call} {rpn : List Token}
    (succeeded : (converter.attempt call).result = .ok rpn) :
    ∃ tokens, (converter.grammar.conversion tokens).rpn = .ok rpn := by
  cases call with
  | text expression =>
      cases supplied : converter.rules with
      | none => simp [attempt, attemptText, supplied] at succeeded
      | some rules =>
          rcases (result_text_eq_ok_iff supplied).mp succeeded with ⟨tokens, -, converted⟩
          exact ⟨tokens, converted⟩
  | tokens tokens source => exact ⟨tokens, result_tokens_eq_ok_iff.mp succeeded⟩
  | again => exact ⟨_, result_tokens_eq_ok_iff.mp succeeded⟩

/-- An attempt changes nothing but the last output, and that only if it succeeds. -/
theorem after_eq (converter : Converter) (attempt : Attempt) :
    converter.after attempt =
      { converter with last := attempt.result.toOption.or converter.last } := by
  rw [after]
  cases attempt.result <;> rfl

theorem serve_eq (converter : Converter) (request : Request) :
    converter.serve request =
      (request.answer (converter.attempt request.toCall),
        { converter with
          last :=
            (request.answer (converter.attempt request.toCall)).output?.or converter.last }) := by
  simp only [serve, perform, after_eq, Request.output?_answer]

theorem Sound.serve {converter : Converter} (sound : converter.Sound) (request : Request) :
    (converter.serve request).2.Sound := by
  intro rpn remembered
  simp only [serve_eq, Request.output?_answer] at remembered ⊢
  cases result : (converter.attempt request.toCall).result with
  | ok output =>
      simp only [result, Except.toOption, Option.some_or, Option.some.injEq] at remembered
      subst remembered
      rcases attempt_result_eq_ok result with ⟨tokens, converted⟩
      exact Grammar.lasts_of_rpn converted
  | error failure => exact sound rpn (by simpa [result, Except.toOption] using remembered)

theorem Sound.session {converter : Converter} (sound : converter.Sound)
    (requests : List Request) : (converter.session requests).2.Sound := by
  induction requests generalizing converter with
  | nil => exact sound
  | cons request requests ih => exact ih (sound.serve request)

/-- Without a request for the last output, the last output does not matter. -/
theorem attempt_eq_of_ne_again (converter : Converter) (last : Option (List Token)) {call : Call}
    (other : call ≠ .again) :
    ({ converter with last } : Converter).attempt call = converter.attempt call := by
  cases call with
  | text expression => rfl
  | tokens tokens source => rfl
  | again => contradiction

theorem perform_text (converter : Converter) (last : Option (List Token)) (expression : String) :
    ({ converter with last } : Converter).perform (.text expression) =
      (converter.attempt (.text expression),
        { converter with
          last := (converter.attempt (.text expression)).result.toOption.or last }) := by
  simp only [perform, after_eq, converter.attempt_eq_of_ne_again last, ne_eq, reduceCtorEq,
    not_false_eq_true]

end Converter

end Rpn
