import Rpn.Proofs.Recognition

/-!
# The outcome for any text

What the reference converter answers for a text is decided by two things: whether its rules cut the
whole text, and where the brackets and commas among the tokens stand. An operator without a
precedence never occurs, because the text of every operator token is listed.
-/

namespace Rpn.Reference

/-- The number of opening brackets less the number of closing brackets. -/
def nesting (tokens : List Token) : Int :=
  tokens.count ⟨"(", "OPEN_BRACKET"⟩ - tokens.count ⟨")", "CLOSE_BRACKET"⟩

/-- Some closing bracket or comma stands in no bracket. -/
def Unopened (tokens : List Token) : Prop :=
  ∃ before token after, tokens = before ++ token :: after ∧
    (token = ⟨")", "CLOSE_BRACKET"⟩ ∨ token = ⟨",", "PARAM_SEPARATOR"⟩) ∧ nesting before = 0

/-- The reference converter succeeds. -/
def Converts (text : String) : Prop :=
  ∃ rpn, (converter.attempt (.text text)).result = .ok rpn

/-- The reference converter fails with an error of this kind, for the text as it is. -/
def Reports (text : String) (kind : ErrorKind) : Prop :=
  ∃ cause, (converter.attempt (.text text)).result = .error (.expression ⟨cause, text⟩) ∧
    cause.kind = kind

theorem isLexeme_of_tokenizes {text : List Char} {tokens : List Token}
    (tokenizes : Lexer.Tokenizes rules text tokens) : ∀ token ∈ tokens, IsLexeme token := by
  rcases tokenizes with ⟨segments, tiles, rfl⟩
  intro token token_mem
  rcases List.mem_filterMap.mp token_mem with ⟨segment, segment_mem, given⟩
  exact isLexeme_of_selects (tiles.selects segment segment_mem) given

theorem roleOf_tags : ∀ tag ∈ starts.map (·.1),
    (classes.roleOf tag = some .openBracket ↔ tag = "OPEN_BRACKET") ∧
      (classes.roleOf tag = some .closeBracket ↔ tag = "CLOSE_BRACKET") ∧
      (classes.roleOf tag = some .separator ↔ tag = "PARAM_SEPARATOR") := by
  decide

theorem Spells.single {tag : String} {chars : List Char} (spelled : Spells tag chars) :
    (tag = "OPEN_BRACKET" → chars = "(".toList) ∧ (tag = "CLOSE_BRACKET" → chars = ")".toList) ∧
      (tag = "PARAM_SEPARATOR" → chars = ",".toList) := by
  cases spelled <;> simp

/-- Brackets and commas are told from other lexemes by their roles. -/
theorem IsLexeme.roleOf_iff {token : Token} (lexeme : IsLexeme token) :
    (grammar.roleOf token = some .openBracket ↔ token = ⟨"(", "OPEN_BRACKET"⟩) ∧
      (grammar.roleOf token = some .closeBracket ↔ token = ⟨")", "CLOSE_BRACKET"⟩) ∧
      (grammar.roleOf token = some .separator ↔ token = ⟨",", "PARAM_SEPARATOR"⟩) := by
  rcases token with ⟨value, tag⟩
  rcases lexeme.spelled.startsWith with ⟨c, -, table, listed, -⟩
  have roles := roleOf_tags tag (List.mem_map_of_mem listed)
  have texts := lexeme.spelled.single
  simp only [String.toList_inj] at texts
  simp only [Grammar.roleOf, Token.mk.injEq]
  exact ⟨roles.1.trans ⟨fun same => ⟨texts.1 same, same⟩, And.right⟩,
    roles.2.1.trans ⟨fun same => ⟨texts.2.1 same, same⟩, And.right⟩,
    roles.2.2.trans ⟨fun same => ⟨texts.2.2 same, same⟩, And.right⟩⟩

theorem depth_eq_nesting {tokens : List Token} (lexemes : ∀ token ∈ tokens, IsLexeme token) :
    grammar.depth tokens = nesting tokens := by
  have opened : tokens.countP (grammar.plays .openBracket) =
      tokens.count ⟨"(", "OPEN_BRACKET"⟩ := by
    apply List.countP_congr
    intro token token_mem
    simpa using (lexemes token token_mem).roleOf_iff.1
  have closed : tokens.countP (grammar.plays .closeBracket) =
      tokens.count ⟨")", "CLOSE_BRACKET"⟩ := by
    apply List.countP_congr
    intro token token_mem
    simpa using (lexemes token token_mem).roleOf_iff.2.1
  rw [Grammar.depth, opened, closed, nesting]

/-- The only faults of lexemes are closing brackets and commas that stand in no bracket. -/
theorem fault?_of_isLexeme {token : Token} (lexeme : IsLexeme token) (depth : Int) :
    (∀ cause, grammar.fault? depth token = some cause → cause.kind = .unmatchedBracket) ∧
      (grammar.fault? depth token ≠ none ↔
        (token = ⟨")", "CLOSE_BRACKET"⟩ ∨ token = ⟨",", "PARAM_SEPARATOR"⟩) ∧ depth = 0) := by
  rcases lexeme.roleOf_iff with ⟨-, closing, comma⟩
  rw [← closing, ← comma, Grammar.fault?]
  cases role : grammar.roleOf token with
  | none => simp
  | some kind =>
      cases kind with
      | operator =>
          have coherent := coherent_of_lexemes (List.forall_mem_singleton.mpr lexeme)
          simp [coherent.decided token (by simp) role]
      | separator | closeBracket => by_cases outside : depth = 0 <;> simp [outside, Cause.kind]
      | value | function | openBracket => simp

theorem faultless_iff {tokens : List Token} (lexemes : ∀ token ∈ tokens, IsLexeme token) :
    grammar.Faultless tokens ↔ ¬ Unopened tokens := by
  have nesting_of {before after : List Token} {token : Token}
      (split : tokens = before ++ token :: after) : IsLexeme token ∧
        grammar.depth before = nesting before := by
    subst split
    exact ⟨lexemes token (by simp),
      depth_eq_nesting fun other other_mem => lexemes other (by simp [other_mem])⟩
  constructor
  · rintro faultless ⟨before, token, after, split, unopened, outside⟩
    rcases nesting_of split with ⟨lexeme, depth_eq⟩
    have sound := faultless before token after split
    rw [depth_eq, outside] at sound
    exact ((fault?_of_isLexeme lexeme 0).2.mpr ⟨unopened, rfl⟩) sound
  · intro opened before token after split
    rcases nesting_of split with ⟨lexeme, depth_eq⟩
    by_contra fault
    rcases (fault?_of_isLexeme lexeme _).2.mp fault with ⟨unopened, outside⟩
    exact opened ⟨before, token, after, split, unopened, depth_eq ▸ outside⟩

theorem rpn_of_lexemes {tokens : List Token} (lexemes : ∀ token ∈ tokens, IsLexeme token) :
    (Unopened tokens → ∃ cause, (grammar.conversion tokens).rpn = .error cause ∧
        cause.kind = .unmatchedBracket) ∧
      (¬ Unopened tokens → 0 < nesting tokens →
        (grammar.conversion tokens).rpn = .error .mismatchedBrackets) ∧
      (¬ Unopened tokens → nesting tokens ≤ 0 →
        ∃ rpn, (grammar.conversion tokens).rpn = .ok rpn) := by
  rw [← faultless_iff lexemes, ← depth_eq_nesting lexemes]
  refine ⟨?_, fun faultless => (Grammar.rpn_of_faultless faultless).1,
    fun faultless => (Grammar.rpn_of_faultless faultless).2⟩
  intro unopened
  have faulty : ¬ grammar.Faultless tokens := by simpa [faultless_iff lexemes] using unopened
  rcases Grammar.exists_first_fault faulty with ⟨before, token, after, cause, rfl, sound, fault⟩
  have lexeme := lexemes token (by simp)
  exact ⟨cause, Grammar.rpn_of_first_fault after sound fault,
    (fault?_of_isLexeme lexeme _).1 cause fault⟩

theorem Reports.unique {text : String} {kind other : ErrorKind} (reports : Reports text kind)
    (reportsToo : Reports text other) : other = kind := by
  rcases reports with ⟨cause, failed, rfl⟩
  rcases reportsToo with ⟨cause', failed', rfl⟩
  rw [failed] at failed'
  simp only [Except.error.injEq, Failure.expression.injEq, ExpressionError.mk.injEq] at failed'
  rw [failed'.1]

theorem Reports.not_converts {text : String} {kind : ErrorKind} (reports : Reports text kind) :
    ¬ Converts text := by
  rintro ⟨rpn, converted⟩
  rcases reports with ⟨cause, failed, -⟩
  rw [failed] at converted
  contradiction

theorem reports_of_not_tokenizes {text : String}
    (uncut : ¬ ∃ tokens, Lexer.Tokenizes rules text.toList tokens) : Reports text .lexical := by
  cases scanned : (Lexer.scan rules text).result with
  | ok tokens =>
      have tokenizes := (Lexer.result_scan_eq_ok_iff fun rule => answers_of_mem).mp scanned
      exact absurd ⟨tokens, tokenizes⟩ uncut
  | error fault =>
      rcases Lexer.result_scan_eq_error (fun rule => answers_of_mem) scanned with ⟨position, rfl⟩
      exact ⟨.noRule position, Converter.result_text_of_noRule rfl scanned, rfl⟩

theorem outcome_of_tokenizes {text : String} {tokens : List Token}
    (tokenizes : Lexer.Tokenizes rules text.toList tokens) :
    Unopened tokens ∧ Reports text .unmatchedBracket ∨
      (¬ Unopened tokens ∧ 0 < nesting tokens) ∧ Reports text .mismatchedBrackets ∨
      (¬ Unopened tokens ∧ nesting tokens ≤ 0) ∧ Converts text := by
  have scanned := (Lexer.result_scan_eq_ok_iff fun rule => answers_of_mem).mpr tokenizes
  have result_eq : (converter.attempt (.text text)).result =
      (converter.attempt (.tokens tokens text)).result :=
    Converter.result_text_of_scanned rfl scanned
  rcases rpn_of_lexemes (isLexeme_of_tokenizes tokenizes) with ⟨unmatched, mismatched, accepted⟩
  by_cases unopened : Unopened tokens
  · rcases unmatched unopened with ⟨cause, failed, kind_eq⟩
    exact .inl ⟨unopened, cause,
      result_eq.trans (Converter.result_tokens_eq_error_iff.mpr ⟨cause, failed, rfl⟩), kind_eq⟩
  · by_cases positive : 0 < nesting tokens
    · have failed := mismatched unopened positive
      exact .inr (.inl ⟨⟨unopened, positive⟩, _,
        result_eq.trans (Converter.result_tokens_eq_error_iff.mpr ⟨_, failed, rfl⟩), rfl⟩)
    · have closed : nesting tokens ≤ 0 := by omega
      rcases accepted unopened closed with ⟨rpn, converted⟩
      exact .inr (.inr ⟨⟨unopened, closed⟩, rpn,
        result_eq.trans (Converter.result_tokens_eq_ok_iff.mpr converted)⟩)

/-- For every text the reference converter succeeds or reports one of three kinds of errors. Which
of them is decided by whether the rules cut the whole text, and by the nesting of its tokens. -/
theorem outcome_text (text : String) :
    (Converts text ∨ Reports text .lexical ∨ Reports text .unmatchedBracket ∨
        Reports text .mismatchedBrackets) ∧
      (Reports text .lexical ↔ ¬ ∃ tokens, Lexer.Tokenizes rules text.toList tokens) ∧
      ∀ tokens, Lexer.Tokenizes rules text.toList tokens →
        (Reports text .unmatchedBracket ↔ Unopened tokens) ∧
          (Reports text .mismatchedBrackets ↔ ¬ Unopened tokens ∧ 0 < nesting tokens) ∧
          (Converts text ↔ ¬ Unopened tokens ∧ nesting tokens ≤ 0) := by
  refine ⟨?_, ?_, ?_⟩
  · by_cases cut : ∃ tokens, Lexer.Tokenizes rules text.toList tokens
    · rcases cut with ⟨tokens, tokenizes⟩
      rcases outcome_of_tokenizes tokenizes with
        ⟨-, unmatched⟩ | ⟨-, mismatched⟩ | ⟨-, converts⟩
      · exact .inr (.inr (.inl unmatched))
      · exact .inr (.inr (.inr mismatched))
      · exact .inl converts
    · exact .inr (.inl (reports_of_not_tokenizes cut))
  · refine ⟨?_, reports_of_not_tokenizes⟩
    rintro lexical ⟨tokens, tokenizes⟩
    rcases outcome_of_tokenizes tokenizes with ⟨-, unmatched⟩ | ⟨-, mismatched⟩ | ⟨-, converts⟩
    · exact absurd (lexical.unique unmatched) (by decide)
    · exact absurd (lexical.unique mismatched) (by decide)
    · exact lexical.not_converts converts
  · -- The three conditions exclude each other, as do the three outcomes.
    intro tokens tokenizes
    rcases outcome_of_tokenizes tokenizes with
      ⟨unopened, unmatched⟩ | ⟨⟨opened, positive⟩, mismatched⟩ | ⟨⟨opened, closed⟩, converts⟩
    · refine ⟨iff_of_true unmatched unopened, iff_of_false ?_ ?_, iff_of_false ?_ ?_⟩
      · exact fun mismatched => absurd (unmatched.unique mismatched) (by decide)
      · exact fun closed => closed.1 unopened
      · exact unmatched.not_converts
      · exact fun closed => closed.1 unopened
    · refine ⟨iff_of_false ?_ opened, iff_of_true mismatched ⟨opened, positive⟩,
        iff_of_false mismatched.not_converts ?_⟩
      · exact fun unmatched => absurd (mismatched.unique unmatched) (by decide)
      · exact fun closed => absurd positive (by omega)
    · refine ⟨iff_of_false ?_ opened, iff_of_false ?_ ?_, iff_of_true converts ⟨opened, closed⟩⟩
      · exact fun unmatched => unmatched.not_converts converts
      · exact fun mismatched => mismatched.not_converts converts
      · exact fun positive => absurd positive.2 (by omega)

end Rpn.Reference
