import Mathlib.Data.List.Chain
import Rpn.Proofs.Infix
import Rpn.Proofs.Lexemes

/-!
# Converting what was printed

A tree is printed by writing an infix notation of it as a text, with any blanks around the tokens.
Splitting that text gives the tokens back, because neighbours in a notation never run together: no
operator stands behind an operator, and no value or function behind a value or function
(`Infix.separated`). With what is known about notations, converting the text gives the tree's
postorder.
-/

namespace Rpn

/-- Whether tokens of these roles stay apart without a blank between them: they are not both
operators, not both operands, and not both of no role. -/
def Role.separate : Option Role → Option Role → Bool
  | some .operator, some .operator => false
  | some .value, some .value => false
  | some .value, some .function => false
  | some .function, some .value => false
  | some .function, some .function => false
  | none, none => false
  | _, _ => true

theorem Role.separate_none_left {role : Option Role} (known : role ≠ none) :
    separate none role = true := by
  rcases role with _ | _ | _ | _ | _ | _ | _
  · contradiction
  all_goals rfl

theorem Role.separate_none_right {role : Option Role} (known : role ≠ none) :
    separate role none = true := by
  rcases role with _ | _ | _ | _ | _ | _ | _
  · contradiction
  all_goals rfl

theorem OperatorTable.entry?_of_lookup {α : Type} {table : OperatorTable α} {token : Token}
    (listed : table.lookup token.value ≠ none) : table.entry? token = table.lookup token.value := by
  rcases Option.ne_none_iff_exists'.mp listed with ⟨entry, found⟩
  unfold entry?
  rw [found]

namespace Grammar

variable {grammar : Grammar}

/-- The tokens stay apart from each other. -/
def Separated (grammar : Grammar) (tokens : List Token) : Prop :=
  tokens.IsChain fun first second =>
    Role.separate (grammar.roleOf first) (grammar.roleOf second) = true

/-- What the neighbours of a notation have to know about its ends. -/
def Ended (grammar : Grammar) : Phrase → List Token → Prop
  | .expression _ _, tokens =>
      (∃ first ∈ tokens.head?,
        Role.separate (some .operator) (grammar.roleOf first) = true) ∧
      ∃ last ∈ tokens.getLast?, Role.separate (grammar.roleOf last) (some .operator) = true
  | .parameters _, _ => True
  | .others _, tokens => ∀ first ∈ tokens.head?, grammar.roleOf first = some .separator

theorem separated_bracketed {tokens : List Token} {opening closing : Token}
    (openRole : grammar.roleOf opening = some .openBracket)
    (closeRole : grammar.roleOf closing = some .closeBracket)
    (separated : grammar.Separated tokens) :
    grammar.Separated (opening :: tokens ++ [closing]) := by
  refine List.IsChain.append (List.IsChain.cons separated ?_) (.singleton closing) ?_
  · intro first _
    rw [openRole]
    rfl
  · intro last _ second second_mem
    simp only [List.head?_cons, Option.mem_some_iff] at second_mem
    subst second_mem
    rw [closeRole]
    rcases grammar.roleOf last with _ | _ | _ | _ | _ | _ | _ <;> rfl

theorem Separated.append_others {tokens rest : List Token} {trees : List Tree}
    (separated : grammar.Separated tokens) (separatedRest : grammar.Separated rest)
    (ended : grammar.Ended (.others trees) rest) : grammar.Separated (tokens ++ rest) := by
  apply separated.append separatedRest
  intro last _ first first_mem
  rw [ended first first_mem]
  rcases grammar.roleOf last with _ | _ | _ | _ | _ | _ | _ <;> rfl

/-- In a notation, neighbours stay apart. -/
theorem Infix.separated {phrase : Phrase} {tokens : List Token}
    (written : grammar.Infix phrase tokens) :
    grammar.Separated tokens ∧ grammar.Ended phrase tokens := by
  induction written with
  | @value token role =>
      refine ⟨.singleton token, ⟨token, rfl, ?_⟩, token, rfl, ?_⟩ <;> rw [role] <;> rfl
  | @bracketed root tree tokens opening closing openRole closeRole inner ih =>
      refine ⟨separated_bracketed openRole closeRole ih.1, ⟨opening, rfl, ?_⟩, closing, ?_, ?_⟩
      · rw [openRole]
        rfl
      · exact List.getLast?_concat
      · rw [closeRole]
        rfl
  | @binary leftRoot rightRoot left right leftTokens rightTokens operator role leftFits rightFits
      leftPart rightPart ihLeft ihRight =>
      rcases ihLeft with ⟨separatedLeft, ⟨first, first_mem, firstApart⟩, last, last_mem, lastApart⟩
      rcases ihRight with ⟨separatedRight, ⟨next, next_mem, nextApart⟩, final, final_mem, finalApart⟩
      -- The operator stands apart from what ends on its left and from what begins on its right.
      refine ⟨separatedLeft.append (separatedRight.cons ?_) ?_, ⟨first, ?_, firstApart⟩, final, ?_,
        finalApart⟩
      · intro second second_mem
        rw [Option.mem_unique second_mem next_mem, role]
        exact nextApart
      · intro before before_mem second second_mem
        simp only [List.head?_cons, Option.mem_some_iff] at second_mem
        subst second_mem
        rw [Option.mem_unique before_mem last_mem, role]
        exact lastApart
      · simp [List.head?_append, Option.mem_def.mp first_mem]
      · simp [List.getLast?_append, List.getLast?_cons, Option.mem_def.mp final_mem]
  | @call trees tokens function opening closing role openRole closeRole inner ih =>
      refine ⟨(separated_bracketed openRole closeRole ih.1).cons ?_, ⟨function, rfl, ?_⟩, closing,
        ?_, ?_⟩
      · intro second second_mem
        simp only [List.cons_append, List.head?_cons, Option.mem_some_iff] at second_mem
        subst second_mem
        rw [role, openRole]
        rfl
      · rw [role]
        rfl
      · rw [← List.cons_append]
        exact List.getLast?_concat
      · rw [closeRole]
        rfl
  | noParameters => exact ⟨.nil, trivial⟩
  | parameters first others ihFirst ihOthers =>
      exact ⟨ihFirst.1.append_others ihOthers.1 ihOthers.2, trivial⟩
  | noOthers => exact ⟨.nil, by simp [Ended]⟩
  | @others root tree trees tokens rest separator role next others ihNext ihOthers =>
      refine ⟨(ihNext.1.append_others ihOthers.1 ihOthers.2).cons ?_, ?_⟩
      · intro second _
        rw [role]
        rfl
      · intro first first_mem
        simp only [List.head?_cons, Option.mem_some_iff] at first_mem
        rwa [← first_mem]

end Grammar

namespace Reference

open Text (CodeRange)

/-- Where tokens stay apart, the first is not made longer by the start of the second. -/
theorem endings_apart : ∀ entry ∈ endings, ∀ start ∈ starts,
    Role.separate (classes.roleOf entry.1) (classes.roleOf start.1) = true →
      CodeRange.Apart entry.2 start.2 := by
  decide +kernel

theorem Spells.maximal {tag : String} {chars rest : List Char} (spelled : Spells tag chars)
    (apart : ∀ c ∈ rest.head?, ∃ other, StartsWith other c ∧
      Role.separate (classes.roleOf tag) (classes.roleOf other) = true) :
    Maximal tag chars rest := by
  intro c c_head longer
  rcases longer.ends spelled.ne_nil with ⟨endTable, end_mem, ends⟩
  rcases apart c c_head with ⟨other, ⟨table, table_mem, begins⟩, separate⟩
  have tables := endings_apart _ end_mem _ table_mem separate
  simp [tables.not_covers ends] at begins

/-- A token with a text of its tag, and not a run of blanks. -/
structure IsLexeme (token : Token) : Prop where
  visible : token.tag ≠ "SPACE"
  spelled : Spells token.tag token.value.toList

theorem Spells.isLexeme {tag : String} {chars : List Char} (spelled : Spells tag chars)
    (visible : tag ≠ "SPACE") : IsLexeme ⟨String.ofList chars, tag⟩ :=
  ⟨visible, by simpa using spelled⟩

theorem IsLexeme.roleOf_ne_none {token : Token} (lexeme : IsLexeme token) :
    classes.roleOf token.tag ≠ none := by
  rcases lexeme with ⟨visible, spelled⟩
  generalize token.tag = tag at visible spelled
  generalize token.value.toList = chars at spelled
  cases spelled with
  | blanks _ _ => contradiction
  | _ => decide

/-- The texts with these tokens in order and any blanks in front of them, between them and behind
them. -/
inductive Spaced : List Token → List Char → Prop where
  | nothing {run : List Char} (each : ∀ c ∈ run, Text.isBlank c = true) : Spaced [] run
  | token {run text : List Char} {token : Token} {tokens : List Token}
      (each : ∀ c ∈ run, Text.isBlank c = true) (rest : Spaced tokens text) :
      Spaced (token :: tokens) (run ++ (token.value.toList ++ text))

theorem startsWith_space {c : Char} : StartsWith "SPACE" c ↔ Text.isBlank c = true := by
  constructor
  · rintro ⟨table, table_mem, covered⟩
    have table_eq : table = Text.blanks := by simpa [starts] using table_mem
    rwa [table_eq] at covered
  · exact fun blank => ⟨Text.blanks, by simp [starts], blank⟩

/-- A lexeme ends in front of a blank. -/
theorem IsLexeme.maximal {token : Token} (lexeme : IsLexeme token) {rest : List Char}
    (ended : ∀ c ∈ rest.head?, Text.isBlank c = true) :
    Maximal token.tag token.value.toList rest := by
  apply lexeme.spelled.maximal
  intro c c_head
  exact ⟨"SPACE", startsWith_space.mpr (ended c c_head),
    Role.separate_none_right lexeme.roleOf_ne_none⟩

/-- Blanks in front of a text change nothing in its tokens. -/
theorem Cut.after_blanks {run text : List Char} {tokens : List Token} (cut : Cut tokens text)
    (each : ∀ c ∈ run, Text.isBlank c = true)
    (apart : ∀ c ∈ text.head?, ∃ other, StartsWith other c ∧ classes.roleOf other ≠ none) :
    Cut tokens (run ++ text) := by
  by_cases empty : run = []
  · rwa [empty, List.nil_append]
  · have spelled := Spells.blanks empty each
    refine .blanks spelled (spelled.maximal fun c c_head => ?_) cut
    rcases apart c c_head with ⟨other, begins, known⟩
    exact ⟨other, begins, Role.separate_none_left known⟩

/-- A text with lexemes that stay apart is cut into them. -/
theorem Spaced.cut {tokens : List Token} {text : List Char} (spaced : Spaced tokens text)
    (lexemes : ∀ token ∈ tokens, IsLexeme token) (separated : grammar.Separated tokens) :
    Cut tokens text ∧ ∀ c ∈ text.head?,
      StartsWith "SPACE" c ∨ ∃ next ∈ tokens.head?, StartsWith next.tag c := by
  induction spaced with
  | @nothing run each =>
      refine ⟨?_, fun c c_head => .inl ?_⟩
      · simpa using Cut.nothing.after_blanks each (by simp)
      · exact startsWith_space.mpr (each c (List.mem_of_head? c_head))
  | @token run text token tokens each rest ih =>
      have lexeme := lexemes token (by simp)
      have known := lexeme.roleOf_ne_none
      rcases lexeme.spelled.startsWith with ⟨first, first_head, begins⟩
      rw [Grammar.Separated, List.isChain_cons] at separated
      rcases ih (fun next next_mem => lexemes next (by simp [next_mem])) separated.2 with
        ⟨cutRest, heads⟩
      -- Behind the lexeme comes a blank or the next lexeme, and neither makes it longer.
      have maximal : Maximal token.tag token.value.toList text := by
        apply lexeme.spelled.maximal
        intro c c_head
        rcases heads c c_head with blank | ⟨next, next_head, beginsNext⟩
        · exact ⟨"SPACE", blank, Role.separate_none_right known⟩
        · exact ⟨next.tag, beginsNext, separated.1 next next_head⟩
      have text_head : (token.value.toList ++ text).head? = some first := by
        simp [List.head?_append, Option.mem_def.mp first_head]
      refine ⟨(Cut.token lexeme.visible lexeme.spelled maximal cutRest).after_blanks each ?_, ?_⟩
      · intro c c_head
        rw [text_head, Option.mem_some_iff] at c_head
        exact ⟨token.tag, c_head ▸ begins, known⟩
      · intro c c_head
        cases run with
        | nil =>
            rw [List.nil_append, text_head, Option.mem_some_iff] at c_head
            exact .inr ⟨token, rfl, c_head ▸ begins⟩
        | cons blank run =>
            simp only [List.cons_append, List.head?_cons, Option.mem_some_iff] at c_head
            exact .inl (startsWith_space.mpr (c_head ▸ each blank (by simp)))

theorem IsLexeme.mem_operators {token : Token} (lexeme : IsLexeme token)
    (role : grammar.roleOf token = some .operator) : token.value ∈ operators.map (·.1) := by
  rcases token with ⟨value, tag⟩
  rcases lexeme with ⟨visible, spelled⟩
  simp only [Grammar.roleOf] at role spelled
  generalize chars_eq : value.toList = chars at spelled
  cases spelled with
  | operator listed => exact String.toList_inj.mp chars_eq ▸ listed
  | _ => exact absurd role (by decide)

/-- Each operator is listed under its text. -/
theorem lookup_operators : ∀ text ∈ operators.map (·.1),
    grammar.precedences.lookup text ≠ none ∧ grammar.associativities.lookup text ≠ none := by
  decide

/-- Operators of one precedence group to the same side. -/
theorem operators_agree : ∀ first ∈ operators.map (·.1), ∀ second ∈ operators.map (·.1),
    grammar.precedences.lookup first = grammar.precedences.lookup second →
      grammar.associativities.lookup first = grammar.associativities.lookup second := by
  decide +kernel

theorem coherent_of_lexemes {tokens : List Token} (lexemes : ∀ token ∈ tokens, IsLexeme token) :
    grammar.Coherent tokens := by
  have entries {token : Token} (token_mem : token ∈ tokens)
      (role : grammar.roleOf token = some .operator) :
      token.value ∈ operators.map (·.1) ∧
        grammar.precedenceOf token = grammar.precedences.lookup token.value ∧
        grammar.associativityOf token =
          (grammar.associativities.lookup token.value).getD .left := by
    have listed := (lexemes token token_mem).mem_operators role
    rcases lookup_operators token.value listed with ⟨precedence, side⟩
    refine ⟨listed, OperatorTable.entry?_of_lookup precedence, ?_⟩
    rw [Grammar.associativityOf, OperatorTable.entry?_of_lookup side]
  constructor
  · intro token token_mem role
    rcases entries token_mem role with ⟨listed, precedence_eq, -⟩
    rw [precedence_eq]
    exact (lookup_operators token.value listed).1
  · intro first first_mem second second_mem firstRole secondRole same
    rcases entries first_mem firstRole with ⟨listed, precedence_eq, side_eq⟩
    rcases entries second_mem secondRole with ⟨otherListed, otherPrecedence_eq, otherSide_eq⟩
    rw [precedence_eq, otherPrecedence_eq] at same
    rw [side_eq, otherSide_eq, operators_agree _ listed _ otherListed same]

/-- The trees whose values, operators and functions are lexemes. -/
inductive IsExpression : Tree → Prop where
  | value {token : Token} (lexeme : IsLexeme token)
      (role : grammar.roleOf token = some .value) : IsExpression (.value token)
  | binary {operator : Token} {left right : Tree} (lexeme : IsLexeme operator)
      (role : grammar.roleOf operator = some .operator) (leftPart : IsExpression left)
      (rightPart : IsExpression right) : IsExpression (.binary operator left right)
  | call {function : Token} {trees : List Tree} (lexeme : IsLexeme function)
      (role : grammar.roleOf function = some .function)
      (each : ∀ tree ∈ trees, IsExpression tree) : IsExpression (.call function trees)

/-- The tokens are an infix notation in lexemes. -/
def Notates (tokens : List Token) (phrase : Phrase) : Prop :=
  grammar.Infix phrase tokens ∧ ∀ token ∈ tokens, IsLexeme token

theorem exists_notation_of_parameters {trees : List Tree}
    (each : ∀ tree ∈ trees, ∃ tokens, Notates tokens (.expression none tree)) :
    (∃ tokens, Notates tokens (.parameters trees)) ∧ ∃ tokens, Notates tokens (.others trees) := by
  induction trees with
  | nil => exact ⟨⟨[], .noParameters, by simp⟩, [], .noOthers, by simp⟩
  | cons tree trees ih =>
      rcases each tree (by simp) with ⟨first, written, lexemes⟩
      rcases (ih fun tree tree_mem => each tree (by simp [tree_mem])).2 with
        ⟨later, othersWritten, othersLexemes⟩
      have both : ∀ token ∈ first ++ later, IsLexeme token :=
        List.forall_mem_append.mpr ⟨lexemes, othersLexemes⟩
      have isComma : IsLexeme ⟨",", "PARAM_SEPARATOR"⟩ := Spells.separator.isLexeme (by decide)
      exact ⟨⟨first ++ later, .parameters written othersWritten, both⟩,
        _, .others (by rfl) written othersWritten, List.forall_mem_cons.mpr ⟨isComma, both⟩⟩

/-- Each such tree has a notation. -/
theorem IsExpression.exists_notation {tree : Tree} (expression : IsExpression tree) :
    ∃ tokens, Notates tokens (.expression none tree) := by
  have isOpening : IsLexeme ⟨"(", "OPEN_BRACKET"⟩ := Spells.opening.isLexeme (by decide)
  have isClosing : IsLexeme ⟨")", "CLOSE_BRACKET"⟩ := Spells.closing.isLexeme (by decide)
  have enclosed {tokens : List Token} (lexemes : ∀ token ∈ tokens, IsLexeme token) :
      ∀ token ∈ ⟨"(", "OPEN_BRACKET"⟩ :: tokens ++ [⟨")", "CLOSE_BRACKET"⟩],
        IsLexeme token := by
    simp only [List.cons_append, List.forall_mem_cons, List.forall_mem_append]
    exact ⟨isOpening, lexemes, isClosing, by simp⟩
  induction expression with
  | @value token lexeme role => exact ⟨[token], .value role, by simpa using lexeme⟩
  | binary lexeme role leftPart rightPart ihLeft ihRight =>
      rcases ihLeft with ⟨before, leftWritten, leftLexemes⟩
      rcases ihRight with ⟨behind, rightWritten, rightLexemes⟩
      refine ⟨_, .bracketed (by rfl) (by rfl)
        (.binary role (by simp) (by simp) leftWritten rightWritten), enclosed ?_⟩
      exact List.forall_mem_append.mpr
        ⟨leftLexemes, List.forall_mem_cons.mpr ⟨lexeme, rightLexemes⟩⟩
  | call lexeme role each ih =>
      rcases (exists_notation_of_parameters ih).1 with ⟨tokens, written, lexemes⟩
      exact ⟨_, .call role (by rfl) (by rfl) written,
        List.forall_mem_cons.mpr ⟨lexeme, enclosed lexemes⟩⟩

/-- Converting a text in which an infix notation of a tree is written, with any blanks, gives the
tree's postorder. -/
theorem result_text_eq_postorder {root : Option Token} {tree : Tree} {tokens : List Token}
    {text : String} (notates : Notates tokens (.expression root tree))
    (spaced : Spaced tokens text.toList) :
    (converter.attempt (.text text)).result = .ok tree.postorder := by
  rcases notates with ⟨written, lexemes⟩
  have converted := written.converted (coherent_of_lexemes lexemes)
  have scanned : Lexer.scan rules text = ⟨tokens, none⟩ :=
    scanFrom_of_cut (spaced.cut lexemes written.separated.1).1 []
  simp [Converter.attempt, Converter.attemptText, converter, Converter.new, scanned, Scan.result,
    Attempt.ofConversion, converted, Except.mapError]

/-- The text `(V1 -"\\"")*f()`, with a left operand that needs its brackets. -/
theorem result_text_eq_postorder_escaped :
    let v : Token := ⟨"V1", "VARIABLE"⟩
    let quoted : Token := ⟨"\"\\\"\"", "STRING"⟩
    let f : Token := ⟨"f", "FUNCTION"⟩
    let minus : Token := ⟨"-", "OPERATOR"⟩
    let times : Token := ⟨"*", "OPERATOR"⟩
    let opening : Token := ⟨"(", "OPEN_BRACKET"⟩
    let closing : Token := ⟨")", "CLOSE_BRACKET"⟩
    let tokens := [opening, v, minus, quoted, closing, times, f, opening, closing]
    let tree := Tree.binary times (.binary minus (.value v) (.value quoted)) (.call f [])
    let text := "(V1 -\"\\\"\")*f()"
    Notates tokens (.expression (some times) tree) ∧ Spaced tokens text.toList ∧
      (converter.attempt (.text text)).result = .ok [v, quoted, minus, f, times] := by
  intro v quoted f minus times opening closing tokens tree text
  have lexemes : ∀ token ∈ tokens, IsLexeme token := by
    have isOpening : IsLexeme opening := Spells.opening.isLexeme (by decide)
    have isClosing : IsLexeme closing := Spells.closing.isLexeme (by decide)
    have isV : IsLexeme v := (Spells.numbered (by simp) (List.forall_mem_singleton.mpr (by decide))).isLexeme (by decide)
    have isMinus : IsLexeme minus := ⟨by decide, .operator (by decide)⟩
    have isTimes : IsLexeme times := ⟨by decide, .operator (by decide)⟩
    have mark : ∀ piece ∈ [['\\', '"']], StringPiece piece := by
      intro piece piece_mem
      rw [List.mem_singleton] at piece_mem
      exact piece_mem ▸ .escaped (by decide)
    have isQuoted : IsLexeme quoted := (Spells.quoted (by simp) mark).isLexeme (by decide)
    have named : Spells "FUNCTION" (['f'] ++ []) := .named (by simp) (List.forall_mem_singleton.mpr (by decide)) (by simp)
    have isF : IsLexeme f := named.isLexeme (by decide)
    simp only [tokens, List.forall_mem_cons]
    exact ⟨isOpening, isV, isMinus, isQuoted, isClosing, isTimes, isF, isOpening, isClosing, by simp⟩
  have spaced : Spaced tokens text.toList := by
    have close : ∀ c ∈ ([] : List Char), Text.isBlank c = true := by simp
    have space : ∀ c ∈ [' '], Text.isBlank c = true :=
      List.forall_mem_singleton.mpr (by decide)
    have call : Spaced [f, opening, closing] _ :=
      .token close (.token close (.token close (.nothing close)))
    have operand : Spaced [minus, quoted, closing, times, f, opening, closing] _ :=
      .token space (.token close (.token close (.token close call)))
    have whole : Spaced tokens _ := .token close (.token close operand)
    refine (congrArg (Spaced tokens) ?_).mpr whole
    decide
  have written : grammar.Infix (.expression (some times) tree) tokens := by
    have difference : grammar.Infix (.expression (some minus)
        (.binary minus (.value v) (.value quoted))) [v, minus, quoted] :=
      .binary (by rfl) (by simp) (by simp) (.value (by rfl)) (.value (by rfl))
    have call : grammar.Infix (.expression none (.call f [])) [f, opening, closing] :=
      .call (by rfl) (by rfl) (by rfl) .noParameters
    exact .binary (by rfl) (by simp) (by simp)
      (.bracketed (by rfl) (by rfl) difference) call
  exact ⟨⟨written, lexemes⟩, spaced, result_text_eq_postorder ⟨written, lexemes⟩ spaced⟩

end Reference

end Rpn
