import Rpn.Proofs.Parser

/-!
# The parser and the conversion

The parser succeeds on every sequence that the infix grammar allows (`Derives`), and the tree that
it builds has the sequence as an infix notation. So the conversion of the sequence is the
postorder of the tree. The proof follows the parser through its loop: `Climbed` says what the loop
makes of operators behind an expression, up to the first one that does not reach the bound.
-/

namespace Rpn.Grammar

/-- The parts of an expression in the infix grammar. -/
inductive Category where
  | expression
  | primary
  /-- Operators, each with an operand behind it. -/
  | tail
  | parameters
  /-- Separators, each with an expression behind it. -/
  | others

/-- The token sequences that the infix grammar allows. -/
inductive Derives (grammar : Grammar) : Category → List Token → Prop where
  | expression {first rest : List Token} (operand : Derives grammar .primary first)
      (tail : Derives grammar .tail rest) : Derives grammar .expression (first ++ rest)
  | tailEnd : Derives grammar .tail []
  | tailNext {operator : Token} {first rest : List Token}
      (role : grammar.roleOf operator = some .operator)
      (operand : Derives grammar .primary first) (tail : Derives grammar .tail rest) :
      Derives grammar .tail (operator :: (first ++ rest))
  | value {token : Token} (role : grammar.roleOf token = some .value) :
      Derives grammar .primary [token]
  | bracketed {tokens : List Token} {opening closing : Token}
      (openRole : grammar.roleOf opening = some .openBracket)
      (closeRole : grammar.roleOf closing = some .closeBracket)
      (inner : Derives grammar .expression tokens) :
      Derives grammar .primary (opening :: tokens ++ [closing])
  | call {tokens : List Token} {function opening closing : Token}
      (role : grammar.roleOf function = some .function)
      (openRole : grammar.roleOf opening = some .openBracket)
      (closeRole : grammar.roleOf closing = some .closeBracket)
      (inner : Derives grammar .parameters tokens) :
      Derives grammar .primary (function :: (opening :: tokens ++ [closing]))
  | noParameters : Derives grammar .parameters []
  | parameters {tokens rest : List Token} (first : Derives grammar .expression tokens)
      (others : Derives grammar .others rest) : Derives grammar .parameters (tokens ++ rest)
  | noOthers : Derives grammar .others []
  | others {tokens rest : List Token} {separator : Token}
      (role : grammar.roleOf separator = some .separator)
      (next : Derives grammar .expression tokens) (others : Derives grammar .others rest) :
      Derives grammar .others (separator :: (tokens ++ rest))

variable {grammar : Grammar} {known : List Token}

/-- A place behind which no operator follows, so that an expression ends there. -/
def Ends (grammar : Grammar) (behind : List Token) : Prop :=
  ∀ token ∈ behind.head?, grammar.roleOf token ≠ some .operator

/-- Operators with operands that the parser reads, whatever follows them. -/
inductive Operands (grammar : Grammar) : List Token → Prop where
  | nil : Operands grammar []
  | cons {operator : Token} {first rest : List Token} {tree : Tree}
      (role : grammar.roleOf operator = some .operator)
      (written : grammar.Infix (.expression none tree) first)
      (parsed : ∀ behind, grammar.primary? (first ++ behind) = some (tree, behind))
      (tail : Operands grammar rest) : Operands grammar (operator :: (first ++ rest))

theorem fits_right_of_admits {outer inner : Token} {p q : Int}
    (outerEq : grammar.precedenceOf outer = some p) (innerEq : grammar.precedenceOf inner = some q)
    (admitted : admits (some (grammar.leastBehind outer p)) q = true) :
    grammar.Fits .right outer inner := by
  refine ⟨p, q, outerEq, innerEq, ?_⟩
  cases side : grammar.associativityOf outer with
  | left =>
      simp only [admits, leastBehind, side, Option.all_some, decide_eq_true_eq] at admitted
      left
      omega
  | right =>
      simp only [admits, leastBehind, side, Option.all_some, decide_eq_true_eq] at admitted
      simp only [and_true]
      omega

theorem fits_left_of_not_admits {outer inner : Token} {p q : Int}
    (innerEq : grammar.precedenceOf inner = some p) (outerEq : grammar.precedenceOf outer = some q)
    (refused : admits (some (grammar.leastBehind inner p)) q = false)
    (agreeing : grammar.precedenceOf inner = grammar.precedenceOf outer →
      grammar.associativityOf inner = grammar.associativityOf outer) :
    grammar.Fits .left outer inner := by
  refine ⟨q, p, outerEq, innerEq, ?_⟩
  cases side : grammar.associativityOf inner with
  | left =>
      simp only [admits, leastBehind, side, Option.all_some, decide_eq_false_iff_not] at refused
      rcases Int.lt_or_eq_of_le (show q ≤ p by omega) with less | equal
      · exact Or.inl less
      · exact Or.inr ⟨equal, by rw [← agreeing (by rw [innerEq, outerEq, equal]), side]⟩
  | right =>
      simp only [admits, leastBehind, side, Option.all_some, decide_eq_false_iff_not] at refused
      exact Or.inl (by omega)

/-- What the loop makes of operators behind an expression: it reads some of them, up to the first
one that does not reach the bound. -/
inductive Climbed (grammar : Grammar) (least : Option Int) (root : Option Token) (left : Tree)
    (leftTokens : List Token) : List Token → Prop where
  | intro {used rest : List Token} {last : Option Token} {tree : Tree}
      (operands : grammar.Operands rest)
      (climbed : ∀ behind, grammar.Ends behind →
        grammar.climb? least left (used ++ (rest ++ behind)) = some (tree, rest ++ behind))
      (written : grammar.Infix (.expression last tree) (leftTokens ++ used))
      (stops : ∀ operator ∈ rest.head?, ∃ p, grammar.precedenceOf operator = some p ∧
        admits least p = false)
      (reaches : ∀ inner ∈ last, inner ∈ root ∨
        ∃ p, grammar.precedenceOf inner = some p ∧ admits least p = true) :
      Climbed grammar least root left leftTokens (used ++ rest)

theorem Operands.head_role {tail : List Token} (operands : grammar.Operands tail) :
    ∀ operator ∈ tail.head?, grammar.roleOf operator = some .operator := by
  cases operands with
  | nil => simp
  | cons role _ _ _ => simpa using role

theorem climbed_of_refused {least : Option Int} {root : Option Token} {left : Tree}
    {leftTokens tail : List Token} (operands : grammar.Operands tail)
    (written : grammar.Infix (.expression root left) leftTokens)
    (stops : ∀ operator ∈ tail.head?, ∃ p, grammar.precedenceOf operator = some p ∧
      admits least p = false) :
    grammar.Climbed least root left leftTokens tail := by
  rw [← List.nil_append tail]
  refine .intro operands ?_ (by simpa using written) stops fun inner inner_mem => Or.inl inner_mem
  intro behind ends
  cases operands with
  | nil =>
      cases behind with
      | nil => simp [climb?]
      | cons token behind =>
          simp [climb?, show grammar.roleOf token ≠ _ from ends token (by simp)]
  | @cons operator _ _ _ role _ _ _ =>
      rcases stops operator (by simp) with ⟨p, found, refused⟩
      simp [climb?, role, found, refused]

/-- An operator at which the right operand of another one stops takes that one to its left. -/
theorem fits_left_of_stops (coherent : grammar.Coherent known) {operator : Token} {precedence : Int}
    {remaining : List Token} (operator_mem : operator ∈ known)
    (role : grammar.roleOf operator = some .operator)
    (found : grammar.precedenceOf operator = some precedence)
    (operands : grammar.Operands remaining) (within : ∀ token ∈ remaining, token ∈ known)
    (stops : ∀ next ∈ remaining.head?, ∃ p, grammar.precedenceOf next = some p ∧
      admits (some (grammar.leastBehind operator precedence)) p = false) :
    ∀ next ∈ remaining.head?, ∀ inner ∈ some operator, grammar.Fits .left next inner := by
  intro next next_head inner inner_mem
  simp only [Option.mem_some_iff] at inner_mem
  subst inner
  have next_mem := within next (List.mem_of_mem_head? next_head)
  rcases stops next next_head with ⟨q, nextEq, refused⟩
  apply fits_left_of_not_admits found nextEq refused
  exact coherent.agreeing operator operator_mem next next_mem role
    (operands.head_role next next_head)

/-- One round of the loop: it reads an operator that reaches the bound with its right operand, and
goes on behind them. -/
theorem Climbed.behind_operator {least : Option Int} {root : Option Token} {left tree right : Tree}
    {leftTokens first inside outside : List Token} {operator : Token} {precedence : Int}
    (role : grammar.roleOf operator = some .operator)
    (found : grammar.precedenceOf operator = some precedence)
    (admitted : admits least precedence = true)
    (parsed : ∀ behind, grammar.primary? (first ++ behind) = some (tree, behind))
    (readInside : ∀ behind, grammar.Ends behind →
      grammar.climb? (some (grammar.leastBehind operator precedence)) tree
        (inside ++ (outside ++ behind)) = some (right, outside ++ behind))
    (goesOn : grammar.Climbed least (some operator) (.binary operator left right)
      (leftTokens ++ operator :: (first ++ inside)) outside) :
    grammar.Climbed least root left leftTokens (operator :: (first ++ (inside ++ outside))) := by
  cases goesOn with
  | @intro used rest last whole operands climbed written stops reaches =>
  have split : operator :: (first ++ (inside ++ (used ++ rest))) =
      (operator :: (first ++ (inside ++ used))) ++ rest := by
    simp
  rw [split]
  refine .intro operands ?_ (by simpa using written) stops ?_
  · intro behind ends
    have readRight : grammar.expression? (some (grammar.leastBehind operator precedence))
        (first ++ (inside ++ (used ++ (rest ++ behind)))) =
          some (right, used ++ (rest ++ behind)) := by
      rw [expression?_eq, parsed]
      simpa using readInside behind ends
    simp [climb?_cons, role, found, admitted, readRight, climbed behind ends]
  · intro inner inner_mem
    rcases reaches inner inner_mem with root_mem | reached
    · simp only [Option.mem_some_iff] at root_mem
      subst inner
      exact Or.inr ⟨precedence, found, admitted⟩
    · exact Or.inr reached

/-- The loop reads operators as long as they reach the bound, and the tree that it builds has what
it read as a notation. -/
theorem climbed_of_operands (coherent : grammar.Coherent known) {tail : List Token}
    (operands : grammar.Operands tail) (within : ∀ token ∈ tail, token ∈ known)
    {least : Option Int} {root : Option Token} {left : Tree} {leftTokens : List Token}
    (written : grammar.Infix (.expression root left) leftTokens)
    (fits : ∀ operator ∈ tail.head?, ∀ inner ∈ root, grammar.Fits .left operator inner) :
    grammar.Climbed least root left leftTokens tail := by
  induction size : tail.length using Nat.strongRecOn
    generalizing tail least root left leftTokens with
  | ind size ih =>
  cases operands with
  | nil => exact climbed_of_refused .nil written (by simp)
  | @cons operator first rest tree role operandWritten parsed operands =>
      have operator_mem : operator ∈ known := within operator (by simp)
      have withinRest : ∀ token ∈ rest, token ∈ known :=
        fun token token_mem => within token (by simp [token_mem])
      rcases Option.ne_none_iff_exists'.mp (coherent.decided operator operator_mem role) with
        ⟨precedence, found⟩
      cases admitted : admits least precedence with
      | false =>
          apply climbed_of_refused (.cons role operandWritten parsed operands) written
          simpa using ⟨precedence, found, admitted⟩
      | true =>
          simp only [List.length_cons, List.length_append] at size
          -- The right operand is read by the same loop, under the bound of the operator.
          have behindOperator : grammar.Climbed (some (grammar.leastBehind operator precedence))
              none tree first rest :=
            ih rest.length (by omega) operands withinRest operandWritten (by simp) rfl
          cases behindOperator with
          | @intro inside outside rightRoot right remaining climbed rightWritten stops reaches =>
          have rightFits : ∀ inner ∈ rightRoot, grammar.Fits .right operator inner := by
            intro inner inner_mem
            rcases reaches inner inner_mem with impossible | ⟨q, innerEq, reached⟩
            · simp at impossible
            · exact fits_right_of_admits found innerEq reached
          have joined := Infix.binary role (fits operator (by simp)) rightFits written rightWritten
          -- Behind it the loop goes on with the operator at the root of the left operand.
          have withinOutside : ∀ token ∈ outside, token ∈ known :=
            fun token token_mem => withinRest token (by simp [token_mem])
          have nextFits := fits_left_of_stops coherent operator_mem role found remaining
            withinOutside stops
          exact .behind_operator role found admitted parsed climbed
            (ih outside.length (by simp only [List.length_append] at size; omega) remaining
              withinOutside joined nextFits rfl)

/-- What the parser makes of a part of an expression, whatever may follow the part. -/
def Parsed (grammar : Grammar) : Category → List Token → Prop
  | .expression, tokens =>
      ∃ root tree, grammar.Infix (.expression root tree) tokens ∧
        ∀ behind, grammar.Ends behind →
          grammar.expression? none (tokens ++ behind) = some (tree, behind)
  | .primary, tokens =>
      ∃ tree, grammar.Infix (.expression none tree) tokens ∧
        ∀ behind, grammar.primary? (tokens ++ behind) = some (tree, behind)
  | .tail, tokens => grammar.Operands tokens
  | .parameters, tokens =>
      ∃ trees, grammar.Infix (.parameters trees) tokens ∧
        ∀ closing behind, grammar.roleOf closing = some .closeBracket →
          grammar.parameters? (tokens ++ closing :: behind) = some (trees, behind)
  | .others, tokens =>
      (∀ token ∈ tokens.head?, grammar.roleOf token = some .separator) ∧
        ∃ trees, grammar.Infix (.others trees) tokens ∧
          ∀ closing behind, grammar.roleOf closing = some .closeBracket →
            grammar.others? (tokens ++ closing :: behind) = some (trees, behind)

theorem expect?_of_role {role : Role} {token : Token} (found : grammar.roleOf token = some role)
    (rest : List Token) : grammar.expect? role (token :: rest) = some rest := by
  simp [expect?, found]

theorem expect?_of_ne {role : Role} {token : Token} (other : grammar.roleOf token ≠ some role)
    (rest : List Token) : grammar.expect? role (token :: rest) = none := by
  simp [expect?, other]

theorem Ends.of_role {role : Role} {token : Token} (found : grammar.roleOf token = some role)
    (other : role ≠ .operator) (rest : List Token) : grammar.Ends (token :: rest) := by
  intro first first_head
  simp only [List.head?_cons, Option.mem_some_iff] at first_head
  subst first
  simpa [found] using other

theorem ends_of_others {rest : List Token} {closing : Token}
    (separated : ∀ token ∈ rest.head?, grammar.roleOf token = some .separator)
    (closeRole : grammar.roleOf closing = some .closeBracket) (behind : List Token) :
    grammar.Ends (rest ++ closing :: behind) := by
  cases rest with
  | nil => exact .of_role closeRole (by simp) behind
  | cons token rest => exact .of_role (separated token (by simp)) (by simp) _

theorem Derives.head_of_primary {tokens : List Token} (derives : grammar.Derives .primary tokens) :
    ∃ token rest, tokens = token :: rest ∧ grammar.roleOf token ≠ some .closeBracket := by
  cases derives with
  | value role => exact ⟨_, _, rfl, by simp [role]⟩
  | bracketed openRole closeRole inner => exact ⟨_, _, rfl, by simp [openRole]⟩
  | call role openRole closeRole inner => exact ⟨_, _, rfl, by simp [role]⟩

theorem Derives.head_of_expression {tokens : List Token}
    (derives : grammar.Derives .expression tokens) :
    ∃ token rest, tokens = token :: rest ∧ grammar.roleOf token ≠ some .closeBracket := by
  cases derives with
  | expression operand tail =>
      rcases operand.head_of_primary with ⟨token, rest, rfl, notClosing⟩
      exact ⟨token, rest ++ _, rfl, notClosing⟩

/-- Without a bound the loop reads all operators that follow. -/
theorem parsed_expression (coherent : grammar.Coherent known) {first rest : List Token} {tree : Tree}
    (written : grammar.Infix (.expression none tree) first)
    (parsed : ∀ behind, grammar.primary? (first ++ behind) = some (tree, behind))
    (operands : grammar.Operands rest) (within : ∀ token ∈ rest, token ∈ known) :
    grammar.Parsed .expression (first ++ rest) := by
  have climbed : grammar.Climbed none none tree first rest :=
    climbed_of_operands coherent operands within written (by simp)
  cases climbed with
  | @intro used last root whole operands climbed written stops reaches =>
  cases last with
  | nil =>
      refine ⟨root, whole, by simpa using written, ?_⟩
      intro behind ends
      rw [List.append_assoc, expression?_eq, parsed]
      simpa using climbed behind ends
  | cons operator last =>
      rcases stops operator (by simp) with ⟨p, _, refused⟩
      simp [admits] at refused

/-- The parser reads every part of the infix grammar as a tree that the part is a notation of. -/
theorem Derives.parsed {category : Category} {tokens : List Token}
    (derives : grammar.Derives category tokens) (coherent : grammar.Coherent tokens) :
    grammar.Parsed category tokens := by
  induction derives with
  | @expression first rest operand tail ihOperand ihTail =>
      rcases ihOperand (coherent.mono (by simp +contextual)) with ⟨tree, written, parsed⟩
      have operands := ihTail (coherent.mono (by simp +contextual))
      exact parsed_expression coherent written parsed operands (by simp +contextual)
  | tailEnd => exact .nil
  | tailNext role operand tail ihOperand ihTail =>
      rcases ihOperand (coherent.mono (by simp +contextual)) with ⟨tree, written, parsed⟩
      exact .cons role written parsed (ihTail (coherent.mono (by simp +contextual)))
  | value role =>
      refine ⟨.value _, .value role, ?_⟩
      intro behind
      simp [primary?, role]
  | bracketed openRole closeRole inner ih =>
      rcases ih (coherent.mono (by simp +contextual)) with ⟨root, tree, written, parsed⟩
      refine ⟨tree, .bracketed openRole closeRole written, ?_⟩
      intro behind
      have ends := Ends.of_role closeRole (by simp) behind
      simp [primary?, openRole, parsed _ ends, expect?_of_role closeRole]
  | call role openRole closeRole inner ih =>
      rcases ih (coherent.mono (by simp +contextual)) with ⟨trees, written, parsed⟩
      refine ⟨.call _ trees, .call role openRole closeRole written, ?_⟩
      intro behind
      simp [primary?_function role, expect?_of_role openRole, parsed _ _ closeRole]
  | noParameters =>
      refine ⟨[], .noParameters, ?_⟩
      intro closing behind closeRole
      simp [parameters?, expect?_of_role closeRole]
  | @parameters tokens rest first others ihFirst ihOthers =>
      rcases ihFirst (coherent.mono (by simp +contextual)) with ⟨root, tree, written, parsed⟩
      rcases ihOthers (coherent.mono (by simp +contextual)) with
        ⟨separated, trees, othersWritten, othersParsed⟩
      refine ⟨tree :: trees, .parameters written othersWritten, ?_⟩
      intro closing behind closeRole
      rcases first.head_of_expression with ⟨token, inside, rfl, notClosing⟩
      have read := parsed _ (ends_of_others separated closeRole behind)
      simp only [List.cons_append, List.append_assoc] at read ⊢
      rw [parameters?_eq (expect?_of_ne notClosing _)]
      simp [read, othersParsed closing behind closeRole]
  | noOthers =>
      refine ⟨by simp, [], .noOthers, ?_⟩
      intro closing behind closeRole
      simp [others?, expect?_of_role closeRole]
  | @others tokens rest separator role next others ihNext ihOthers =>
      rcases ihNext (coherent.mono (by simp +contextual)) with ⟨root, tree, written, parsed⟩
      rcases ihOthers (coherent.mono (by simp +contextual)) with
        ⟨separated, trees, othersWritten, othersParsed⟩
      refine ⟨by simpa using role, tree :: trees, .others role written othersWritten, ?_⟩
      intro closing behind closeRole
      have read := parsed _ (ends_of_others separated closeRole behind)
      have notClosing : grammar.roleOf separator ≠ some .closeBracket := by simp [role]
      rw [List.cons_append, others?_eq (expect?_of_ne notClosing _), expect?_of_role role]
      simp [read, othersParsed closing behind closeRole]

end Rpn.Grammar

namespace Rpn.Converter

/-- On every sequence that the infix grammar allows, if its operators are coherent, the parser
finds a tree and the converter returns the tree's postorder. -/
theorem result_tokens_eq_postorder (converter : Converter) (source : String)
    {tokens : List Token} (derives : converter.grammar.Derives .expression tokens)
    (coherent : converter.grammar.Coherent tokens) :
    ∃ tree, converter.grammar.parse? tokens = some tree ∧
      (converter.attempt (.tokens tokens source)).result = .ok tree.postorder := by
  rcases derives.parsed coherent with ⟨root, tree, written, parsed⟩
  refine ⟨tree, ?_, ?_⟩
  · have read := parsed [] (by simp [Grammar.Ends])
    rw [List.append_nil] at read
    simp [Grammar.parse?, read]
  · exact result_tokens_eq_ok_iff.mpr (written.converted coherent)

/-- The expression `1 - 2 - f(1 ^ 2, g())`. -/
theorem result_tokens_eq_postorder_nested :
    let one : Token := ⟨"1", "NUMERIC"⟩
    let two : Token := ⟨"2", "NUMERIC"⟩
    let minus : Token := ⟨"-", "OPERATOR"⟩
    let power : Token := ⟨"^", "OPERATOR"⟩
    let comma : Token := ⟨",", "PARAM_SEPARATOR"⟩
    let opening : Token := ⟨"(", "OPEN_BRACKET"⟩
    let closing : Token := ⟨")", "CLOSE_BRACKET"⟩
    let f : Token := ⟨"f", "FUNCTION"⟩
    let g : Token := ⟨"g", "FUNCTION"⟩
    let tokens := [one, minus, two, minus, f, opening, one, power, two, comma, g, opening,
      closing, closing]
    Reference.grammar.Derives .expression tokens ∧ Reference.grammar.Coherent tokens ∧
      ∃ tree, Reference.grammar.parse? tokens = some tree ∧
        (Reference.converter.attempt (.tokens tokens "")).result = .ok tree.postorder := by
  intro one two minus power comma opening closing f g tokens
  have isOne : Reference.grammar.Derives .primary [one] := .value (by rfl)
  have isTwo : Reference.grammar.Derives .primary [two] := .value (by rfl)
  have isMinus : Reference.grammar.roleOf minus = some .operator := by rfl
  have isPower : Reference.grammar.roleOf power = some .operator := by rfl
  have isComma : Reference.grammar.roleOf comma = some .separator := by rfl
  have opens : Reference.grammar.roleOf opening = some .openBracket := by rfl
  have closes : Reference.grammar.roleOf closing = some .closeBracket := by rfl
  have isF : Reference.grammar.roleOf f = some .function := by rfl
  have isG : Reference.grammar.roleOf g = some .function := by rfl
  have inner := Grammar.Derives.parameters (.expression isOne (.tailNext isPower isTwo .tailEnd))
    (.others isComma (.expression (.call isG opens closes .noParameters) .tailEnd) .noOthers)
  have derives : Reference.grammar.Derives .expression tokens :=
    Grammar.Derives.expression isOne (.tailNext isMinus isTwo
      (.tailNext isMinus (.call isF opens closes inner) .tailEnd))
  have coherent : Reference.grammar.Coherent tokens := ⟨by decide, by decide⟩
  exact ⟨derives, coherent, result_tokens_eq_postorder Reference.converter "" derives coherent⟩

end Rpn.Converter
