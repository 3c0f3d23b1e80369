import Rpn.Proofs.Acceptance
import Rpn.Proofs.Group

/-!
# Infix sequences of a tree

`Infix` relates an expression tree to the token sequences that are infix notations of it: brackets
may enclose any part, and they must enclose an operand whose operator would otherwise be grouped
differently. The conversion turns each notation of a tree into the tree's postorder.

While the tokens of an operand are read, operators of its right edge wait on the stack. The proof
goes by induction on the notation, for any stack from whose top the operand is not released early
(`Receives`): what is emitted, followed by what waits, is the postorder, and all that waits binds
at least as tightly as the operator at the root, so that the operator behind the operand releases
it. This needs that operators of one precedence group to the same side (`Coherent`).
-/

namespace Rpn

/-- An expression: a value, an operator between operands, or a function with its parameters. -/
inductive Tree where
  | value (token : Token)
  | binary (operator : Token) (left right : Tree)
  | call (function : Token) (parameters : List Tree)
  deriving Repr

namespace Tree

mutual

/-- The tokens of a tree, every operator and function behind its operands. -/
def postorder : Tree → List Token
  | .value token => [token]
  | .binary operator left right => left.postorder ++ right.postorder ++ [operator]
  | .call function parameters => postorders parameters ++ [function]

/-- The tokens of some trees, one tree after the other. -/
def postorders : List Tree → List Token
  | [] => []
  | tree :: trees => tree.postorder ++ postorders trees

end

end Tree

/-- A part of an expression: a tree with the operator that stands outside of brackets at its root
if there is one, the parameters of a function, or those behind the first one. -/
inductive Phrase where
  | expression (root : Option Token) (tree : Tree)
  | parameters (trees : List Tree)
  | others (trees : List Tree)

namespace Grammar

/-- Under an operator, an operand on one side needs no brackets if its operator binds tighter, or
equally tight and the upper operator groups to this side. -/
def Fits (grammar : Grammar) (side : Associativity) (outer inner : Token) : Prop :=
  ∃ p q, grammar.precedenceOf outer = some p ∧ grammar.precedenceOf inner = some q ∧
    (p < q ∨ p = q ∧ grammar.associativityOf outer = side)

/-- The token sequences that are infix notations of a phrase. -/
inductive Infix (grammar : Grammar) : Phrase → List Token → Prop where
  | value {token : Token} (role : grammar.roleOf token = some .value) :
      Infix grammar (.expression none (.value token)) [token]
  | bracketed {root : Option Token} {tree : Tree} {tokens : List Token} {opening closing : Token}
      (openRole : grammar.roleOf opening = some .openBracket)
      (closeRole : grammar.roleOf closing = some .closeBracket)
      (inner : Infix grammar (.expression root tree) tokens) :
      Infix grammar (.expression none tree) (opening :: tokens ++ [closing])
  | binary {leftRoot rightRoot : Option Token} {left right : Tree}
      {leftTokens rightTokens : List Token} {operator : Token}
      (role : grammar.roleOf operator = some .operator)
      (leftFits : ∀ inner ∈ leftRoot, grammar.Fits .left operator inner)
      (rightFits : ∀ inner ∈ rightRoot, grammar.Fits .right operator inner)
      (leftPart : Infix grammar (.expression leftRoot left) leftTokens)
      (rightPart : Infix grammar (.expression rightRoot right) rightTokens) :
      Infix grammar (.expression (some operator) (.binary operator left right))
        (leftTokens ++ operator :: rightTokens)
  | call {trees : List Tree} {tokens : List Token} {function opening closing : Token}
      (role : grammar.roleOf function = some .function)
      (openRole : grammar.roleOf opening = some .openBracket)
      (closeRole : grammar.roleOf closing = some .closeBracket)
      (inner : Infix grammar (.parameters trees) tokens) :
      Infix grammar (.expression none (.call function trees))
        (function :: (opening :: tokens ++ [closing]))
  | noParameters : Infix grammar (.parameters []) []
  | parameters {root : Option Token} {tree : Tree} {trees : List Tree}
      {tokens rest : List Token} (first : Infix grammar (.expression root tree) tokens)
      (others : Infix grammar (.others trees) rest) :
      Infix grammar (.parameters (tree :: trees)) (tokens ++ rest)
  | noOthers : Infix grammar (.others []) []
  | others {root : Option Token} {tree : Tree} {trees : List Tree} {tokens rest : List Token}
      {separator : Token} (role : grammar.roleOf separator = some .separator)
      (next : Infix grammar (.expression root tree) tokens)
      (others : Infix grammar (.others trees) rest) :
      Infix grammar (.others (tree :: trees)) (separator :: (tokens ++ rest))

/-- Every operator has a precedence, and operators of one precedence group to the same side. -/
structure Coherent (grammar : Grammar) (tokens : List Token) : Prop where
  decided : ∀ token ∈ tokens, grammar.roleOf token = some .operator →
    grammar.precedenceOf token ≠ none
  agreeing : ∀ first ∈ tokens, ∀ second ∈ tokens, grammar.roleOf first = some .operator →
    grammar.roleOf second = some .operator →
    grammar.precedenceOf first = grammar.precedenceOf second →
    grammar.associativityOf first = grammar.associativityOf second

/-- The second token binds at least as tightly as the first one. -/
def NotLooser (grammar : Grammar) (first second : Token) : Prop :=
  ∃ p q, grammar.precedenceOf first = some p ∧ grammar.precedenceOf second = some q ∧ p ≤ q

/-- A stack on which an operand can be read: no function is on top, and an operator on top keeps
the operand to its right. -/
def Receives (grammar : Grammar) (known stack : List Token) (root : Option Token) : Prop :=
  ∀ top ∈ stack.head?, grammar.roleOf top ≠ some .function ∧
    (grammar.roleOf top = some .operator →
      top ∈ known ∧ ∀ inner ∈ root, grammar.Fits .right top inner)

variable {grammar : Grammar} {known : List Token}

theorem Coherent.mono {tokens : List Token} (coherent : grammar.Coherent known)
    (within : ∀ token ∈ tokens, token ∈ known) : grammar.Coherent tokens where
  decided token token_mem := coherent.decided token (within token token_mem)
  agreeing first first_mem second second_mem :=
    coherent.agreeing first (within first first_mem) second (within second second_mem)

theorem NotLooser.refl {token : Token} (decided : grammar.precedenceOf token ≠ none) :
    grammar.NotLooser token token := by
  rcases Option.ne_none_iff_exists'.mp decided with ⟨precedence, found⟩
  exact ⟨precedence, precedence, found, found, Int.le_refl precedence⟩

theorem Fits.notLooser {side : Associativity} {outer inner waiting : Token}
    (fits : grammar.Fits side outer inner) (notLooser : grammar.NotLooser inner waiting) :
    grammar.NotLooser outer waiting := by
  rcases fits with ⟨p, q, outer_eq, inner_eq, order⟩
  rcases notLooser with ⟨q', r, inner_eq', waiting_eq, q_le⟩
  rw [inner_eq, Option.some.injEq] at inner_eq'
  refine ⟨p, r, outer_eq, waiting_eq, ?_⟩
  rcases order with less | ⟨equal, _⟩ <;> omega

/-- What an operator releases although it stands behind a left operand that fits under it. -/
theorem Fits.yieldsTo {outer inner waiting : Token} {precedence : Int}
    (fits : grammar.Fits .left outer inner) (notLooser : grammar.NotLooser inner waiting)
    (role : grammar.roleOf waiting = some .operator)
    (found : grammar.precedenceOf outer = some precedence) :
    grammar.yieldsTo precedence (grammar.associativityOf outer) waiting = true := by
  rcases fits with ⟨p, q, outer_eq, inner_eq, order⟩
  rcases notLooser with ⟨q', r, inner_eq', waiting_eq, q_le⟩
  rw [inner_eq, Option.some.injEq] at inner_eq'
  rw [outer_eq, Option.some.injEq] at found
  cases side : grammar.associativityOf outer with
  | left =>
      simp only [Grammar.yieldsTo, role, waiting_eq, plays_iff.mpr, Bool.true_and,
        decide_eq_true_eq]
      rcases order with less | ⟨equal, _⟩ <;> omega
  | right =>
      simp only [Grammar.yieldsTo, role, waiting_eq, plays_iff.mpr, Bool.true_and,
        decide_eq_true_eq]
      rcases order with less | ⟨equal, grouped⟩
      · omega
      · simp [side] at grouped

/-- An operator of a right operand that fits under another one does not release it. -/
theorem Fits.not_yieldsTo {outer inner : Token} {precedence : Int}
    (fits : grammar.Fits .right outer inner)
    (agreeing : grammar.precedenceOf outer = grammar.precedenceOf inner →
      grammar.associativityOf outer = grammar.associativityOf inner)
    (found : grammar.precedenceOf inner = some precedence) :
    grammar.yieldsTo precedence (grammar.associativityOf inner) outer = false := by
  rcases fits with ⟨p, q, outer_eq, inner_eq, order⟩
  rw [inner_eq, Option.some.injEq] at found
  cases side : grammar.associativityOf inner with
  | left =>
      simp only [Grammar.yieldsTo, outer_eq, Bool.and_eq_false_imp, decide_eq_false_iff_not]
      intro _
      rcases order with less | ⟨equal, grouped⟩
      · omega
      · rw [agreeing (by rw [outer_eq, inner_eq, equal]), side] at grouped
        contradiction
  | right =>
      simp only [Grammar.yieldsTo, outer_eq, Bool.and_eq_false_imp, decide_eq_false_iff_not]
      intro _
      rcases order with less | ⟨equal, _⟩ <;> omega

/-- If a left operand fits under an operator that fits to the right of another one, the operand
fits there itself. -/
theorem Fits.trans {outer middle inner : Token} (upper : grammar.Fits .right outer middle)
    (lower : grammar.Fits .left middle inner)
    (agreeing : grammar.precedenceOf outer = grammar.precedenceOf middle →
      grammar.associativityOf outer = grammar.associativityOf middle) :
    grammar.Fits .right outer inner := by
  rcases upper with ⟨p, q, outer_eq, middle_eq, upperOrder⟩
  rcases lower with ⟨q', r, middle_eq', inner_eq, lowerOrder⟩
  rw [middle_eq, Option.some.injEq] at middle_eq'
  refine ⟨p, r, outer_eq, inner_eq, ?_⟩
  rcases upperOrder with less | ⟨equal, grouped⟩
  · rcases lowerOrder with less' | ⟨equal', _⟩ <;> exact Or.inl (by omega)
  · rcases lowerOrder with less' | ⟨equal', grouped'⟩
    · exact Or.inl (by omega)
    · rw [agreeing (by rw [outer_eq, middle_eq, equal]), grouped'] at grouped
      contradiction

/-- What reading a notation of a phrase does. -/
def Reads (grammar : Grammar) (known : List Token) : Phrase → List Token → Prop
  | .expression root tree, tokens =>
      ∀ stack, grammar.Receives known stack root →
        ∃ events waiting, grammar.feed stack tokens = ⟨events, .ok (waiting ++ stack)⟩ ∧
          events.filterMap Event.output? ++ waiting = tree.postorder ∧
          ∀ top ∈ waiting, grammar.roleOf top = some .operator ∧
            ∃ operator ∈ root, grammar.NotLooser operator top
  | .parameters trees, tokens => grammar.Parameters tokens (Tree.postorders trees)
  | .others trees, tokens =>
      ∀ first rpn, (grammar.conversion first).rpn = .ok rpn →
        grammar.Parameters (first ++ tokens) (rpn ++ Tree.postorders trees)

theorem Reads.converted {root : Option Token} {tree : Tree} {tokens : List Token}
    (reads : grammar.Reads known (.expression root tree) tokens) :
    (grammar.conversion tokens).rpn = .ok tree.postorder := by
  rcases reads [] (by simp [Receives]) with ⟨events, waiting, fed, output_eq, operators⟩
  rw [List.append_nil] at fed
  refine rpn_eq_ok_iff.mpr ⟨events, waiting, fed, ?_, output_eq.symm⟩
  intro top top_mem
  simp [isBracket, (operators top top_mem).1]

theorem Receives.uncalled {stack : List Token} {root : Option Token}
    (receives : grammar.Receives known stack root) :
    ∀ top ∈ stack.head?, grammar.roleOf top ≠ some .function :=
  fun top top_head => (receives top top_head).1

theorem Receives.left {stack : List Token} {operator : Token} {leftRoot : Option Token}
    (receives : grammar.Receives known stack (some operator))
    (coherent : grammar.Coherent known) (operator_mem : operator ∈ known)
    (role : grammar.roleOf operator = some .operator)
    (leftFits : ∀ inner ∈ leftRoot, grammar.Fits .left operator inner) :
    grammar.Receives known stack leftRoot := by
  intro top top_head
  rcases receives top top_head with ⟨uncalled, fits⟩
  refine ⟨uncalled, fun topRole => ⟨(fits topRole).1, ?_⟩⟩
  intro inner inner_mem
  rcases fits topRole with ⟨top_mem, upper⟩
  exact (upper operator rfl).trans (leftFits inner inner_mem)
    (coherent.agreeing top top_mem operator operator_mem topRole role)

/-- Reading an operator behind its left operand releases what waits of the operand and nothing
below. -/
theorem Receives.operator_moves {stack waiting : List Token} {operator : Token}
    {leftRoot : Option Token} (receives : grammar.Receives known stack (some operator))
    (coherent : grammar.Coherent known) (operator_mem : operator ∈ known)
    (role : grammar.roleOf operator = some .operator)
    (leftFits : ∀ inner ∈ leftRoot, grammar.Fits .left operator inner)
    (operators : ∀ top ∈ waiting, grammar.roleOf top = some .operator ∧
      ∃ inner ∈ leftRoot, grammar.NotLooser inner top) :
    grammar.Moves (waiting ++ stack) operator (Conversion.release waiting ++ [.pushed operator])
      (operator :: stack) := by
  rcases Option.ne_none_iff_exists'.mp (coherent.decided operator operator_mem role) with
    ⟨precedence, found⟩
  -- The operand's own operators go; the first one below stays and has a precedence.
  refine .operator role found ?_ ?_ ?_
  · intro top top_mem
    rcases operators top top_mem with ⟨topRole, inner, inner_mem, notLooser⟩
    exact (leftFits inner inner_mem).yieldsTo notLooser topRole found
  · intro top top_head
    by_cases topRole : grammar.roleOf top = some .operator
    · rcases (receives top top_head).2 topRole with ⟨top_mem, fits⟩
      exact (fits operator rfl).not_yieldsTo
        (coherent.agreeing top top_mem operator operator_mem topRole role) found
    · simp [Grammar.yieldsTo, topRole]
  · cases stack with
    | nil => rfl
    | cons top stack =>
        by_cases topRole : grammar.roleOf top = some .operator
        · have top_mem := ((receives top (by simp)).2 topRole).1
          simp [undecided?, coherent.decided top top_mem topRole]
        · simp [undecided?, topRole]

theorem Reads.binary {leftRoot rightRoot : Option Token} {left right : Tree}
    {leftTokens rightTokens : List Token} {operator : Token}
    (readsLeft : grammar.Reads known (.expression leftRoot left) leftTokens)
    (readsRight : grammar.Reads known (.expression rightRoot right) rightTokens)
    (coherent : grammar.Coherent known) (operator_mem : operator ∈ known)
    (role : grammar.roleOf operator = some .operator)
    (leftFits : ∀ inner ∈ leftRoot, grammar.Fits .left operator inner)
    (rightFits : ∀ inner ∈ rightRoot, grammar.Fits .right operator inner) :
    grammar.Reads known (.expression (some operator) (.binary operator left right))
      (leftTokens ++ operator :: rightTokens) := by
  intro stack receives
  rcases readsLeft stack (receives.left coherent operator_mem role leftFits) with
    ⟨before, released, fedLeft, leftEq, leftOperators⟩
  have moves := receives.operator_moves coherent operator_mem role leftFits leftOperators
  have receivesRight : grammar.Receives known (operator :: stack) rightRoot := by
    intro top top_head
    simp only [List.head?_cons, Option.mem_some_iff] at top_head
    subst top
    exact ⟨by simp [role], fun _ => ⟨operator_mem, rightFits⟩⟩
  rcases readsRight (operator :: stack) receivesRight with
    ⟨later, waiting, fedRight, rightEq, rightOperators⟩
  refine ⟨_, waiting ++ [operator], feed_append_eq_ok_iff.mpr ⟨before, _, _, fedLeft,
    feed_cons_eq_ok_iff.mpr ⟨_, _, later, moves, ?_, rfl⟩, rfl⟩, ?_, ?_⟩
  · simpa using fedRight
  · simp [Tree.postorder, ← leftEq, ← rightEq, List.filterMap_cons]
  · intro top top_mem
    rcases List.mem_append.mp top_mem with top_mem | top_mem
    · rcases rightOperators top top_mem with ⟨topRole, inner, inner_mem, notLooser⟩
      exact ⟨topRole, operator, rfl, (rightFits inner inner_mem).notLooser notLooser⟩
    · simp only [List.mem_singleton] at top_mem
      subst top
      exact ⟨role, operator, rfl, .refl (coherent.decided operator operator_mem role)⟩

/-- Every notation of a phrase is read as the phrase's postorder. -/
theorem Infix.reads {phrase : Phrase} {tokens : List Token}
    (written : grammar.Infix phrase tokens) (coherent : grammar.Coherent known)
    (within : ∀ token ∈ tokens, token ∈ known) : grammar.Reads known phrase tokens := by
  -- By rule of the notation. The stack is not fixed, as a right operand is read above its operator.
  induction written with
  | @value token role =>
      intro stack receives
      refine ⟨[.emitted token], [], ?_, rfl, by simp⟩
      exact feed_cons_eq_ok_iff.mpr ⟨_, _, [], .value role, rfl, rfl⟩
  | bracketed openRole closeRole inner ih =>
      intro stack receives
      have reads := ih fun token token_mem => within token (by simp [token_mem])
      rcases feed_group openRole closeRole (.last reads.converted) receives.uncalled with
        ⟨events, fed, output_eq⟩
      exact ⟨events, [], fed, by simp [output_eq], by simp⟩
  | @binary leftRoot rightRoot left right leftTokens rightTokens operator role leftFits rightFits
      leftPart rightPart ihLeft ihRight =>
      have readsLeft := ihLeft fun token token_mem => within token (by simp [token_mem])
      have readsRight := ihRight fun token token_mem => within token (by simp [token_mem])
      exact readsLeft.binary readsRight coherent (within operator (by simp)) role leftFits rightFits
  | @call trees tokens function opening closing role openRole closeRole inner ih =>
      intro stack receives
      have reads := ih fun token token_mem => within token (by simp [token_mem])
      rcases feed_call role openRole closeRole reads with ⟨events, fed, output_eq⟩
      refine ⟨.pushed function :: events, [], ?_, ?_, by simp⟩
      · exact feed_cons_eq_ok_iff.mpr ⟨_, _, events, .function role, fed, rfl⟩
      · simp [Tree.postorder, output_eq, List.filterMap_cons]
  | noParameters => exact .last (by simp [conversion, feed, drain, Conversion.rpn, Except.map,
      Conversion.idle, Conversion.andThen, Conversion.output, Conversion.release,
      Tree.postorders])
  | parameters first others ihFirst ihOthers =>
      have readsFirst := ihFirst fun token token_mem => within token (by simp [token_mem])
      have readsOthers := ihOthers fun token token_mem => within token (by simp [token_mem])
      exact readsOthers _ _ readsFirst.converted
  | noOthers =>
      intro first rpn converted
      simpa [Tree.postorders] using Parameters.last converted
  | others role next others ihNext ihOthers =>
      intro first rpn converted
      have readsNext := ihNext fun token token_mem => within token (by simp [token_mem])
      have readsOthers := ihOthers fun token token_mem => within token (by simp [token_mem])
      exact .more converted role (readsOthers _ _ readsNext.converted)

theorem Infix.converted {root : Option Token} {tree : Tree} {tokens : List Token}
    (written : grammar.Infix (.expression root tree) tokens)
    (coherent : grammar.Coherent tokens) :
    (grammar.conversion tokens).rpn = .ok tree.postorder :=
  (written.reads coherent fun _ token_mem => token_mem).converted

end Grammar

end Rpn
