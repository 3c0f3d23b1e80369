import Rpn.Proofs.Infix

/-!
# Precedence climbing

A recursive parser for infix sequences, with the tables of a grammar. `expression?` reads an
operand and then, as long as an operator binds tightly enough, the operator and its right operand;
`climb?` is this loop. A right operand takes only operators that bind tighter than the operator in
front of it, or as tightly if that one groups to the right. Brackets and parameters start again
without a bound.

The parser ends because each part that it reads leaves fewer tokens. The tests of that in the
definitions are always passed, and `expression?_eq` and the equations after it are without them.
-/

namespace Rpn.Grammar

/-- Whether a precedence reaches the least one that is asked for, if there is such a bound. -/
def admits (least : Option Int) (precedence : Int) : Bool :=
  least.all (· ≤ precedence)

/-- The least precedence of an operator in the right operand of another one. -/
def leastBehind (grammar : Grammar) (operator : Token) (precedence : Int) : Int :=
  match grammar.associativityOf operator with
  | .left => precedence + 1
  | .right => precedence

/-- The tokens behind the first one, if that has a role. -/
def expect? (grammar : Grammar) (role : Role) : List Token → Option (List Token)
  | [] => none
  | token :: rest => if grammar.plays role token then some rest else none

theorem length_of_expect? {grammar : Grammar} {role : Role} {tokens rest : List Token}
    (expected : grammar.expect? role tokens = some rest) : rest.length < tokens.length := by
  cases tokens with
  | nil => simp [expect?] at expected
  | cons token tokens =>
      simp only [expect?, Option.ite_none_right_eq_some, Option.some.injEq] at expected
      simp [← expected.2]

variable (grammar : Grammar)

mutual

/-- An expression of operators that reach a precedence, and the tokens behind it. -/
def expression? (least : Option Int) (tokens : List Token) : Option (Tree × List Token) := do
  let (left, rest) ← primary? tokens
  if rest.length < tokens.length then climb? least left rest else none
termination_by (tokens.length, 1)

/-- The operators that reach a precedence, with their right operands, behind an expression. -/
def climb? (least : Option Int) (left : Tree) (tokens : List Token) :
    Option (Tree × List Token) :=
  match tokens with
  | [] => some (left, [])
  | token :: rest =>
      if grammar.plays .operator token then do
        let precedence ← grammar.precedenceOf token
        if admits least precedence then
          let (right, behind) ← expression? (some (grammar.leastBehind token precedence)) rest
          if behind.length < rest.length then climb? least (.binary token left right) behind
          else none
        else some (left, token :: rest)
      else some (left, token :: rest)
termination_by (tokens.length, 0)

/-- A value, a bracketed expression or a call. -/
def primary? (tokens : List Token) : Option (Tree × List Token) :=
  match tokens with
  | [] => none
  | token :: rest =>
      match grammar.roleOf token with
      | some .value => some (.value token, rest)
      | some .openBracket => do
          let (tree, rest) ← expression? none rest
          let rest ← grammar.expect? .closeBracket rest
          some (tree, rest)
      | some .function =>
          match opened : grammar.expect? .openBracket rest with
          | none => none
          | some inside => do
              have := length_of_expect? opened
              let (trees, rest) ← parameters? inside
              some (.call token trees, rest)
      | _ => none
termination_by (tokens.length, 0)

/-- The parameters of a call up to its closing bracket. -/
def parameters? (tokens : List Token) : Option (List Tree × List Token) :=
  match grammar.expect? .closeBracket tokens with
  | some rest => some ([], rest)
  | none => do
      let (tree, rest) ← expression? none tokens
      if rest.length < tokens.length then
        let (trees, rest) ← others? rest
        some (tree :: trees, rest)
      else none
termination_by (tokens.length, 2)

/-- The parameters behind the first one. -/
def others? (tokens : List Token) : Option (List Tree × List Token) :=
  match grammar.expect? .closeBracket tokens with
  | some rest => some ([], rest)
  | none =>
      match separated : grammar.expect? .separator tokens with
      | none => none
      | some next => do
          have := length_of_expect? separated
          let (tree, rest) ← expression? none next
          if rest.length < next.length then
            let (trees, rest) ← others? rest
            some (tree :: trees, rest)
          else none
termination_by (tokens.length, 0)

end

/-- The tree of a whole sequence. -/
def parse? (tokens : List Token) : Option Tree :=
  match grammar.expression? none tokens with
  | some (tree, []) => some tree
  | _ => none

variable {grammar : Grammar}

theorem climb?_length_le {least : Option Int} {left tree : Tree} {tokens rest : List Token}
    (read : grammar.climb? least left tokens = some (tree, rest)) :
    rest.length ≤ tokens.length := by
  induction size : tokens.length using Nat.strongRecOn generalizing left tokens with
  | ind size ih =>
  subst size
  cases tokens with
  | nil => simp_all [climb?]
  | cons token tokens =>
      rw [climb?] at read
      by_cases role : grammar.plays .operator token = true
      · simp only [role, if_true, Option.bind_eq_bind, Option.bind_eq_some_iff] at read
        rcases read with ⟨precedence, -, read⟩
        by_cases admitted : admits least precedence = true
        · simp only [admitted, if_true, Option.bind_eq_some_iff] at read
          rcases read with ⟨⟨right, behind⟩, -, read⟩
          by_cases shorter : behind.length < tokens.length
          · simp only [shorter, if_true] at read
            have within := ih behind.length (by simp only [List.length_cons]; omega) read rfl
            simp only [List.length_cons]
            omega
          · simp [shorter] at read
        · simp_all
      · simp_all

/-- An expression takes at least one token. -/
theorem expression?_length_lt {least : Option Int} {tree : Tree} {tokens rest : List Token}
    (read : grammar.expression? least tokens = some (tree, rest)) :
    rest.length < tokens.length := by
  rw [expression?] at read
  simp only [Option.bind_eq_bind, Option.bind_eq_some_iff] at read
  rcases read with ⟨⟨left, behind⟩, -, read⟩
  by_cases shorter : behind.length < tokens.length
  · simp only [shorter, if_true] at read
    have within := climb?_length_le read
    omega
  · simp [shorter] at read

theorem others?_length_lt {trees : List Tree} {tokens rest : List Token}
    (read : grammar.others? tokens = some (trees, rest)) : rest.length < tokens.length := by
  induction size : tokens.length using Nat.strongRecOn generalizing trees tokens with
  | ind size ih =>
  subst size
  rw [others?] at read
  cases closed : grammar.expect? .closeBracket tokens with
  | some behind =>
      simp only [closed, Option.some.injEq, Prod.mk.injEq] at read
      simpa [← read.2] using length_of_expect? closed
  | none =>
      simp only [closed] at read
      split at read
      · contradiction
      · next next separated =>
          have fewer := length_of_expect? separated
          simp only [Option.bind_eq_bind, Option.bind_eq_some_iff] at read
          rcases read with ⟨⟨tree, behind⟩, -, read⟩
          by_cases shorter : behind.length < next.length
          · simp only [shorter, if_true, Option.bind_eq_some_iff, Option.some.injEq,
              Prod.mk.injEq] at read
            rcases read with ⟨⟨others, last⟩, readOthers, -, rfl⟩
            have within : last.length < behind.length :=
              ih behind.length (by omega) readOthers rfl
            simp only
            omega
          · simp [shorter] at read

theorem parameters?_length_lt {trees : List Tree} {tokens rest : List Token}
    (read : grammar.parameters? tokens = some (trees, rest)) : rest.length < tokens.length := by
  rw [parameters?] at read
  cases closed : grammar.expect? .closeBracket tokens with
  | some behind =>
      simp only [closed, Option.some.injEq, Prod.mk.injEq] at read
      simpa [← read.2] using length_of_expect? closed
  | none =>
      simp only [closed, Option.bind_eq_bind, Option.bind_eq_some_iff] at read
      rcases read with ⟨⟨tree, behind⟩, -, read⟩
      by_cases shorter : behind.length < tokens.length
      · simp only [shorter, if_true, Option.bind_eq_some_iff, Option.some.injEq,
          Prod.mk.injEq] at read
        rcases read with ⟨⟨others, last⟩, readOthers, -, rfl⟩
        exact Nat.lt_trans (others?_length_lt readOthers) shorter
      · simp [shorter] at read

theorem primary?_length_lt {tree : Tree} {tokens rest : List Token}
    (read : grammar.primary? tokens = some (tree, rest)) : rest.length < tokens.length := by
  cases tokens with
  | nil => simp [primary?] at read
  | cons token tokens =>
      rw [primary?] at read
      apply Nat.lt_succ_of_le
      split at read
      · simp only [Option.some.injEq, Prod.mk.injEq] at read
        simp [← read.2]
      · simp only [Option.bind_eq_bind, Option.bind_eq_some_iff, Option.some.injEq,
          Prod.mk.injEq] at read
        rcases read with ⟨⟨inner, inside⟩, readInner, behind, closed, -, rfl⟩
        have within := Nat.lt_trans (length_of_expect? closed) (expression?_length_lt readInner)
        exact Nat.le_of_lt within
      · split at read
        · contradiction
        · next inside opened =>
            simp only [Option.bind_eq_bind, Option.bind_eq_some_iff, Option.some.injEq,
              Prod.mk.injEq] at read
            rcases read with ⟨⟨trees, behind⟩, readInner, -, rfl⟩
            have within := Nat.lt_trans (parameters?_length_lt readInner) (length_of_expect? opened)
            exact Nat.le_of_lt within
      · contradiction

/-- A test that every result passes changes nothing. -/
theorem bind_of_always {α β : Type} {read : Option α} {test : α → Prop} [DecidablePred test]
    {further : α → Option β} (always : ∀ a, read = some a → test a) :
    (read.bind fun a => if test a then further a else none) = read.bind further := by
  cases read with
  | none => rfl
  | some a => simp [always a rfl]

theorem expression?_eq (least : Option Int) (tokens : List Token) :
    grammar.expression? least tokens = (do
      let (left, rest) ← grammar.primary? tokens
      grammar.climb? least left rest) := by
  rw [expression?]
  exact bind_of_always fun read found => primary?_length_lt found

theorem climb?_cons (least : Option Int) (left : Tree) (token : Token) (rest : List Token) :
    grammar.climb? least left (token :: rest) =
      if grammar.plays .operator token then (do
        let precedence ← grammar.precedenceOf token
        if admits least precedence then
          let (right, behind) ← grammar.expression? (some (grammar.leastBehind token precedence)) rest
          grammar.climb? least (.binary token left right) behind
        else some (left, token :: rest))
      else some (left, token :: rest) := by
  rw [climb?]
  congr 3
  funext precedence
  congr 1
  exact bind_of_always fun read found => expression?_length_lt found

theorem primary?_function {token : Token} (role : grammar.roleOf token = some .function)
    (rest : List Token) :
    grammar.primary? (token :: rest) = (do
      let inside ← grammar.expect? .openBracket rest
      let (trees, behind) ← grammar.parameters? inside
      some (.call token trees, behind)) := by
  rw [primary?]
  simp only [role]
  split <;> simp_all

theorem parameters?_eq {tokens : List Token} (notClosed : grammar.expect? .closeBracket tokens = none) :
    grammar.parameters? tokens = (do
      let (tree, rest) ← grammar.expression? none tokens
      let (trees, behind) ← grammar.others? rest
      some (tree :: trees, behind)) := by
  rw [parameters?]
  simp only [notClosed]
  exact bind_of_always fun read found => expression?_length_lt found

theorem others?_eq {tokens : List Token} (notClosed : grammar.expect? .closeBracket tokens = none) :
    grammar.others? tokens = (do
      let next ← grammar.expect? .separator tokens
      let (tree, rest) ← grammar.expression? none next
      let (trees, behind) ← grammar.others? rest
      some (tree :: trees, behind)) := by
  rw [others?]
  simp only [notClosed]
  split
  · simp_all
  · next next separated =>
      rw [separated]
      exact bind_of_always fun read found => expression?_length_lt found

end Rpn.Grammar
