import Rpn.Proofs.Moves
import Rpn.Reference

/-!
# Other numbers for the precedences

A conversion only ever compares the precedence of an operator with that of another one. So two
grammars with the same roles, the same sides and the same order of the precedences are run through
in lockstep (`SameOrder.conversion_eq`): every move is the same, and so are the output, the error
and the token that the error names.

In particular all precedences may be replaced by their values under a strictly increasing function.
Negative numbers and zero have no special meaning.
-/

namespace Rpn

namespace Grammar

/-- The grammar with the value of a function for each precedence. -/
def mapPrecedences (grammar : Grammar) (f : Int → Int) : Grammar :=
  { grammar with precedences := grammar.precedences.map fun entry => (entry.1, f entry.2) }

/-- Two grammars that differ at most in the numbers for the precedences, and not in their order. -/
structure SameOrder (grammar other : Grammar) : Prop where
  classes_eq : other.classes = grammar.classes
  associativities_eq : other.associativities = grammar.associativities
  precedenceOf_eq_none_iff : ∀ token,
    other.precedenceOf token = none ↔ grammar.precedenceOf token = none
  le_iff : ∀ {token top : Token} {precedence precedence' topPrecedence topPrecedence' : Int},
    grammar.precedenceOf token = some precedence →
      other.precedenceOf token = some precedence' →
        grammar.precedenceOf top = some topPrecedence →
          other.precedenceOf top = some topPrecedence' →
            (precedence' ≤ topPrecedence' ↔ precedence ≤ topPrecedence)

namespace SameOrder

variable {grammar other : Grammar}

theorem roleOf_eq (same : grammar.SameOrder other) (token : Token) :
    other.roleOf token = grammar.roleOf token := by
  rw [roleOf, same.classes_eq, roleOf]

theorem plays_eq (same : grammar.SameOrder other) (role : Role) (token : Token) :
    other.plays role token = grammar.plays role token := by
  rw [plays, same.roleOf_eq, plays]

theorem associativityOf_eq (same : grammar.SameOrder other) (token : Token) :
    other.associativityOf token = grammar.associativityOf token := by
  rw [associativityOf, same.associativities_eq, associativityOf]

theorem exists_precedence (same : grammar.SameOrder other) {token : Token} {precedence : Int}
    (decided : grammar.precedenceOf token = some precedence) :
    ∃ precedence', other.precedenceOf token = some precedence' := by
  apply Option.ne_none_iff_exists'.mp
  rw [ne_eq, same.precedenceOf_eq_none_iff, decided]
  simp

theorem lt_iff (same : grammar.SameOrder other) {token top : Token}
    {precedence precedence' topPrecedence topPrecedence' : Int}
    (decided : grammar.precedenceOf token = some precedence)
    (decided' : other.precedenceOf token = some precedence')
    (topDecided : grammar.precedenceOf top = some topPrecedence)
    (topDecided' : other.precedenceOf top = some topPrecedence') :
    precedence' < topPrecedence' ↔ precedence < topPrecedence := by
  have reversed := same.le_iff topDecided topDecided' decided decided'
  omega

theorem yieldsTo_eq (same : grammar.SameOrder other) {token : Token}
    {precedence precedence' : Int} (decided : grammar.precedenceOf token = some precedence)
    (decided' : other.precedenceOf token = some precedence') (side : Associativity) (top : Token) :
    other.yieldsTo precedence' side top = grammar.yieldsTo precedence side top := by
  cases topDecided : grammar.precedenceOf top with
  | none =>
      have topDecided' := (same.precedenceOf_eq_none_iff top).mpr topDecided
      simp only [yieldsTo, same.plays_eq, topDecided, topDecided']
  | some topPrecedence =>
      rcases same.exists_precedence topDecided with ⟨topPrecedence', topDecided'⟩
      cases side with
      | left =>
          have le_iff := same.le_iff decided decided' topDecided topDecided'
          simp only [yieldsTo, same.plays_eq, topDecided, topDecided', le_iff]
      | right =>
          have lt_iff := same.lt_iff decided decided' topDecided topDecided'
          simp only [yieldsTo, same.plays_eq, topDecided, topDecided', lt_iff]

theorem undecided?_eq (same : grammar.SameOrder other) (stack : List Token) :
    other.undecided? stack = grammar.undecided? stack := by
  cases stack with
  | nil => rfl
  | cons top below =>
      have known : (other.precedenceOf top).isNone = (grammar.precedenceOf top).isNone := by
        rw [Bool.eq_iff_iff, Option.isNone_iff_eq_none, Option.isNone_iff_eq_none]
        exact same.precedenceOf_eq_none_iff top
      rw [undecided?, undecided?, same.plays_eq, known]

theorem onOperator_eq (same : grammar.SameOrder other) (stack : List Token) (token : Token) :
    other.onOperator stack token = grammar.onOperator stack token := by
  cases decided : grammar.precedenceOf token with
  | none =>
      have undecided := (same.precedenceOf_eq_none_iff token).mpr decided
      simp only [onOperator, decided, undecided]
  | some precedence =>
      rcases same.exists_precedence decided with ⟨precedence', decided'⟩
      have yields : other.yieldsTo precedence' (grammar.associativityOf token) =
          grammar.yieldsTo precedence (grammar.associativityOf token) := by
        funext top
        exact same.yieldsTo_eq decided decided' _ top
      simp only [onOperator, decided, decided', same.associativityOf_eq, yields,
        same.undecided?_eq]

theorem step_eq (same : grammar.SameOrder other) (stack : List Token) (token : Token) :
    other.step stack token = grammar.step stack token := by
  have plays_eq : other.plays = grammar.plays := by
    funext role top
    exact same.plays_eq role top
  have onCallEnd_eq : other.onCallEnd = grammar.onCallEnd := by
    funext stack
    cases stack <;> simp only [onCallEnd, plays_eq]
  simp only [step, same.roleOf_eq, same.onOperator_eq, onSeparator, onCloseBracket, plays_eq,
    onCallEnd_eq]

theorem feed_eq (same : grammar.SameOrder other) (stack tokens : List Token) :
    other.feed stack tokens = grammar.feed stack tokens := by
  induction tokens generalizing stack with
  | nil => rfl
  | cons token tokens ih => simp only [feed, same.step_eq, ih]

theorem drain_eq (same : grammar.SameOrder other) (stack : List Token) :
    other.drain stack = grammar.drain stack := by
  simp only [drain, isBracket, same.plays_eq]

theorem conversion_eq (same : grammar.SameOrder other) (tokens : List Token) :
    other.conversion tokens = grammar.conversion tokens := by
  rw [conversion, same.feed_eq, conversion]
  congr 1
  funext stack
  exact same.drain_eq stack

end SameOrder

theorem precedenceOf_mapPrecedences (grammar : Grammar) (f : Int → Int) (token : Token) :
    (grammar.mapPrecedences f).precedenceOf token = (grammar.precedenceOf token).map f := by
  have lookup_eq (table : OperatorTable Int) (key : String) :
      (table.map fun entry => (entry.1, f entry.2)).lookup key = (table.lookup key).map f := by
    induction table with
    | nil => rfl
    | cons entry table ih =>
        rw [List.map_cons, List.lookup_cons, List.lookup_cons, ih]
        split <;> rfl
  simp only [precedenceOf, mapPrecedences, OperatorTable.entry?, lookup_eq]
  cases grammar.precedences.lookup token.value <;> rfl

theorem sameOrder_mapPrecedences (grammar : Grammar) {f : Int → Int}
    (increasing : ∀ m n, m < n → f m < f n) :
    grammar.SameOrder (grammar.mapPrecedences f) where
  classes_eq := rfl
  associativities_eq := rfl
  precedenceOf_eq_none_iff := by
    intro token
    rw [precedenceOf_mapPrecedences, Option.map_eq_none_iff]
  le_iff := by
    intro token top precedence precedence' topPrecedence topPrecedence' decided decided'
      topDecided topDecided'
    rw [precedenceOf_mapPrecedences, decided, Option.map_some, Option.some.injEq] at decided'
    rw [precedenceOf_mapPrecedences, topDecided, Option.map_some, Option.some.injEq] at topDecided'
    subst decided' topDecided'
    rcases Int.lt_trichotomy precedence topPrecedence with less | rfl | greater
    · have mapped := increasing _ _ less
      omega
    · simp
    · have mapped := increasing _ _ greater
      omega

end Grammar

namespace Converter

/-- Under a strictly increasing function of the precedences, every call makes the same moves and has
the same output or the same failure. -/
theorem attempt_mapPrecedences (converter : Converter) {f : Int → Int}
    (increasing : ∀ m n, m < n → f m < f n) (call : Call) :
    ({ converter with grammar := converter.grammar.mapPrecedences f } : Converter).attempt call =
      converter.attempt call := by
  have conversion_eq :
      (converter.grammar.mapPrecedences f).conversion = converter.grammar.conversion := by
    funext tokens
    exact (converter.grammar.sameOrder_mapPrecedences increasing).conversion_eq tokens
  cases call <;> simp only [attempt, attemptTokens, attemptText, conversion_eq]

/-- The tokens of `1 - 2 * 3 ^ 4 ^ 5 - 6`, with precedences below, at and above zero. -/
theorem attempt_mapPrecedences_signs :
    let f : Int → Int := fun precedence => 10 * precedence - 30
    let minus : Token := ⟨"-", "OPERATOR"⟩
    let times : Token := ⟨"*", "OPERATOR"⟩
    let power : Token := ⟨"^", "OPERATOR"⟩
    let number := fun text : String => (⟨text, "NUMERIC"⟩ : Token)
    let call := Call.tokens [number "1", minus, number "2", times, number "3", power, number "4",
      power, number "5", minus, number "6"] "chain"
    let grammar := Reference.grammar.mapPrecedences f
    let mapped : Converter := { Reference.converter with grammar }
    (∀ m n, m < n → f m < f n) ∧
      [minus, times, power].map grammar.precedenceOf = [some (-10), some 0, some 10] ∧
      (mapped.attempt call).result = .ok [number "1", number "2", number "3", number "4",
        number "5", power, power, times, minus, number "6", minus] := by
  intro f minus times power number call grammar mapped
  have increasing : ∀ m n, m < n → f m < f n := by
    intro m n less
    simp only [f]
    omega
  have same : mapped.attempt call = Reference.converter.attempt call :=
    attempt_mapPrecedences Reference.converter increasing call
  refine ⟨increasing, by rfl, ?_⟩
  rw [same]
  rfl

end Converter

end Rpn
