import Mathlib.Data.List.Nodup
import Rpn.Proofs.Acceptance

/-!
# The order of operators

Without functions and brackets the order of an output is decided by pairs of tokens: a value stands
before everything that is read after it, and an operator stands before the token of a later place
just if some operator that is read up to there beats it.

The conversion compares an operator only with the one on top of the stack. That this is enough is
due to the order in which operators wait: none of them is beaten by one that waits above it, so
whatever beats an operator beats everything above it too (`Beats.above`). Tokens are told apart by
their places, since equal ones may occur more than once.
-/

namespace Rpn

theorem getElem?_concat_eq_some_iff {α : Type} {list : List α} {last a : α} {place : Nat} :
    (list ++ [last])[place]? = some a ↔
      list[place]? = some a ∨ place = list.length ∧ last = a := by
  rcases Nat.lt_trichotomy place list.length with inside | rfl | outside
  · rw [List.getElem?_append_left inside]
    simp [inside.ne]
  · simp
  · have absent : list[place]? = none := List.getElem?_eq_none outside.le
    have absentToo : (list ++ [last])[place]? = none := List.getElem?_eq_none (by simp; omega)
    simp [absent, absentToo, outside.ne']

namespace Grammar

/-- A token of which nothing but its own precedence matters: a value, an operator with a
precedence, or a token without a role. -/
def Bare (grammar : Grammar) (token : Token) : Prop :=
  grammar.roleOf token = none ∨ grammar.roleOf token = some .value ∨
    grammar.roleOf token = some .operator ∧ grammar.precedenceOf token ≠ none

/-- The later operator does not bind more tightly than the earlier one; if it groups to the right,
it binds less tightly. -/
def Beats (grammar : Grammar) (later earlier : Token) : Prop :=
  ∃ precedence ∈ grammar.precedenceOf later, ∃ other ∈ grammar.precedenceOf earlier,
    grammar.associativityOf later = .left ∧ precedence ≤ other ∨
      grammar.associativityOf later = .right ∧ precedence < other

instance (grammar : Grammar) (later earlier : Token) : Decidable (grammar.Beats later earlier) :=
  inferInstanceAs (Decidable (∃ _ ∈ grammar.precedenceOf later, ∃ _ ∈ _, _))

/-- The token at a place is a value, or it is beaten by an operator behind it, up to another
place. -/
def LeavesBy (grammar : Grammar) (tokens : List Token) (place last : Nat) : Prop :=
  ∃ token ∈ tokens[place]?, grammar.roleOf token = some .value ∨
    ∃ between ≤ last, place < between ∧ ∃ later ∈ tokens[between]?,
      grammar.roleOf later = some .operator ∧ grammar.Beats later token

instance (grammar : Grammar) (tokens : List Token) (place last : Nat) :
    Decidable (grammar.LeavesBy tokens place last) :=
  inferInstanceAs (Decidable (∃ token ∈ tokens[place]?, _ ∨ ∃ between ≤ last, _ ∧ _))

/-- The places of all tokens that have a role, in an order in which a place precedes a later one
just if its token leaves by then. -/
structure OutputOrder (grammar : Grammar) (tokens : List Token) (order : List Nat) : Prop where
  nodup : order.Nodup
  mem_iff : ∀ place, place ∈ order ↔ ∃ token ∈ tokens[place]?, grammar.roleOf token ≠ none
  precedes_iff : ∀ earlier ∈ order, ∀ later ∈ order, earlier < later →
    (order.idxOf earlier < order.idxOf later ↔ grammar.LeavesBy tokens earlier later)

/-- The tokens at some places. -/
def listed (tokens : List Token) (places : List Nat) : List Token :=
  places.filterMap fun place => tokens[place]?

/-- What `OutputOrder` says of two places, the first of which stands in front. -/
def Precedes (grammar : Grammar) (tokens : List Token) (first second : Nat) : Prop :=
  first < second ∧ grammar.LeavesBy tokens first second ∨
    second < first ∧ ¬ grammar.LeavesBy tokens second first

/-- The state of a run in terms of places: those of the tokens emitted so far, and those of the
tokens that wait, the top of the stack first. -/
structure Placed (grammar : Grammar) (tokens : List Token) (emitted waiting : List Nat) : Prop where
  ordered : grammar.OutputOrder tokens (emitted ++ waiting)
  left : ∀ place ∈ emitted, grammar.LeavesBy tokens place tokens.length
  waits : ∀ place ∈ waiting, ¬ grammar.LeavesBy tokens place tokens.length

instance (grammar : Grammar) (tokens : List Token) (first second : Nat) :
    Decidable (grammar.Precedes tokens first second) :=
  inferInstanceAs (Decidable (_ ∧ _ ∨ _ ∧ ¬ _))

variable {grammar : Grammar}

theorem beats_iff_yieldsTo {later earlier : Token} {precedence : Int}
    (decided : grammar.precedenceOf later = some precedence)
    (role : grammar.roleOf earlier = some .operator) :
    grammar.Beats later earlier ↔
      grammar.yieldsTo precedence (grammar.associativityOf later) earlier = true := by
  cases found : grammar.precedenceOf earlier with
  | none => simp [Beats, yieldsTo, found]
  | some other =>
      cases side : grammar.associativityOf later <;>
        simp [Beats, yieldsTo, decided, found, role, side]

/-- Whatever beats an operator beats those that wait above it, since they do not beat it. -/
theorem Beats.above {later lower upper : Token} (beats : grammar.Beats later lower)
    (decided : grammar.precedenceOf upper ≠ none) (unbeaten : ¬ grammar.Beats upper lower) :
    grammar.Beats later upper := by
  rcases beats with ⟨precedence, later_eq, lowest, lower_eq, wins⟩
  rcases Option.ne_none_iff_exists'.mp decided with ⟨other, upper_eq⟩
  have tighter : lowest ≤ other := by
    by_contra looser
    apply unbeaten
    refine ⟨other, upper_eq, lowest, lower_eq, ?_⟩
    cases grammar.associativityOf upper with
    | left => exact .inl ⟨rfl, by omega⟩
    | right => exact .inr ⟨rfl, by omega⟩
  refine ⟨precedence, later_eq, other, upper_eq, ?_⟩
  rcases wins with ⟨side, least⟩ | ⟨side, less⟩
  · exact .inl ⟨side, by omega⟩
  · exact .inr ⟨side, by omega⟩

theorem leavesBy_iff {tokens : List Token} {token : Token} {place last : Nat}
    (found : tokens[place]? = some token) :
    grammar.LeavesBy tokens place last ↔
      grammar.roleOf token = some .value ∨
        ∃ between later, between ≤ last ∧ place < between ∧ tokens[between]? = some later ∧
          grammar.roleOf later = some .operator ∧ grammar.Beats later token := by
  simp [LeavesBy, found]

theorem LeavesBy.mono {tokens : List Token} {place last further : Nat}
    (leaves : grammar.LeavesBy tokens place last) (within : last ≤ further) :
    grammar.LeavesBy tokens place further := by
  rcases leaves with ⟨token, found, value | ⟨between, upTo, beating⟩⟩
  · exact ⟨token, found, .inl value⟩
  · exact ⟨token, found, .inr ⟨between, upTo.trans within, beating⟩⟩

/-- What is read behind two places does not matter to them. -/
theorem leavesBy_append {tokens : List Token} (more : List Token) {place last : Nat}
    (before : place < last) (within : last < tokens.length) :
    grammar.LeavesBy (tokens ++ more) place last ↔ grammar.LeavesBy tokens place last := by
  have same {other : Nat} (upTo : other ≤ last) : (tokens ++ more)[other]? = tokens[other]? :=
    List.getElem?_append_left (by omega)
  simp only [LeavesBy, same before.le]
  constructor
  · rintro ⟨token, found, value | ⟨between, upTo, behind, beating⟩⟩
    · exact ⟨token, found, .inl value⟩
    · rw [same upTo] at beating
      exact ⟨token, found, .inr ⟨between, upTo, behind, beating⟩⟩
  · rintro ⟨token, found, value | ⟨between, upTo, behind, beating⟩⟩
    · exact ⟨token, found, .inl value⟩
    · rw [← same upTo] at beating
      exact ⟨token, found, .inr ⟨between, upTo, behind, beating⟩⟩

/-- One more token makes leave what it beats, if it is an operator. -/
theorem leavesBy_concat {tokens : List Token} {token earlier : Token} {place : Nat}
    (found : tokens[place]? = some earlier) (last : Nat) (behind : tokens.length ≤ last) :
    grammar.LeavesBy (tokens ++ [token]) place last ↔
      grammar.LeavesBy tokens place tokens.length ∨
        grammar.roleOf token = some .operator ∧ grammar.Beats token earlier := by
  have within : place < tokens.length := (List.getElem?_eq_some_iff.mp found).1
  rw [leavesBy_iff (getElem?_concat_eq_some_iff.mpr (.inl found)), leavesBy_iff found]
  constructor
  · rintro (value | ⟨between, later, -, place_lt, later_eq, role, beats⟩)
    · exact .inl (.inl value)
    · rcases getElem?_concat_eq_some_iff.mp later_eq with later_eq | ⟨-, rfl⟩
      · have inside := (List.getElem?_eq_some_iff.mp later_eq).1
        exact .inl (.inr ⟨between, later, inside.le, place_lt, later_eq, role, beats⟩)
      · exact .inr ⟨role, beats⟩
  · rintro ((value | ⟨between, later, inside, place_lt, later_eq, beating⟩) | ⟨role, beats⟩)
    · exact .inl value
    · exact .inr ⟨between, later, inside.trans behind, place_lt,
        getElem?_concat_eq_some_iff.mpr (.inl later_eq), beating⟩
    · exact .inr ⟨tokens.length, token, behind, within,
        getElem?_concat_eq_some_iff.mpr (.inr ⟨rfl, rfl⟩), role, beats⟩

theorem Precedes.asymm {tokens : List Token} {first second : Nat}
    (precedes : grammar.Precedes tokens first second) :
    ¬ grammar.Precedes tokens second first := by
  rcases precedes with ⟨before, leaves⟩ | ⟨behind, stays⟩
  · rintro (⟨behind, _⟩ | ⟨_, stays⟩)
    · omega
    · exact stays leaves
  · rintro (⟨_, leaves⟩ | ⟨before, _⟩)
    · exact stays leaves
    · omega

/-- The order of places as a relation between those in front and those behind. -/
theorem outputOrder_iff {tokens : List Token} {order : List Nat} :
    grammar.OutputOrder tokens order ↔
      order.Nodup ∧
        (∀ place, place ∈ order ↔
          ∃ token ∈ tokens[place]?, grammar.roleOf token ≠ none) ∧
        order.Pairwise (grammar.Precedes tokens) := by
  constructor
  · rintro ⟨nodup, mem_iff, precedes_iff⟩
    refine ⟨nodup, mem_iff, List.pairwise_iff_getElem.mpr ?_⟩
    intro i j i_lt j_lt before
    have first_mem := List.getElem_mem i_lt
    have second_mem := List.getElem_mem j_lt
    have distinct : order[i] ≠ order[j] := by
      intro same
      have := nodup.getElem_inj_iff.mp same
      omega
    rcases Nat.lt_or_gt_of_ne distinct with earlier | later
    · refine .inl ⟨earlier, (precedes_iff _ first_mem _ second_mem earlier).mp ?_⟩
      rwa [nodup.idxOf_getElem, nodup.idxOf_getElem]
    · refine .inr ⟨later, fun leaves => ?_⟩
      have := (precedes_iff _ second_mem _ first_mem later).mpr leaves
      rw [nodup.idxOf_getElem, nodup.idxOf_getElem] at this
      omega
  · rintro ⟨nodup, mem_iff, pairwise⟩
    refine ⟨nodup, mem_iff, ?_⟩
    intro earlier earlier_mem later later_mem before
    have earlier_lt := List.idxOf_lt_length_iff.mpr earlier_mem
    have later_lt := List.idxOf_lt_length_iff.mpr later_mem
    have related := List.pairwise_iff_getElem.mp pairwise
    constructor
    · intro inFront
      have precedes := related _ _ earlier_lt later_lt inFront
      rw [List.getElem_idxOf, List.getElem_idxOf] at precedes
      rcases precedes with ⟨_, leaves⟩ | ⟨behind, _⟩
      · exact leaves
      · omega
    · intro leaves
      by_contra notInFront
      have distinct : order.idxOf later ≠ order.idxOf earlier := by
        intro same
        have := (List.idxOf_inj later_mem).mp same
        omega
      have precedes := related _ _ later_lt earlier_lt (by omega)
      rw [List.getElem_idxOf, List.getElem_idxOf] at precedes
      exact Precedes.asymm precedes (.inl ⟨before, leaves⟩)

theorem OutputOrder.unique {tokens : List Token} {order other : List Nat}
    (ordered : grammar.OutputOrder tokens order) (orderedToo : grammar.OutputOrder tokens other) :
    other = order := by
  rcases outputOrder_iff.mp ordered with ⟨nodup, mem_iff, pairwise⟩
  rcases outputOrder_iff.mp orderedToo with ⟨nodup', mem_iff', pairwise'⟩
  have perm : other.Perm order := by
    apply (List.perm_ext_iff_of_nodup nodup' nodup).mpr
    intro place
    rw [mem_iff, mem_iff']
  refine perm.eq_of_pairwise ?_ pairwise' pairwise
  intro first second _ _ precedes precedesToo
  exact absurd precedesToo precedes.asymm

theorem OutputOrder.exists_token {tokens : List Token} {order : List Nat}
    (ordered : grammar.OutputOrder tokens order) {place : Nat} (place_mem : place ∈ order) :
    ∃ token, tokens[place]? = some token ∧ grammar.roleOf token ≠ none :=
  (ordered.mem_iff place).mp place_mem

theorem OutputOrder.lt_length {tokens : List Token} {order : List Nat}
    (ordered : grammar.OutputOrder tokens order) {place : Nat} (place_mem : place ∈ order) :
    place < tokens.length := by
  rcases ordered.exists_token place_mem with ⟨token, found, -⟩
  exact (List.getElem?_eq_some_iff.mp found).1

theorem OutputOrder.pairwise_append {tokens : List Token} {order : List Nat}
    (ordered : grammar.OutputOrder tokens order) (more : List Token) :
    order.Pairwise (grammar.Precedes (tokens ++ more)) := by
  refine (outputOrder_iff.mp ordered).2.2.imp_of_mem ?_
  intro first second first_mem second_mem precedes
  have first_lt := ordered.lt_length first_mem
  have second_lt := ordered.lt_length second_mem
  rcases precedes with ⟨before, leaves⟩ | ⟨behind, stays⟩
  · exact .inl ⟨before, (leavesBy_append more before second_lt).mpr leaves⟩
  · exact .inr ⟨behind, fun leaves => stays ((leavesBy_append more behind first_lt).mp leaves)⟩

/-- A token without a role has no place in the order. -/
theorem OutputOrder.skip {tokens : List Token} {order : List Nat} {token : Token}
    (ordered : grammar.OutputOrder tokens order) (role : grammar.roleOf token = none) :
    grammar.OutputOrder (tokens ++ [token]) order := by
  refine outputOrder_iff.mpr ⟨ordered.nodup, ?_, ordered.pairwise_append [token]⟩
  intro place
  simp only [ordered.mem_iff, Option.mem_def, getElem?_concat_eq_some_iff]
  constructor
  · rintro ⟨other, found, known⟩
    exact ⟨other, .inl found, known⟩
  · rintro ⟨other, found | ⟨-, rfl⟩, known⟩
    · exact ⟨other, found, known⟩
    · exact absurd role known

/-- A token with a role goes behind everything that leaves at once and in front of everything that
stays. -/
theorem OutputOrder.insert {tokens : List Token} {front back : List Nat} {token : Token}
    (ordered : grammar.OutputOrder tokens (front ++ back)) (known : grammar.roleOf token ≠ none)
    (leave : ∀ place ∈ front, grammar.LeavesBy (tokens ++ [token]) place tokens.length)
    (stay : ∀ place ∈ back, ¬ grammar.LeavesBy (tokens ++ [token]) place tokens.length) :
    grammar.OutputOrder (tokens ++ [token]) (front ++ tokens.length :: back) := by
  have fresh : tokens.length ∉ front ++ back := fun within => (ordered.lt_length within).false
  have within {place : Nat} (place_mem : place ∈ front ++ back) : place < tokens.length :=
    ordered.lt_length place_mem
  refine outputOrder_iff.mpr ⟨?_, ?_, ?_⟩
  · exact List.nodup_middle.mpr (List.nodup_cons.mpr ⟨fresh, ordered.nodup⟩)
  · intro place
    rw [List.mem_append, List.mem_cons, or_left_comm, ← List.mem_append, ordered.mem_iff]
    simp only [Option.mem_def, getElem?_concat_eq_some_iff]
    constructor
    · rintro (rfl | ⟨other, found, known⟩)
      · exact ⟨token, .inr ⟨rfl, rfl⟩, known⟩
      · exact ⟨other, .inl found, known⟩
    · rintro ⟨other, found | ⟨rfl, rfl⟩, known⟩
      · exact .inr ⟨other, found, known⟩
      · exact .inl rfl
  · have pairwise := List.pairwise_append.mp (ordered.pairwise_append [token])
    refine List.pairwise_append.mpr
      ⟨pairwise.1, List.pairwise_cons.mpr ⟨?_, pairwise.2.1⟩, ?_⟩
    · intro place place_mem
      exact .inr ⟨within (List.mem_append_right front place_mem), stay place place_mem⟩
    · intro place place_mem other other_mem
      rcases List.mem_cons.mp other_mem with rfl | other_mem
      · exact .inl ⟨within (List.mem_append_left back place_mem), leave place place_mem⟩
      · exact pairwise.2.2 place place_mem other other_mem

theorem mem_listed {tokens : List Token} {places : List Nat} {place : Nat} {token : Token}
    (place_mem : place ∈ places) (found : tokens[place]? = some token) :
    token ∈ listed tokens places :=
  List.mem_filterMap.mpr ⟨place, place_mem, found⟩

theorem listed_concat {tokens : List Token} {places : List Nat} (token : Token)
    (within : ∀ place ∈ places, place < tokens.length) :
    listed (tokens ++ [token]) places = listed tokens places := by
  apply List.filterMap_congr
  intro place place_mem
  exact List.getElem?_append_left (within place place_mem)

theorem listed_cons_length (tokens : List Token) (token : Token) (places : List Nat) :
    listed (tokens ++ [token]) (tokens.length :: places) =
      token :: listed (tokens ++ [token]) places := by
  simp [listed]

/-- Without functions and brackets, whatever waits is an operator that can be compared. -/
theorem Placed.waiting_operator {tokens : List Token} {emitted waiting : List Nat}
    (placed : grammar.Placed tokens emitted waiting) (bare : ∀ token ∈ tokens, grammar.Bare token)
    {place : Nat} (place_mem : place ∈ waiting) {token : Token}
    (found : tokens[place]? = some token) :
    grammar.roleOf token = some .operator ∧ grammar.precedenceOf token ≠ none := by
  rcases placed.ordered.exists_token (List.mem_append_right emitted place_mem) with
    ⟨other, other_eq, known⟩
  rw [found, Option.some.injEq] at other_eq
  subst other
  rcases bare token (List.mem_of_getElem? found) with unknown | value | operator
  · exact absurd unknown known
  · exact absurd ((leavesBy_iff found).mpr (.inl value)) (placed.waits place place_mem)
  · exact operator

/-- What is not beaten on top of the stack is not beaten below either. -/
theorem Placed.unbeaten {tokens : List Token} {emitted released rest : List Nat} {token : Token}
    (placed : grammar.Placed tokens emitted (released ++ rest))
    (bare : ∀ token ∈ tokens, grammar.Bare token)
    (onTop : ∀ top ∈ (listed tokens rest).head?, ¬ grammar.Beats token top) :
    ∀ place ∈ rest, ∀ earlier, tokens[place]? = some earlier →
      ¬ grammar.Beats token earlier := by
  cases rest with
  | nil => simp
  | cons highest rest =>
      have waiting {place : Nat} (place_mem : place ∈ highest :: rest) :
          place ∈ released ++ highest :: rest := List.mem_append_right released place_mem
      have highest_mem := waiting List.mem_cons_self
      rcases placed.ordered.exists_token (List.mem_append_right emitted highest_mem) with
        ⟨top, top_eq, -⟩
      have top_head : top ∈ (listed tokens (highest :: rest)).head? := by
        simp [listed, top_eq]
      intro place place_mem earlier found beats
      rcases List.mem_cons.mp place_mem with rfl | below
      · rw [top_eq, Option.some.injEq] at found
        exact onTop top top_head (found ▸ beats)
      · -- The place below stays although the one on top was read later, so it is not beaten by it.
        have precedes : grammar.Precedes tokens highest place := by
          have pairwise := (outputOrder_iff.mp placed.ordered).2.2
          have behind := (List.pairwise_append.mp (List.pairwise_append.mp pairwise).2.1).2.1
          exact (List.pairwise_cons.mp behind).1 place below
        have topOperator := placed.waiting_operator bare highest_mem top_eq
        have unbeaten : ¬ grammar.Beats top earlier := by
          intro beatsToo
          rcases precedes with ⟨before, leaves⟩ | ⟨before, stays⟩
          · exact placed.waits highest highest_mem
              (leaves.mono (placed.ordered.lt_length
                (List.mem_append_right emitted (waiting place_mem))).le)
          · exact stays ((leavesBy_iff found).mpr
              (.inr ⟨highest, top, le_rfl, before, top_eq, topOperator.1, beatsToo⟩))
        exact onTop top top_head (beats.above topOperator.2 unbeaten)

/-- A further token makes leave what it beats of the waiting tokens, and nothing else. -/
theorem Placed.leave_or_stay {tokens : List Token} {emitted released rest : List Nat}
    {token : Token} (placed : grammar.Placed tokens emitted (released ++ rest))
    (beaten : ∀ place ∈ released, ∀ earlier, tokens[place]? = some earlier →
      grammar.roleOf token = some .operator ∧ grammar.Beats token earlier)
    (unbeaten : ∀ place ∈ rest, ∀ earlier, tokens[place]? = some earlier →
      ¬ (grammar.roleOf token = some .operator ∧ grammar.Beats token earlier))
    {last : Nat} (behind : tokens.length ≤ last) :
    (∀ place ∈ emitted ++ released, grammar.LeavesBy (tokens ++ [token]) place last) ∧
      ∀ place ∈ rest, ¬ grammar.LeavesBy (tokens ++ [token]) place last := by
  have found {place : Nat} (place_mem : place ∈ (emitted ++ released) ++ rest) :
      ∃ earlier, tokens[place]? = some earlier := by
    rw [List.append_assoc] at place_mem
    rcases placed.ordered.exists_token place_mem with ⟨earlier, earlier_eq, -⟩
    exact ⟨earlier, earlier_eq⟩
  constructor
  · intro place place_mem
    rcases found (List.mem_append_left rest place_mem) with ⟨earlier, earlier_eq⟩
    rw [leavesBy_concat earlier_eq last behind]
    rcases List.mem_append.mp place_mem with out | released
    · exact .inl (placed.left place out)
    · exact .inr (beaten place released earlier earlier_eq)
  · intro place place_mem
    rcases found (List.mem_append_right _ place_mem) with ⟨earlier, earlier_eq⟩
    rw [leavesBy_concat earlier_eq last behind]
    rintro (leaves | beats)
    · exact placed.waits place (List.mem_append_right released place_mem) leaves
    · exact unbeaten place place_mem earlier earlier_eq beats

/-- What one token does to the places. -/
theorem Placed.step {tokens next : List Token} {emitted waiting : List Nat} {token : Token}
    {events : List Event} (placed : grammar.Placed tokens emitted waiting)
    (bare : ∀ token ∈ tokens, grammar.Bare token) (bareToo : grammar.Bare token)
    (moves : grammar.Moves (listed tokens waiting) token events next) :
    ∃ further waiting', grammar.Placed (tokens ++ [token]) (emitted ++ further) waiting' ∧
      events.filterMap Event.output? = listed (tokens ++ [token]) further ∧
      next = listed (tokens ++ [token]) waiting' := by
  have within {place : Nat} (place_mem : place ∈ emitted ++ waiting) : place < tokens.length :=
    placed.ordered.lt_length place_mem
  have length_le : tokens.length ≤ (tokens ++ [token]).length := by simp
  have kept : listed tokens waiting = listed (tokens ++ [token]) waiting :=
    (listed_concat token fun place place_mem =>
      within (List.mem_append_right emitted place_mem)).symm
  -- A token that is no operator makes nothing leave.
  have idle (other : grammar.roleOf token ≠ some .operator) {last : Nat}
      (behind : tokens.length ≤ last) :
      (∀ place ∈ emitted ++ [], grammar.LeavesBy (tokens ++ [token]) place last) ∧
        ∀ place ∈ waiting, ¬ grammar.LeavesBy (tokens ++ [token]) place last :=
    placed.leave_or_stay (by simp) (fun _ _ _ _ beats => other beats.1) behind
  generalize stack_eq : listed tokens waiting = stack at moves
  cases moves with
  | ignored role =>
      have others := idle (by simp [role]) length_le
      refine ⟨[], waiting, ⟨?_, others.1, others.2⟩, rfl, stack_eq ▸ kept⟩
      simpa using placed.ordered.skip role
  | value role =>
      have others := idle (by simp [role]) length_le
      have current := idle (by simp [role]) le_rfl
      refine ⟨[tokens.length], waiting, ⟨?_, ?_, others.2⟩, ?_, stack_eq ▸ kept⟩
      · rw [List.append_assoc, List.singleton_append]
        exact placed.ordered.insert (by simp [role]) (by simpa using current.1) current.2
      · intro place place_mem
        rcases List.mem_append.mp place_mem with out | new
        · exact others.1 place (by simpa using out)
        · rw [List.mem_singleton.mp new]
          exact ⟨token, List.getElem?_concat_length, .inl role⟩
      · rw [listed_cons_length]
        rfl
  | @operator released rest _ precedence role decided yielding staying comparable =>
      rcases List.filterMap_eq_append_iff.mp stack_eq with ⟨gone, left, rfl, rfl, rfl⟩
      have beaten : ∀ place ∈ gone, ∀ earlier, tokens[place]? = some earlier →
          grammar.roleOf token = some .operator ∧ grammar.Beats token earlier := by
        intro place place_mem earlier found
        have yields := yielding earlier (mem_listed place_mem found)
        exact ⟨role, (beats_iff_yieldsTo decided (roleOf_of_yieldsTo yields)).mpr yields⟩
      have unbeaten : ∀ place ∈ left, ∀ earlier, tokens[place]? = some earlier →
          ¬ grammar.Beats token earlier := by
        refine placed.unbeaten bare fun top top_head beats => ?_
        rcases List.mem_filterMap.mp (List.mem_of_mem_head? top_head) with ⟨place, place_mem, found⟩
        have operator := placed.waiting_operator bare (List.mem_append_right gone place_mem) found
        have stays := staying top top_head
        simp [(beats_iff_yieldsTo decided operator.1).mp beats] at stays
      have parted {last : Nat} (behind : tokens.length ≤ last) :=
        placed.leave_or_stay beaten (fun place place_mem earlier found beats =>
          unbeaten place place_mem earlier found beats.2) behind
      have current := parted le_rfl
      have later := parted length_le
      refine ⟨gone, tokens.length :: left, ⟨?_, later.1, ?_⟩, ?_, ?_⟩
      · have ordered := placed.ordered
        rw [← List.append_assoc] at ordered
        exact ordered.insert (by simp [role]) current.1 current.2
      · intro place place_mem
        rcases List.mem_cons.mp place_mem with rfl | place_mem
        · rw [leavesBy_iff List.getElem?_concat_length]
          rintro (value | ⟨between, other, -, behind, found, -⟩)
          · simp [role] at value
          · have bound := (List.getElem?_eq_some_iff.mp found).1
            simp only [List.length_append, List.length_singleton] at bound
            omega
        · exact later.2 place place_mem
      · rw [List.filterMap_append, Conversion.filterMap_output?_release,
          listed_concat token fun place place_mem => within (by simp [place_mem])]
        simp [listed, List.filterMap_cons]
      · rw [listed_cons_length,
          listed_concat token fun place place_mem => within (by simp [place_mem])]
        rfl
  | function role | openBracket role | separator role _ _ | closeBracket role _ _ _
  | call role _ _ _ => simp [Bare, role] at bareToo

theorem placed_of_feed {tokens stack : List Token} {events : List Event}
    (bare : ∀ token ∈ tokens, grammar.Bare token)
    (fed : grammar.feed [] tokens = ⟨events, .ok stack⟩) :
    ∃ emitted waiting, grammar.Placed tokens emitted waiting ∧
      events.filterMap Event.output? = listed tokens emitted ∧ stack = listed tokens waiting := by
  refine feed_induction (motive := fun consumed events stack =>
    (∀ token ∈ consumed, grammar.Bare token) →
      ∃ emitted waiting, grammar.Placed consumed emitted waiting ∧
        events.filterMap Event.output? = listed consumed emitted ∧ stack = listed consumed waiting)
    ?_ ?_ fed bare
  · intro _
    refine ⟨[], [], ⟨outputOrder_iff.mpr ⟨by simp, by simp, by simp⟩, by simp, by simp⟩, rfl, rfl⟩
  · intro consumed before stack token later next _ prior moves bare
    have bareBefore : ∀ token ∈ consumed, grammar.Bare token :=
      fun other other_mem => bare other (List.mem_append_left _ other_mem)
    rcases prior bareBefore with ⟨emitted, waiting, placed, output_eq, rfl⟩
    rcases placed.step bareBefore (bare token (by simp)) moves with
      ⟨further, waiting', placed', further_eq, next_eq⟩
    refine ⟨emitted ++ further, waiting', placed', ?_, next_eq⟩
    have kept : listed (consumed ++ [token]) emitted = listed consumed emitted :=
      listed_concat token fun place place_mem =>
        placed.ordered.lt_length (List.mem_append_left waiting place_mem)
    rw [List.filterMap_append, output_eq, further_eq, ← kept, listed, listed, listed,
      List.filterMap_append]

theorem faultless_of_bare {tokens : List Token} (bare : ∀ token ∈ tokens, grammar.Bare token) :
    grammar.Faultless tokens := by
  rintro before token after rfl
  rcases bare token (by simp) with role | role | ⟨role, decided⟩
  · simp [fault?, role]
  · simp [fault?, role]
  · simp [fault?, role, decided]

theorem rpn_of_bare {tokens : List Token} (bare : ∀ token ∈ tokens, grammar.Bare token) :
    ∃ order, grammar.OutputOrder tokens order ∧
      (grammar.conversion tokens).rpn = .ok (listed tokens order) := by
  rcases exists_feed_of_faultless (faultless_of_bare bare) with ⟨events, stack, fed⟩
  rcases placed_of_feed bare fed with ⟨emitted, waiting, placed, output_eq, rfl⟩
  refine ⟨emitted ++ waiting, placed.ordered, rpn_eq_ok_iff.mpr ⟨events, _, fed, ?_, ?_⟩⟩
  · intro token token_mem
    rcases List.mem_filterMap.mp token_mem with ⟨place, place_mem, found⟩
    have operator := placed.waiting_operator bare place_mem found
    simp [isBracket, operator.1]
  · rw [output_eq, listed, listed, listed, List.filterMap_append]

end Grammar

namespace Converter

/-- The output for values and operators, in any order and with tokens without a role between them:
there is one order of their places in which a place precedes a later one just if it holds a value
or an operator that is beaten up to there, and the output follows it. -/
theorem result_tokens_ordered (converter : Converter) {tokens : List Token} (source : String)
    (bare : ∀ token ∈ tokens, converter.grammar.Bare token) :
    (∃! order, converter.grammar.OutputOrder tokens order) ∧
      ∀ order, converter.grammar.OutputOrder tokens order →
        (converter.attempt (.tokens tokens source)).result = .ok (Grammar.listed tokens order) := by
  rcases Grammar.rpn_of_bare bare with ⟨order, ordered, converted⟩
  refine ⟨⟨order, ordered, fun other orderedToo => ordered.unique orderedToo⟩, ?_⟩
  intro other orderedToo
  rw [ordered.unique orderedToo]
  exact result_tokens_eq_ok_iff.mpr converted

/-- The stream `x < y ^ # x <`, where `<` and `^` have one precedence and only `^` groups to the
right: the first `<` waits until the second one is read, as `^` does not beat it. -/
theorem result_tokens_ordered_mixed :
    let classes : Classification :=
      ⟨⟨["NAME"], [], ["SIGN"], "COMMA", "OPEN", "CLOSE"⟩, by rfl⟩
    let grammar : Grammar := ⟨[("SIGN", 1)], [("^", .right)], classes⟩
    let x : Token := ⟨"x", "NAME"⟩
    let less : Token := ⟨"<", "SIGN"⟩
    let power : Token := ⟨"^", "SIGN"⟩
    let tokens := [x, less, power, ⟨"#", "COMMENT"⟩, x, less]
    let converter := Converter.new grammar none
    (∀ token ∈ tokens, grammar.Bare token) ∧ grammar.OutputOrder tokens [0, 4, 2, 1, 5] ∧
      (converter.attempt (.tokens tokens "stream")).result = .ok [x, x, power, less, less] := by
  intro classes grammar x less power tokens converter
  have bare : ∀ token ∈ tokens, grammar.Bare token := by
    simp only [tokens, List.forall_mem_cons]
    exact ⟨.inr (.inl rfl), .inr (.inr ⟨rfl, by decide⟩), .inr (.inr ⟨rfl, by decide⟩), .inl rfl,
      .inr (.inl rfl), .inr (.inr ⟨rfl, by decide⟩), by simp⟩
  have ordered : grammar.OutputOrder tokens [0, 4, 2, 1, 5] := by
    have within : ∀ place < tokens.length, place ∈ [0, 4, 2, 1, 5] ↔
        ∃ token ∈ tokens[place]?, grammar.roleOf token ≠ none := by
      decide
    refine Grammar.outputOrder_iff.mpr ⟨by decide, ?_, by decide⟩
    intro place
    by_cases inside : place < tokens.length
    · exact within place inside
    · have outside : ∀ other ∈ [0, 4, 2, 1, 5], other < tokens.length := by decide
      simp only [List.getElem?_eq_none (Nat.le_of_not_lt inside), Option.mem_def, reduceCtorEq,
        false_and, exists_false, iff_false]
      exact fun place_mem => inside (outside place place_mem)
  exact ⟨bare, ordered, (result_tokens_ordered converter "stream" bare).2 _ ordered⟩

end Converter

end Rpn
