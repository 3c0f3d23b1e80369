import Mathlib.Data.List.Chain
import Rpn.Proofs.Replay

/-!
# The order on the stack

Functions, opening brackets and operators with a precedence wait on the stack, and of two operators
right above each other the upper one binds more tightly, or as tightly if it groups to the right.
A step keeps this: it puts an operator on the stack only above one that does not go first, and all
that it does besides is to take tokens from the top.

So the stack is in this order between any two moves, also in the middle of a release and in a
conversion that fails. `Keeps` says this of the moves of a part of a run, and where the tokens come
from that are emitted in it. It follows what cannot happen: an operator is never compared with one
that has no precedence, what finds the stack empty is never emitted, and no closing bracket is left
on the stack at the end.
-/

namespace Rpn

namespace Grammar

/-- A token may wait right above another one: if both are operators, the upper one binds more
tightly, or as tightly if it groups to the right. -/
def RestsOn (grammar : Grammar) (upper lower : Token) : Prop :=
  grammar.roleOf upper = some .operator → grammar.roleOf lower = some .operator →
    ∃ precedence ∈ grammar.precedenceOf upper, ∃ other ∈ grammar.precedenceOf lower,
      other ≤ precedence ∧ (grammar.associativityOf upper = .left → other < precedence)

/-- A stack of tokens that may wait, each of them above the next one. -/
structure Orderly (grammar : Grammar) (stack : List Token) : Prop where
  waits : ∀ top ∈ stack, grammar.Waits top
  rests : stack.IsChain grammar.RestsOn

/-- What is emitted is a value, or it is a function or an operator that was taken from the stack
right before. -/
def Supplied (grammar : Grammar) (events : List Event) : Prop :=
  ∀ before token after, events = before ++ .emitted token :: after →
    grammar.roleOf token = some .value ∨
      (grammar.roleOf token = some .function ∨ grammar.roleOf token = some .operator) ∧
        ∃ earlier, before = earlier ++ [.popped token]

/-- Some moves can be made on a stack, which is orderly before, between and after them, and what
they emit is supplied. -/
structure Keeps (grammar : Grammar) (stack : List Token) (events : List Event) : Prop where
  orderly : ∀ moved, moved <+: events →
    ∃ next, Event.replay? stack moved = some next ∧ grammar.Orderly next
  supplied : grammar.Supplied events

variable {grammar : Grammar}

theorem restsOn_of_ne {upper : Token} (other : grammar.roleOf upper ≠ some .operator)
    (lower : Token) : grammar.RestsOn upper lower :=
  fun role => absurd role other

/-- An operator that does not go first stays below. -/
theorem restsOn_of_yieldsTo_eq_false {token top : Token} {precedence : Int}
    (decided : grammar.precedenceOf token = some precedence) (waits : grammar.Waits top)
    (stays : grammar.yieldsTo precedence (grammar.associativityOf token) top = false) :
    grammar.RestsOn token top := by
  intro _ role
  have comparable : grammar.precedenceOf top ≠ none := by
    simpa [Waits, role] using waits
  rcases Option.ne_none_iff_exists'.mp comparable with ⟨other, found⟩
  refine ⟨precedence, decided, other, found, ?_⟩
  cases side : grammar.associativityOf token with
  | left =>
      have less : other < precedence := by simpa [yieldsTo, role, found, side] using stays
      exact ⟨Int.le_of_lt less, fun _ => less⟩
  | right =>
      have least : other ≤ precedence := by simpa [yieldsTo, role, found, side] using stays
      exact ⟨least, by simp⟩

namespace Orderly

theorem nil : grammar.Orderly [] :=
  ⟨by simp, .nil⟩

theorem suffix {stack rest : List Token} (orderly : grammar.Orderly stack)
    (behind : rest <:+ stack) : grammar.Orderly rest :=
  ⟨fun top top_mem => orderly.waits top (behind.subset top_mem), orderly.rests.suffix behind⟩

theorem below {above stack : List Token} (orderly : grammar.Orderly (above ++ stack)) :
    grammar.Orderly stack :=
  orderly.suffix (List.suffix_append above stack)

theorem cons {stack : List Token} {token : Token} (orderly : grammar.Orderly stack)
    (waits : grammar.Waits token) (rests : ∀ top ∈ stack.head?, grammar.RestsOn token top) :
    grammar.Orderly (token :: stack) :=
  ⟨List.forall_mem_cons.mpr ⟨waits, orderly.waits⟩, orderly.rests.cons rests⟩

/-- Whatever waits on top, an operator can be compared with it. -/
theorem undecided?_eq_none {stack : List Token} (orderly : grammar.Orderly stack) :
    grammar.undecided? stack = none := by
  cases found : grammar.undecided? stack with
  | none => rfl
  | some top =>
      rcases of_undecided?_eq_some found with ⟨below, rfl, role, undecided⟩
      have waits := orderly.waits top List.mem_cons_self
      simp [Waits, role, undecided] at waits

/-- What is released up to an opening bracket are functions and operators. -/
theorem role_of_inside {released stack : List Token}
    (orderly : grammar.Orderly (released ++ stack))
    (inside : ∀ top ∈ released, grammar.roleOf top ≠ some .openBracket) :
    ∀ top ∈ released,
      grammar.roleOf top = some .function ∨ grammar.roleOf top = some .operator := by
  intro top top_mem
  rcases orderly.waits top (List.mem_append_left stack top_mem) with role | role | ⟨role, _⟩
  · exact .inl role
  · exact absurd role (inside top top_mem)
  · exact .inr role

end Orderly

theorem Supplied.append {first second : List Event} (suppliedFirst : grammar.Supplied first)
    (suppliedSecond : grammar.Supplied second) : grammar.Supplied (first ++ second) := by
  intro before token after split
  rcases List.append_eq_append_iff.mp split with ⟨middle, rfl, rfl⟩ | ⟨middle, rfl, cut⟩
  · rcases suppliedSecond middle token after rfl with value | ⟨role, earlier, rfl⟩
    · exact .inl value
    · exact .inr ⟨role, first ++ earlier, by simp⟩
  · rcases List.cons_eq_append_iff.mp cut with ⟨rfl, rfl⟩ | ⟨middle, rfl, rfl⟩
    · rcases suppliedSecond [] token after rfl with value | ⟨_, earlier, split⟩
      · exact .inl value
      · simp at split
    · exact suppliedFirst before token middle rfl

theorem supplied_of_silent {events : List Event}
    (silent : ∀ event ∈ events, event.output? = none) : grammar.Supplied events := by
  rintro before token after rfl
  have emits := silent (.emitted token) (by simp)
  simp at emits

theorem supplied_value {token : Token} (role : grammar.roleOf token = some .value) :
    grammar.Supplied [.emitted token] := by
  intro before other after split
  rcases List.cons_eq_append_iff.mp split with ⟨rfl, same⟩ | ⟨middle, rfl, impossible⟩
  · simp only [List.cons.injEq, Event.emitted.injEq] at same
    exact .inl (same.1 ▸ role)
  · simp at impossible

theorem supplied_released {top : Token}
    (role : grammar.roleOf top = some .function ∨ grammar.roleOf top = some .operator) :
    grammar.Supplied [.popped top, .emitted top] := by
  intro before token after split
  rcases List.cons_eq_append_iff.mp split with ⟨rfl, same⟩ | ⟨middle, rfl, rest⟩
  · simp at same
  · rcases List.cons_eq_append_iff.mp rest with ⟨rfl, same⟩ | ⟨_, rfl, impossible⟩
    · simp only [List.cons.injEq, Event.emitted.injEq] at same
      rcases same with ⟨rfl, _⟩
      exact .inr ⟨role, [], rfl⟩
    · simp at impossible

namespace Keeps

theorem nil {stack : List Token} (orderly : grammar.Orderly stack) : grammar.Keeps stack [] where
  orderly := by
    intro moved front
    rw [List.prefix_nil.mp front]
    exact ⟨stack, rfl, orderly⟩
  supplied := supplied_of_silent (by simp)

theorem single {stack next : List Token} {event : Event} (orderly : grammar.Orderly stack)
    (made : Event.move? stack event = some next) (orderlyNext : grammar.Orderly next)
    (supplied : grammar.Supplied [event]) : grammar.Keeps stack [event] where
  orderly := by
    intro moved front
    rcases List.prefix_cons_iff.mp front with rfl | ⟨rest, rfl, further⟩
    · exact ⟨stack, rfl, orderly⟩
    · rw [List.prefix_nil.mp further]
      exact ⟨next, Event.replay?_cons_eq_some_iff.mpr ⟨next, made, rfl⟩, orderlyNext⟩
  supplied := supplied

theorem append {stack next consumed : List Token} {first second : List Event}
    (keepsFirst : grammar.Keeps stack first) (traces : grammar.Traces stack consumed first next)
    (keepsSecond : grammar.Keeps next second) : grammar.Keeps stack (first ++ second) where
  orderly := by
    intro moved front
    rcases List.prefix_or_prefix_of_prefix front (List.prefix_append first second) with
      inside | ⟨further, rfl⟩
    · exact keepsFirst.orderly moved inside
    · rw [Event.replay?_append traces.replays]
      exact keepsSecond.orderly further ((List.prefix_append_right_inj first).mp front)
  supplied := keepsFirst.supplied.append keepsSecond.supplied

theorem last {stack next consumed : List Token} {events : List Event}
    (keeps : grammar.Keeps stack events) (traces : grammar.Traces stack consumed events next) :
    grammar.Orderly next := by
  rcases keeps.orderly events List.prefix_rfl with ⟨found, replayed, orderly⟩
  rw [traces.replays, Option.some.injEq] at replayed
  exact replayed ▸ orderly

theorem pushed {stack : List Token} {token : Token} (orderly : grammar.Orderly stack)
    (waits : grammar.Waits token) (rests : ∀ top ∈ stack.head?, grammar.RestsOn token top) :
    grammar.Keeps stack [.pushed token] :=
  .single orderly rfl (orderly.cons waits rests) (supplied_of_silent (by simp))

theorem popped {stack : List Token} {top : Token} (orderly : grammar.Orderly (top :: stack)) :
    grammar.Keeps (top :: stack) [.popped top] :=
  .single orderly (by simp [Event.move?]) (orderly.suffix (List.suffix_cons top stack))
    (supplied_of_silent (by simp))

/-- Emitting the token that was taken leaves the stack as it is. -/
theorem released {stack : List Token} {top : Token} (orderly : grammar.Orderly (top :: stack))
    (role : grammar.roleOf top = some .function ∨ grammar.roleOf top = some .operator) :
    grammar.Keeps (top :: stack) [.popped top, .emitted top] where
  orderly := by
    have orderlyNext := orderly.suffix (List.suffix_cons top stack)
    intro moved front
    rcases List.prefix_cons_iff.mp front with rfl | ⟨rest, rfl, further⟩
    · exact ⟨top :: stack, rfl, orderly⟩
    · refine ⟨stack, ?_, orderlyNext⟩
      rcases List.prefix_cons_iff.mp further with rfl | ⟨rest, rfl, last⟩
      · simp [Event.replay?, Event.move?]
      · simp [List.prefix_nil.mp last, Event.replay?, Event.move?]
  supplied := supplied_released role

theorem release {above stack : List Token} (orderly : grammar.Orderly (above ++ stack))
    (roles : ∀ top ∈ above,
      grammar.roleOf top = some .function ∨ grammar.roleOf top = some .operator) :
    grammar.Keeps (above ++ stack) (Conversion.release above) := by
  induction above with
  | nil => exact nil orderly
  | cons top above ih =>
      rw [List.forall_mem_cons] at roles
      have rest := ih (orderly.suffix (List.suffix_cons top _)) roles.2
      exact (released orderly roles.1).append (.release [top] (above ++ stack)) rest

end Keeps

/-- A step that goes on keeps the order at each of its moves. -/
theorem Moves.keeps {stack next : List Token} {token : Token} {events : List Event}
    (moves : grammar.Moves stack token events next) (orderly : grammar.Orderly stack) :
    grammar.Keeps stack events := by
  cases moves with
  | ignored role => exact .single orderly rfl orderly (supplied_of_silent (by simp))
  | value role => exact .single orderly rfl orderly (supplied_value role)
  | function role =>
      exact .pushed orderly (.inl role) fun top _ => restsOn_of_ne (by simp [role]) top
  | openBracket role =>
      exact .pushed orderly (.inr (.inl role)) fun top _ => restsOn_of_ne (by simp [role]) top
  | @operator released rest _ precedence role decided yielding staying comparable =>
      -- Only here an operator is put on the stack, and what is then right below it did not yield.
      have rests : ∀ top ∈ rest.head?, grammar.RestsOn token top := by
        intro top top_head
        exact restsOn_of_yieldsTo_eq_false decided
          (orderly.below.waits top (List.mem_of_mem_head? top_head)) (staying top top_head)
      have releases := Keeps.release orderly fun top top_mem =>
        .inr (roleOf_of_yieldsTo (yielding top top_mem))
      exact releases.append (.release released rest)
        (.pushed orderly.below (.inr (.inr ⟨role, by simp [decided]⟩)) rests)
  | separator role inside opening => exact .release orderly (orderly.role_of_inside inside)
  | @closeBracket released below _ bracket role inside opening uncalled =>
      have releases := Keeps.release orderly (orderly.role_of_inside inside)
      exact releases.append (.release released (bracket :: next)) (.popped orderly.below)
  | @call released below _ bracket function role inside opening called =>
      have releases := Keeps.release orderly (orderly.role_of_inside inside)
      have found : grammar.isBracket bracket = true := by simp [isBracket, opening]
      have called' : ∀ top ∈ [function],
          grammar.roleOf top = some .function ∨ grammar.roleOf top = some .operator := by
        simp [called]
      have ends : grammar.Keeps (bracket :: function :: next)
          ([.popped bracket] ++ Conversion.release [function]) :=
        (Keeps.popped orderly.below).append (.bracket _ found)
          (.release (orderly.below.suffix (List.suffix_cons bracket _)) called')
      exact releases.append (.release released (bracket :: function :: next)) ends

/-- A step that fails keeps the order up to the end. -/
theorem Stalls.keeps {stack : List Token} {token : Token} {events : List Event} {cause : Cause}
    (stalls : grammar.Stalls stack token events cause) (orderly : grammar.Orderly stack) :
    grammar.Keeps stack events := by
  have whole (inside : ∀ top ∈ stack, grammar.roleOf top ≠ some .openBracket) :
      grammar.Keeps stack (Conversion.release stack) := by
    rw [← List.append_nil stack] at orderly
    have releases := Keeps.release orderly (orderly.role_of_inside inside)
    rwa [List.append_nil] at releases
  cases stalls with
  | unknown role undecided => exact .nil orderly
  | incomparable role decided yielding topRole undecided =>
      exact .release orderly fun top top_mem => .inr (roleOf_of_yieldsTo (yielding top top_mem))
  | separator role inside => exact whole inside
  | closeBracket role inside =>
      exact (whole inside).append (.releaseAll grammar stack)
        (.single .nil rfl .nil (supplied_of_silent (by simp)))

theorem keeps_of_feed {tokens stack : List Token} {events : List Event}
    (fed : grammar.feed [] tokens = ⟨events, .ok stack⟩) : grammar.Keeps [] events := by
  refine feed_induction (motive := fun _ events _ => grammar.Keeps [] events) (.nil .nil) ?_ fed
  intro consumed before stack token later next prior keeps moves
  have traces := traces_of_feed prior
  exact keeps.append traces (moves.keeps (keeps.last traces))

theorem orderly_of_feed {tokens stack : List Token} {events : List Event}
    (fed : grammar.feed [] tokens = ⟨events, .ok stack⟩) : grammar.Orderly stack :=
  (keeps_of_feed fed).last (traces_of_feed fed)

theorem Orderly.keeps_drain {stack : List Token} (orderly : grammar.Orderly stack) :
    grammar.Keeps stack (grammar.drain stack).events := by
  rcases exists_split (fun token => !grammar.isBracket token) stack with
    ⟨released, rest, rfl, passes, stops⟩
  have free : ∀ token ∈ released, grammar.isBracket token = false := by
    simpa using passes
  have inside : ∀ token ∈ released, grammar.roleOf token ≠ some .openBracket := by
    intro token token_mem opening
    have unbracketed := free token token_mem
    simp [isBracket, opening] at unbracketed
  have releases := Keeps.release orderly (orderly.role_of_inside inside)
  cases rest with
  | nil => simpa [drain_of_free free] using releases
  | cons bracket below =>
      have found : grammar.isBracket bracket = true := by simpa using stops
      rw [drain_of_bracket free found]
      exact releases.append (.release released (bracket :: below)) (.popped orderly.below)

theorem keeps_conversion (grammar : Grammar) (tokens : List Token) :
    grammar.Keeps [] (grammar.conversion tokens).events := by
  rcases fed : grammar.feed [] tokens with ⟨events, cause | stack⟩
  · rcases exists_stalls_of_feed fed with
      ⟨before, token, after, prior, stack, later, split, ran, stalls, rfl⟩
    have keeps := (keeps_of_feed ran).append (traces_of_feed ran)
      (stalls.keeps (orderly_of_feed ran))
    simpa [conversion, fed, Conversion.andThen] using keeps
  · have keeps := (keeps_of_feed fed).append (traces_of_feed fed) (orderly_of_feed fed).keeps_drain
    simpa [conversion, fed, Conversion.andThen] using keeps

/-- A token that is taken away was on top of an orderly stack. -/
theorem Keeps.exists_top {stack : List Token} {before after : List Event} {token : Token}
    (keeps : grammar.Keeps stack (before ++ .popped token :: after)) :
    ∃ below, Event.replay? stack before = some (token :: below) ∧
      grammar.Orderly (token :: below) := by
  rcases keeps.orderly before (List.prefix_append before _) with ⟨next, replayed, orderly⟩
  rcases keeps.orderly (before ++ [.popped token]) ⟨after, by simp⟩ with ⟨last, further, -⟩
  rw [Event.replay?_append replayed] at further
  rcases Event.replay?_cons_eq_some_iff.mp further with ⟨_, made, -⟩
  simp only [Event.move?, Option.ite_none_right_eq_some] at made
  rcases List.head?_eq_some_iff.mp made.1 with ⟨below, rfl⟩
  exact ⟨below, replayed, orderly⟩

theorem Supplied.isKept {events : List Event} (supplied : grammar.Supplied events) :
    ∀ token ∈ events.filterMap Event.output?, grammar.isKept token = true := by
  intro token token_mem
  rcases List.mem_filterMap.mp token_mem with ⟨event, event_mem, emits⟩
  cases event with
  | emitted other =>
      simp only [Event.output?_emitted, Option.some.injEq] at emits
      subst emits
      rcases List.append_of_mem event_mem with ⟨before, after, split⟩
      rcases supplied before other after split with value | ⟨role, -⟩
      · exact isKept_iff.mpr (.inl value)
      · exact isKept_iff.mpr (.inr role)
  | pushed _ | popped _ | poppedNothing | ignored _ => simp at emits

/-- An operator without a precedence makes the conversion fail when it is read, before any move is
made for it. -/
theorem Concludes.exists_undecided {tokens : List Token} {conversion : Conversion}
    {operator : String} (concludes : grammar.Concludes tokens conversion)
    (failed : conversion.stack = .error (.unknownOperator operator)) :
    ∃ before token after stack, tokens = before ++ token :: after ∧
      grammar.feed [] before = ⟨conversion.events, .ok stack⟩ ∧
      grammar.roleOf token = some .operator ∧ grammar.precedenceOf token = none ∧
      operator = token.value := by
  cases concludes with
  | accepted fed => simp at failed
  | unclosed fed found => simp at failed
  | @stalled before after stack token events later cause split fed stalls =>
      simp only [Except.error.injEq] at failed
      subst failed
      cases stalls with
      | unknown role undecided =>
          exact ⟨before, token, after, stack, split, by simpa using fed, role, undecided, rfl⟩
      | @incomparable released rest _ top _ role decided yielding topRole undecided =>
          have waits := (orderly_of_feed fed).waits top (by simp)
          simp [Waits, topRole, undecided] at waits

/-- The bracket that is left at the end is an opening one. -/
theorem Concludes.exists_unclosed {tokens : List Token} {conversion : Conversion}
    (concludes : grammar.Concludes tokens conversion)
    (failed : conversion.stack = .error .mismatchedBrackets) :
    ∃ earlier bracket, conversion.events = earlier ++ [.popped bracket] ∧
      grammar.roleOf bracket = some .openBracket := by
  cases concludes with
  | accepted fed => simp at failed
  | @unclosed events released below bracket fed found =>
      refine ⟨events ++ Conversion.release released, bracket, by simp, ?_⟩
      rcases (orderly_of_feed fed).waits bracket (by simp) with role | role | ⟨role, _⟩
      · simp [isBracket, role] at found
      · exact role
      · simp [isBracket, role] at found
  | stalled split fed stalls =>
      simp only [Except.error.injEq] at failed
      subst failed
      cases stalls

end Grammar

namespace Converter

/-- The stack is orderly and the output free of brackets, after every run that has not failed and
between any two moves of a conversion. So an operator can always be compared with the one on top of
the stack, and the one that an error names is the one that is read; what is emitted was read as a
value or found on the stack right before; and no closing bracket is ever taken from the stack, at
the end of the input either. -/
theorem attempt_tokens_orderly (converter : Converter) (tokens : List Token) (source : String) :
    let grammar := converter.grammar
    let attempt := converter.attempt (.tokens tokens source)
    (∀ stack, (grammar.feed [] tokens).stack = .ok stack →
        grammar.Orderly stack ∧
          (∀ token ∈ (grammar.feed [] tokens).output, grammar.isKept token = true) ∧
          ∀ rest, rest <:+ stack → grammar.undecided? rest = none) ∧
      (∀ moved, moved <+: attempt.events →
        (∃ stack, Event.replay? [] moved = some stack ∧ grammar.Orderly stack) ∧
          ∀ token ∈ moved.filterMap Event.output?, grammar.isKept token = true) ∧
      (∀ operator, attempt.result = .error (.expression ⟨.unknownOperator operator, source⟩) →
        ∃ before token after stack, tokens = before ++ token :: after ∧
          grammar.feed [] before = ⟨attempt.events, .ok stack⟩ ∧ token ∉ stack ∧
          grammar.roleOf token = some .operator ∧ grammar.precedenceOf token = none ∧
          operator = token.value) ∧
      (∀ before token after, attempt.events = before ++ .emitted token :: after →
        grammar.roleOf token = some .value ∨
          ∃ earlier below, before = earlier ++ [.popped token] ∧
            Event.replay? [] earlier = some (token :: below)) ∧
      (∀ before after, attempt.events = before ++ .poppedNothing :: after → after = []) ∧
      (∀ token, .popped token ∈ attempt.events → grammar.roleOf token ≠ some .closeBracket) ∧
      (attempt.result = .error (.expression ⟨.mismatchedBrackets, source⟩) →
        ∃ earlier bracket, attempt.events = earlier ++ [.popped bracket] ∧
          grammar.roleOf bracket = some .openBracket) := by
  intro grammar attempt
  have keeps : grammar.Keeps [] attempt.events := grammar.keeps_conversion tokens
  have concludes : grammar.Concludes tokens (grammar.conversion tokens) := grammar.concludes tokens
  have failed_of {cause : Cause}
      (failed : attempt.result = .error (.expression ⟨cause, source⟩)) :
      (grammar.conversion tokens).stack = .error cause := by
    rcases result_tokens_eq_error_iff.mp failed with ⟨found, converted, same⟩
    simp only [Failure.expression.injEq, ExpressionError.mk.injEq, and_true] at same
    exact Conversion.rpn_eq_error_iff.mp (same ▸ converted)
  refine ⟨?_, ?_, ?_, ?_, ?_, ?_, ?_⟩
  · intro stack running
    rcases fed : grammar.feed [] tokens with ⟨events, outcome⟩
    simp only [fed] at running
    subst running
    have orderly := Grammar.orderly_of_feed fed
    exact ⟨orderly, (Grammar.keeps_of_feed fed).supplied.isKept,
      fun rest behind => (orderly.suffix behind).undecided?_eq_none⟩
  · intro moved front
    refine ⟨keeps.orderly moved front, fun token token_mem => ?_⟩
    exact keeps.supplied.isKept token ((front.filterMap Event.output?).subset token_mem)
  · intro operator failed
    rcases concludes.exists_undecided (failed_of failed) with
      ⟨before, token, after, stack, split, fed, role, undecided, named⟩
    refine ⟨before, token, after, stack, split, fed, fun token_mem => ?_, role, undecided, named⟩
    have waits := (Grammar.orderly_of_feed fed).waits token token_mem
    simp [Grammar.Waits, role, undecided] at waits
  · intro before token after split
    rcases keeps.supplied before token after split with value | ⟨-, earlier, rfl⟩
    · exact .inl value
    · rw [split, List.append_assoc] at keeps
      rcases keeps.exists_top with ⟨below, replayed, -⟩
      exact .inr ⟨earlier, below, rfl, replayed⟩
  · intro before after split
    exact Grammar.eq_nil_of_events_eq split
  · intro token taken closing
    rcases List.append_of_mem taken with ⟨before, after, split⟩
    rw [split] at keeps
    rcases keeps.exists_top with ⟨below, -, orderly⟩
    have waits := orderly.waits token List.mem_cons_self
    simp [Grammar.Waits, closing] at waits
  · intro failed
    exact concludes.exists_unclosed (failed_of failed)

/-- The stream `max ( 1 + 2 ^ 1 ^ 2 ^ 1 < !`, where `<` releases what it finds above the bracket and
`!` is no known operator: the stack in the middle of that release, and at the failure. -/
theorem attempt_tokens_orderly_released :
    let grammar := Reference.grammar
    let one : Token := ⟨"1", "NUMERIC"⟩
    let two : Token := ⟨"2", "NUMERIC"⟩
    let plus : Token := ⟨"+", "OPERATOR"⟩
    let power : Token := ⟨"^", "OPERATOR"⟩
    let less : Token := ⟨"<", "OPERATOR"⟩
    let max : Token := ⟨"max", "FUNCTION"⟩
    let opening : Token := ⟨"(", "OPEN_BRACKET"⟩
    let before := [max, opening, one, plus, two, power, one, power, two, power, one, less]
    let tokens := before ++ [⟨"!", "OPERATOR"⟩]
    let attempt := (Converter.new grammar none).attempt (.tokens tokens "stream")
    (grammar.feed [] before).stack = .ok [less, opening, max] ∧
      grammar.Orderly [less, opening, max] ∧
      (attempt.events.take 12).getLast? = some (.popped power) ∧
      Event.replay? [] (attempt.events.take 12) = some [power, power, plus, opening, max] ∧
      grammar.Orderly [power, power, plus, opening, max] ∧
      attempt.result = .error (.expression ⟨.unknownOperator "!", "stream"⟩) ∧
      ∃ before token after stack, tokens = before ++ token :: after ∧
        grammar.feed [] before = ⟨attempt.events, .ok stack⟩ ∧ token ∉ stack ∧
        grammar.roleOf token = some .operator ∧ grammar.precedenceOf token = none ∧
        "!" = token.value := by
  intro grammar one two plus power less max opening before tokens attempt
  let converter := Converter.new grammar none
  have running : (grammar.feed [] before).stack = .ok [less, opening, max] := by rfl
  have replayed :
      Event.replay? [] (attempt.events.take 12) = some [power, power, plus, opening, max] := by
    rfl
  have failed : attempt.result = .error (.expression ⟨.unknownOperator "!", "stream"⟩) := by rfl
  have atEnd := attempt_tokens_orderly converter before "stream"
  have orderly := attempt_tokens_orderly converter tokens "stream"
  rcases (orderly.2.1 _ (List.take_prefix 12 attempt.events)).1 with ⟨stack, found, released⟩
  rw [replayed, Option.some.injEq] at found
  exact ⟨running, (atEnd.1 _ running).1, rfl, replayed, found ▸ released, failed,
    orderly.2.2.1 "!" failed⟩

end Converter

end Rpn
