import Rpn.Proofs.Conservation

/-!
# The trace as a replay

The moves of a conversion can be replayed on a stack of their own: a token that is taken away is
the one put there last among those that are still there. `Traces` is this for the moves of a part
of a run, together with what they say of the tokens read in it; it holds of single moves and of one
part after the other, so that it is shown of each step by following the moves in their order.

A run that fails stops in front of a token or inside its moves. `Concludes` lists how a conversion
can end, and in each case its moves are those of a part of the input, save for the one that finds
nothing to take away.

The moves are counted by their kinds. A replay that ends with nothing on the stack takes away as
many tokens as it puts there, and the output is known from the tokens that are kept.
-/

namespace Rpn

theorem countP_or {α : Type} {first second : α → Bool}
    (disjoint : ∀ a, first a = true → second a = false) (list : List α) :
    list.countP (fun a => first a || second a) = list.countP first + list.countP second := by
  induction list with
  | nil => rfl
  | cons a list ih =>
      simp only [List.countP_cons, ih]
      cases here : first a with
      | true =>
          have apart := disjoint a here
          simp [apart]
          omega
      | false =>
          simp
          omega

namespace Event

/-- The token that the move puts on the stack. -/
def pushed? : Event → Option Token
  | .pushed token => some token
  | _ => none

/-- The token that the move takes from the stack. -/
def popped? : Event → Option Token
  | .popped token => some token
  | _ => none

/-- The token that the move passes over. -/
def ignored? : Event → Option Token
  | .ignored token => some token
  | _ => none

/-- The stack after a move, if it allows the move. -/
def move? (stack : List Token) : Event → Option (List Token)
  | .pushed token => some (token :: stack)
  | .popped token => if stack.head? = some token then some stack.tail else none
  | .poppedNothing => if stack = [] then some [] else none
  | .emitted _ => some stack
  | .ignored _ => some stack

/-- The stack after some moves, if each of them is allowed. -/
def replay? (stack : List Token) (events : List Event) : Option (List Token) :=
  events.foldlM move? stack

theorem replay?_append {stack next : List Token} {first : List Event}
    (replayed : replay? stack first = some next) (second : List Event) :
    replay? stack (first ++ second) = replay? next second := by
  simp only [replay?] at replayed
  simp [replay?, replayed]

theorem replay?_cons_eq_some_iff {stack last : List Token} {event : Event}
    {events : List Event} :
    replay? stack (event :: events) = some last ↔
      ∃ next, move? stack event = some next ∧ replay? next events = some last := by
  simp [replay?, Option.bind_eq_some_iff]

/-- What was put on the stack has been taken away or is still there. -/
theorem length_of_replay? {stack last : List Token} {events : List Event}
    (replayed : replay? stack events = some last) :
    stack.length + (events.filterMap pushed?).length =
      last.length + (events.filterMap popped?).length := by
  induction events generalizing stack with
  | nil =>
      simp only [replay?, List.foldlM_nil, pure, Option.some.injEq] at replayed
      simp [replayed]
  | cons event events ih =>
      rcases replay?_cons_eq_some_iff.mp replayed with ⟨next, moved, further⟩
      have rest := ih further
      cases event with
      | pushed token =>
          simp only [move?, Option.some.injEq] at moved
          subst moved
          simp only [List.length_cons] at rest
          simp only [List.filterMap_cons, pushed?, popped?, List.length_cons]
          omega
      | popped token =>
          simp only [move?, Option.ite_none_right_eq_some, Option.some.injEq] at moved
          rcases moved with ⟨top, rfl⟩
          rcases List.head?_eq_some_iff.mp top with ⟨below, rfl⟩
          simp only [List.tail_cons] at rest
          simp only [List.filterMap_cons, pushed?, popped?, List.length_cons]
          omega
      | poppedNothing =>
          simp only [move?, Option.ite_none_right_eq_some, Option.some.injEq] at moved
          rcases moved with ⟨rfl, rfl⟩
          simpa [List.filterMap_cons, pushed?, popped?] using rest
      | emitted token | ignored token =>
          simp only [move?, Option.some.injEq] at moved
          subst moved
          simpa [List.filterMap_cons, pushed?, popped?] using rest

/-- Every move that finds a token to move is of one of four kinds. -/
theorem length_eq_of_proper {events : List Event} (proper : poppedNothing ∉ events) :
    events.length =
      (events.filterMap pushed?).length + (events.filterMap popped?).length +
        (events.filterMap output?).length + (events.filterMap ignored?).length := by
  induction events with
  | nil => rfl
  | cons event events ih =>
      have rest := ih (List.not_mem_of_not_mem_cons proper)
      cases event with
      | poppedNothing => simp at proper
      | pushed token | popped token | emitted token | ignored token =>
          simp only [List.filterMap_cons, pushed?, popped?, output?, ignored?, List.length_cons]
          omega

end Event

namespace Conversion

variable {conversion : Conversion}

theorem rpn_eq_ok_iff {rpn : List Token} :
    conversion.rpn = .ok rpn ↔
      (∃ rest, conversion.stack = .ok rest) ∧ conversion.output = rpn := by
  cases ended : conversion.stack <;> simp [Conversion.rpn, ended, Except.map]

theorem rpn_eq_error_iff {cause : Cause} :
    conversion.rpn = .error cause ↔ conversion.stack = .error cause := by
  cases ended : conversion.stack <;> simp [Conversion.rpn, ended, Except.map]

end Conversion

namespace Grammar

/-- A token that goes on the stack. -/
def isStacked (grammar : Grammar) (token : Token) : Bool :=
  grammar.plays .function token || grammar.plays .operator token ||
    grammar.plays .openBracket token

/-- A function or an operator that is taken from the stack is put to the output at once. -/
def Prompt (grammar : Grammar) (events : List Event) : Prop :=
  ∀ before token after, events = before ++ .popped token :: after →
    grammar.roleOf token = some .function ∨ grammar.roleOf token = some .operator →
      ∃ rest, after = .emitted token :: rest

/-- The moves for the tokens read in a part of a run, between the stacks at its two ends. -/
structure Traces (grammar : Grammar) (stack consumed : List Token) (events : List Event)
    (next : List Token) : Prop where
  replays : Event.replay? stack events = some next
  pushes : events.filterMap Event.pushed? = consumed.filter grammar.isStacked
  ignores : events.filterMap Event.ignored? =
    consumed.filter fun token => !grammar.classifies token
  prompt : grammar.Prompt events
  proper : .poppedNothing ∉ events

variable {grammar : Grammar}

theorem Prompt.append {first second : List Event} (promptFirst : grammar.Prompt first)
    (promptSecond : grammar.Prompt second) : grammar.Prompt (first ++ second) := by
  intro before token after split role
  rcases List.append_eq_append_iff.mp split with ⟨middle, rfl, rfl⟩ | ⟨middle, rfl, cut⟩
  · exact promptSecond middle token after rfl role
  · rcases List.cons_eq_append_iff.mp cut with ⟨rfl, rfl⟩ | ⟨middle, rfl, rfl⟩
    · exact promptSecond [] token after rfl role
    · rcases promptFirst before token middle rfl role with ⟨rest, rfl⟩
      exact ⟨rest ++ second, rfl⟩

theorem prompt_nil : grammar.Prompt [] := by
  intro before token after split
  simp at split

theorem prompt_cons {event : Event} {events : List Event}
    (first : ∀ token, event = .popped token →
      grammar.roleOf token = some .function ∨ grammar.roleOf token = some .operator →
        ∃ rest, events = .emitted token :: rest)
    (later : grammar.Prompt events) : grammar.Prompt (event :: events) := by
  intro before token after split role
  rcases List.cons_eq_append_iff.mp split with ⟨rfl, same⟩ | ⟨middle, rfl, rfl⟩
  · simp only [List.cons.injEq] at same
    rcases same with ⟨same, rfl⟩
    exact first token same.symm role
  · exact later middle token after rfl role

namespace Traces

theorem nil (stack : List Token) : grammar.Traces stack [] [] stack where
  replays := rfl
  pushes := rfl
  ignores := rfl
  prompt := prompt_nil
  proper := List.not_mem_nil

theorem append {stack next last consumed further : List Token} {first second : List Event}
    (before : grammar.Traces stack consumed first next)
    (after : grammar.Traces next further second last) :
    grammar.Traces stack (consumed ++ further) (first ++ second) last where
  replays := by rw [Event.replay?_append before.replays, after.replays]
  pushes := by rw [List.filterMap_append, List.filter_append, before.pushes, after.pushes]
  ignores := by rw [List.filterMap_append, List.filter_append, before.ignores, after.ignores]
  prompt := before.prompt.append after.prompt
  proper := by simp [before.proper, after.proper]

/-- A token that neither goes on the stack nor is passed over leaves no move of its own. -/
theorem read {stack next : List Token} {token : Token} {events : List Event}
    (traces : grammar.Traces stack [] events next)
    (role : grammar.roleOf token = some .value ∨ grammar.roleOf token = some .separator ∨
      grammar.roleOf token = some .closeBracket) :
    grammar.Traces stack [token] events next where
  replays := traces.replays
  pushes := by rcases role with role | role | role <;> simp [traces.pushes, isStacked, role]
  ignores := by rcases role with role | role | role <;> simp [traces.ignores, classifies, role]
  prompt := traces.prompt
  proper := traces.proper

theorem pushed {token : Token} (stack : List Token)
    (role : grammar.roleOf token = some .function ∨ grammar.roleOf token = some .operator ∨
      grammar.roleOf token = some .openBracket) :
    grammar.Traces stack [token] [.pushed token] (token :: stack) where
  replays := rfl
  pushes := by
    have stacked : grammar.isStacked token = true := by
      rcases role with role | role | role <;> simp [isStacked, role]
    simp [stacked, Event.pushed?]
  ignores := by rcases role with role | role | role <;> simp [classifies, role, Event.ignored?]
  prompt := prompt_cons (by simp) prompt_nil
  proper := by simp

theorem emitted (stack : List Token) (token : Token) :
    grammar.Traces stack [] [.emitted token] stack where
  replays := rfl
  pushes := rfl
  ignores := rfl
  prompt := prompt_cons (by simp) prompt_nil
  proper := by simp

theorem ignored {token : Token} (stack : List Token) (role : grammar.roleOf token = none) :
    grammar.Traces stack [token] [.ignored token] stack where
  replays := rfl
  pushes := by simp [isStacked, role, Event.pushed?]
  ignores := by simp [classifies, role, Event.ignored?]
  prompt := prompt_cons (by simp) prompt_nil
  proper := by simp

theorem bracket {bracket : Token} (below : List Token)
    (found : grammar.isBracket bracket = true) :
    grammar.Traces (bracket :: below) [] [.popped bracket] below where
  replays := by simp [Event.replay?, Event.move?]
  pushes := rfl
  ignores := rfl
  prompt := by
    refine prompt_cons ?_ prompt_nil
    intro token same role
    simp only [Event.popped.injEq] at same
    rcases role with role | role <;> simp [isBracket, same, role] at found
  proper := by simp

theorem release (released below : List Token) :
    grammar.Traces (released ++ below) [] (Conversion.release released) below := by
  induction released with
  | nil => exact nil below
  | cons top released ih =>
      have first : grammar.Traces (top :: (released ++ below)) []
          [.popped top, .emitted top] (released ++ below) :=
        { replays := by simp [Event.replay?, Event.move?]
          pushes := rfl
          ignores := rfl
          prompt := prompt_cons (by simp) (prompt_cons (by simp) prompt_nil)
          proper := by simp }
      exact first.append ih

theorem releaseAll (grammar : Grammar) (stack : List Token) :
    grammar.Traces stack [] (Conversion.release stack) [] := by
  have whole : grammar.Traces (stack ++ []) [] (Conversion.release stack) [] := .release stack []
  rwa [List.append_nil] at whole

end Traces

theorem Moves.traces {stack next : List Token} {token : Token} {events : List Event}
    (moves : grammar.Moves stack token events next) :
    grammar.Traces stack [token] events next := by
  cases moves with
  | ignored role => exact .ignored stack role
  | value role => exact (Traces.emitted stack token).read (Or.inl role)
  | function role => exact .pushed stack (Or.inl role)
  | openBracket role => exact .pushed stack (Or.inr (Or.inr role))
  | @operator released rest _ _ role decided yielding staying comparable =>
      exact (Traces.release released rest).append (.pushed rest (Or.inr (Or.inl role)))
  | separator role inside opening => exact (Traces.release _ _).read (Or.inr (Or.inl role))
  | @closeBracket released _ _ bracket role inside opening uncalled =>
      have found : grammar.isBracket bracket = true := by simp [isBracket, opening]
      have closed := (Traces.release released (bracket :: next)).append (.bracket next found)
      exact closed.read (Or.inr (Or.inr role))
  | @call released _ _ bracket function role inside opening called =>
      have found : grammar.isBracket bracket = true := by simp [isBracket, opening]
      have ended := (Traces.bracket (function :: next) found).append (.release [function] next)
      have closed := (Traces.release released (bracket :: function :: next)).append ended
      exact closed.read (Or.inr (Or.inr role))

theorem traces_of_feed {tokens stack : List Token} {events : List Event}
    (fed : grammar.feed [] tokens = ⟨events, .ok stack⟩) :
    grammar.Traces [] tokens events stack := by
  refine feed_induction (motive := grammar.Traces []) (.nil []) ?_ fed
  intro consumed before stack token later next _ traces moves
  exact traces.append moves.traces

/-- How the conversion of some tokens can end. -/
inductive Concludes (grammar : Grammar) (tokens : List Token) : Conversion → Prop where
  | accepted {events : List Event} {stack : List Token}
      (fed : grammar.feed [] tokens = ⟨events, .ok stack⟩) :
      Concludes grammar tokens ⟨events ++ Conversion.release stack, .ok []⟩
  /-- A bracket is left on the stack. -/
  | unclosed {events : List Event} {released below : List Token} {bracket : Token}
      (fed : grammar.feed [] tokens = ⟨events, .ok (released ++ bracket :: below)⟩)
      (found : grammar.isBracket bracket = true) :
      Concludes grammar tokens
        ⟨events ++ (Conversion.release released ++ [.popped bracket]), .error .mismatchedBrackets⟩
  | stalled {before after stack : List Token} {token : Token} {events later : List Event}
      {cause : Cause} (split : tokens = before ++ token :: after)
      (fed : grammar.feed [] before = ⟨events, .ok stack⟩)
      (stalls : grammar.Stalls stack token later cause) :
      Concludes grammar tokens ⟨events ++ later, .error cause⟩

theorem exists_stalls_of_feed {start tokens : List Token} {events : List Event} {cause : Cause}
    (fed : grammar.feed start tokens = ⟨events, .error cause⟩) :
    ∃ before token after prior stack later, tokens = before ++ token :: after ∧
      grammar.feed start before = ⟨prior, .ok stack⟩ ∧
      grammar.Stalls stack token later cause ∧ events = prior ++ later := by
  induction tokens generalizing start events with
  | nil => simp [feed, Conversion.idle] at fed
  | cons token tokens ih =>
      rcases moves_or_stalls grammar start token with
        ⟨first, next, moves⟩ | ⟨first, found, stalls⟩
      · rcases rest : grammar.feed next tokens with ⟨later, outcome⟩
        simp only [feed, step_of_moves moves, Conversion.andThen, rest,
          Conversion.mk.injEq] at fed
        rcases fed with ⟨rfl, rfl⟩
        rcases ih rest with ⟨before, faulty, after, prior, stack, last, rfl, ran, stalls, rfl⟩
        refine ⟨token :: before, faulty, after, first ++ prior, stack, last, rfl, ?_, stalls, ?_⟩
        · exact feed_cons_eq_ok_iff.mpr ⟨first, next, prior, moves, ran, rfl⟩
        · rw [List.append_assoc]
      · simp only [feed, step_of_stalls stalls, Conversion.andThen, Conversion.mk.injEq,
          Except.error.injEq] at fed
        rcases fed with ⟨rfl, rfl⟩
        exact ⟨[], token, tokens, [], start, first, rfl, rfl, stalls, rfl⟩

theorem concludes (grammar : Grammar) (tokens : List Token) :
    grammar.Concludes tokens (grammar.conversion tokens) := by
  rcases fed : grammar.feed [] tokens with ⟨events, cause | stack⟩
  · rcases exists_stalls_of_feed fed with
      ⟨before, token, after, prior, stack, later, split, ran, stalls, rfl⟩
    simpa [conversion, fed, Conversion.andThen] using Concludes.stalled split ran stalls
  · rcases exists_split (fun token => !grammar.isBracket token) stack with
      ⟨released, rest, rfl, passes, stops⟩
    have free : ∀ token ∈ released, grammar.isBracket token = false := by
      simpa using passes
    cases rest with
    | nil =>
        rw [List.append_nil] at fed
        simpa [conversion, fed, Conversion.andThen, drain_of_free free] using Concludes.accepted fed
    | cons bracket below =>
        have found : grammar.isBracket bracket = true := by simpa using stops
        simpa [conversion, fed, Conversion.andThen, drain_of_bracket free found] using
          Concludes.unclosed fed found

/-- Only a closing bracket that finds no opening one makes a move that takes nothing away. -/
theorem Stalls.exists_traces {stack : List Token} {token : Token} {events : List Event}
    {cause : Cause} (stalls : grammar.Stalls stack token events cause) :
    ∃ moved next, grammar.Traces stack [] moved next ∧
      (events = moved ∧ cause ≠ .unmatchedBracket ∨
        events = moved ++ [.poppedNothing] ∧ next = [] ∧ cause = .unmatchedBracket) := by
  cases stalls with
  | unknown role undecided => exact ⟨_, _, .nil stack, Or.inl ⟨rfl, by simp⟩⟩
  | incomparable role decided yielding topRole undecided =>
      exact ⟨_, _, .release _ _, Or.inl ⟨rfl, by simp⟩⟩
  | separator role inside => exact ⟨_, _, .releaseAll grammar stack, Or.inl ⟨rfl, by simp⟩⟩
  | closeBracket role inside =>
      exact ⟨_, _, .releaseAll grammar stack, Or.inr ⟨rfl, rfl, rfl⟩⟩

theorem Concludes.traces_of_ok {tokens rest : List Token} {conversion : Conversion}
    (concludes : grammar.Concludes tokens conversion) (ended : conversion.stack = .ok rest) :
    grammar.Traces [] tokens conversion.events [] := by
  cases concludes with
  | @accepted events stack fed =>
      simpa using (traces_of_feed fed).append (.releaseAll grammar stack)
  | unclosed fed found => simp at ended
  | stalled split fed stalls => simp at ended

/-- The moves of a conversion, up to one that finds nothing to take away, are those for the tokens
in front of its end. -/
theorem Concludes.exists_traces {tokens : List Token} {conversion : Conversion}
    (concludes : grammar.Concludes tokens conversion) :
    ∃ consumed moved next, consumed <+: tokens ∧ grammar.Traces [] consumed moved next ∧
      (conversion.events = moved ∧ conversion.stack ≠ .error .unmatchedBracket ∨
        conversion.events = moved ++ [.poppedNothing] ∧ next = [] ∧
          conversion.stack = .error .unmatchedBracket) := by
  cases concludes with
  | accepted fed =>
      exact ⟨tokens, _, [], List.prefix_refl tokens, (Concludes.accepted fed).traces_of_ok rfl,
        Or.inl ⟨rfl, by simp⟩⟩
  | @unclosed events released below bracket fed found =>
      have last := (Traces.release released (bracket :: below)).append (.bracket below found)
      have traces := (traces_of_feed fed).append last
      rw [List.append_nil, List.append_nil] at traces
      exact ⟨tokens, _, below, List.prefix_refl tokens, traces, Or.inl ⟨rfl, by simp⟩⟩
  | @stalled before after stack token events later cause split fed stalls =>
      have read : before <+: tokens := ⟨token :: after, split.symm⟩
      rcases stalls.exists_traces with ⟨moved, next, last, ending⟩
      have traces := (traces_of_feed fed).append last
      rw [List.append_nil] at traces
      refine ⟨before, events ++ moved, next, read, traces, ?_⟩
      rcases ending with ⟨rfl, other⟩ | ⟨rfl, rfl, rfl⟩
      · exact Or.inl ⟨rfl, by simpa using other⟩
      · exact Or.inr ⟨(List.append_assoc _ _ _).symm, rfl, rfl⟩

theorem exists_replay (grammar : Grammar) (tokens : List Token) :
    ∃ stack, Event.replay? [] (grammar.conversion tokens).events = some stack := by
  rcases (concludes grammar tokens).exists_traces with
    ⟨consumed, moved, next, -, traces, ⟨same, -⟩ | ⟨same, rfl, -⟩⟩
  · exact ⟨next, by rw [same, traces.replays]⟩
  · exact ⟨[], by rw [same, Event.replay?_append traces.replays]; rfl⟩

theorem pushes_front (grammar : Grammar) (tokens : List Token) :
    (grammar.conversion tokens).events.filterMap Event.pushed? <+:
      tokens.filter grammar.isStacked := by
  rcases (concludes grammar tokens).exists_traces with
    ⟨consumed, moved, next, read, traces, ⟨same, -⟩ | ⟨same, -, -⟩⟩
  · rw [same, traces.pushes]
    exact read.filter _
  · have unpushed : [Event.poppedNothing].filterMap Event.pushed? = [] := rfl
    rw [same, List.filterMap_append, unpushed, List.append_nil, traces.pushes]
    exact read.filter _

theorem prompt_conversion (grammar : Grammar) (tokens : List Token) :
    grammar.Prompt (grammar.conversion tokens).events := by
  rcases (concludes grammar tokens).exists_traces with
    ⟨consumed, moved, next, -, traces, ⟨same, -⟩ | ⟨same, -, -⟩⟩
  · rw [same]
    exact traces.prompt
  · rw [same]
    exact traces.prompt.append (prompt_cons (by simp) prompt_nil)

theorem poppedNothing_mem_iff {tokens : List Token} :
    .poppedNothing ∈ (grammar.conversion tokens).events ↔
      (grammar.conversion tokens).rpn = .error .unmatchedBracket := by
  rw [Conversion.rpn_eq_error_iff]
  rcases (concludes grammar tokens).exists_traces with
    ⟨consumed, moved, next, -, traces, ⟨same, other⟩ | ⟨same, -, unmatched⟩⟩
  · simp [same, other, traces.proper]
  · simp [same, unmatched]

theorem eq_nil_of_events_eq {tokens : List Token} {before after : List Event}
    (split : (grammar.conversion tokens).events = before ++ .poppedNothing :: after) :
    after = [] := by
  rcases (concludes grammar tokens).exists_traces with
    ⟨consumed, moved, next, -, traces, ⟨same, -⟩ | ⟨same, -, -⟩⟩
  · have proper := traces.proper
    simp [← same, split] at proper
  · rcases List.eq_nil_or_concat after with rfl | ⟨further, last, rfl⟩
    · rfl
    · -- The move would come before the last one, where every move finds something to move.
      have cut : moved ++ [.poppedNothing] = (before ++ .poppedNothing :: further) ++ [last] := by
        rw [← same, split]
        simp
      have proper := traces.proper
      rw [(List.append_inj' cut rfl).1] at proper
      simp at proper

theorem countP_roles (grammar : Grammar) {first second third : Role} (tokens : List Token)
    (apart : first ≠ second) (apartFirst : first ≠ third) (apartSecond : second ≠ third) :
    tokens.countP (fun token => grammar.plays first token || grammar.plays second token ||
        grammar.plays third token) =
      tokens.countP (grammar.plays first) + tokens.countP (grammar.plays second) +
        tokens.countP (grammar.plays third) := by
  rw [countP_or, countP_or]
  · intro token role
    simpa [plays_iff.mp role] using apart
  · intro token role
    rcases Bool.or_eq_true_iff.mp role with role | role
    · simpa [plays_iff.mp role] using apartFirst
    · simpa [plays_iff.mp role] using apartSecond

theorem countP_isStacked (grammar : Grammar) (tokens : List Token) :
    tokens.countP grammar.isStacked = tokens.countP (grammar.plays .function) +
      tokens.countP (grammar.plays .operator) + tokens.countP (grammar.plays .openBracket) :=
  grammar.countP_roles tokens nofun nofun nofun

theorem countP_isKept (grammar : Grammar) (tokens : List Token) :
    tokens.countP grammar.isKept = tokens.countP (grammar.plays .value) +
      tokens.countP (grammar.plays .function) + tokens.countP (grammar.plays .operator) :=
  grammar.countP_roles tokens nofun nofun nofun

theorem length_events_of_rpn {tokens rpn : List Token}
    (converted : (grammar.conversion tokens).rpn = .ok rpn) :
    (grammar.conversion tokens).events.length =
      tokens.countP (grammar.plays .value) +
        tokens.countP (fun token => !grammar.classifies token) +
        2 * tokens.countP (grammar.plays .openBracket) +
        3 * tokens.countP (grammar.plays .function) +
        3 * tokens.countP (grammar.plays .operator) := by
  rcases Conversion.rpn_eq_ok_iff.mp converted with ⟨⟨rest, ended⟩, output⟩
  have traces := (concludes grammar tokens).traces_of_ok ended
  have balanced := Event.length_of_replay? traces.replays
  have kinds := Event.length_eq_of_proper traces.proper
  have kept := (perm_of_rpn converted).length_eq
  rw [← output, Conversion.output, ← List.countP_eq_length_filter, countP_isKept] at kept
  rw [traces.pushes, ← List.countP_eq_length_filter, countP_isStacked] at balanced kinds
  rw [traces.ignores, ← List.countP_eq_length_filter] at kinds
  simp only [List.length_nil] at balanced
  omega

/-- A closing bracket without an opening one is the first fault just if the conversion fails for
it. -/
theorem rpn_eq_unmatchedBracket_iff {tokens : List Token} :
    (grammar.conversion tokens).rpn = .error .unmatchedBracket ↔
      ∃ before closing after, tokens = before ++ closing :: after ∧ grammar.Faultless before ∧
        grammar.roleOf closing = some .closeBracket ∧ grammar.depth before = 0 := by
  constructor
  · intro failed
    have faulty : ¬grammar.Faultless tokens := by
      intro faultless
      by_cases positive : 0 < grammar.depth tokens
      · simp [(rpn_of_faultless faultless).1 positive] at failed
      · rcases (rpn_of_faultless faultless).2 (by omega) with ⟨rpn, converted⟩
        simp [converted] at failed
    rcases exists_first_fault faulty with ⟨before, closing, after, cause, rfl, sound, fault⟩
    rw [rpn_of_first_fault after sound fault, Except.error.injEq] at failed
    subst failed
    refine ⟨before, closing, after, rfl, sound, ?_⟩
    unfold fault? at fault
    split at fault <;> simp_all
  · rintro ⟨before, closing, after, rfl, sound, role, level⟩
    exact rpn_of_first_fault after sound (by simp [fault?, role, level])

end Grammar

/-- The messages that tell of an attempt. -/
def Attempt.trace (attempt : Attempt) : List String :=
  attempt.events.map Event.describe

namespace Converter

/-- The messages of a conversion tell moves that can be replayed. What goes on the stack are the
functions, operators and opening brackets in the order of the input; functions and operators leave
it for the output at once; and only the last move can find the stack empty, just if a closing
bracket has no opening one. If the conversion succeeds, the moves give its output, leave nothing on
the stack, and are as many as the tokens of each kind make them. -/
theorem attempt_tokens_replays (converter : Converter) (tokens : List Token) (source : String) :
    let grammar := converter.grammar
    let attempt := converter.attempt (.tokens tokens source)
    ∃ events : List Event, attempt.trace = events.map Event.describe ∧
      (∃ stack, Event.replay? [] events = some stack) ∧
      events.filterMap Event.pushed? <+: tokens.filter grammar.isStacked ∧
      grammar.Prompt events ∧
      (∀ before after, events = before ++ .poppedNothing :: after → after = []) ∧
      (.poppedNothing ∈ events ↔
        attempt.result = .error (.expression ⟨.unmatchedBracket, source⟩)) ∧
      (.poppedNothing ∈ events ↔
        ∃ before closing after, tokens = before ++ closing :: after ∧
          grammar.Faultless before ∧ grammar.roleOf closing = some .closeBracket ∧
          grammar.depth before = 0) ∧
      ∀ rpn, attempt.result = .ok rpn →
        events.filterMap Event.output? = rpn ∧
          events.filterMap Event.pushed? = tokens.filter grammar.isStacked ∧
          Event.replay? [] events = some [] ∧
          attempt.trace.length =
            tokens.countP (grammar.plays .value) +
              tokens.countP (fun token => !grammar.classifies token) +
              2 * tokens.countP (grammar.plays .openBracket) +
              3 * tokens.countP (grammar.plays .function) +
              3 * tokens.countP (grammar.plays .operator) := by
  intro grammar attempt
  have failed_iff : attempt.result = .error (.expression ⟨.unmatchedBracket, source⟩) ↔
      (grammar.conversion tokens).rpn = .error .unmatchedBracket := by
    simp [attempt, grammar, result_tokens_eq_error_iff]
  refine ⟨(grammar.conversion tokens).events, rfl, grammar.exists_replay tokens,
    grammar.pushes_front tokens, grammar.prompt_conversion tokens, ?_, ?_, ?_, ?_⟩
  · intro before after split
    exact Grammar.eq_nil_of_events_eq split
  · rw [failed_iff]
    exact Grammar.poppedNothing_mem_iff
  · rw [Grammar.poppedNothing_mem_iff]
    exact Grammar.rpn_eq_unmatchedBracket_iff
  · intro rpn succeeded
    have converted := result_tokens_eq_ok_iff.mp succeeded
    rcases Conversion.rpn_eq_ok_iff.mp converted with ⟨⟨rest, ended⟩, output⟩
    have traces := (grammar.concludes tokens).traces_of_ok ended
    refine ⟨output, traces.pushes, traces.replays, ?_⟩
    rw [Attempt.trace, List.length_map]
    exact Grammar.length_events_of_rpn converted

end Converter

end Rpn
