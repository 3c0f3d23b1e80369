import Rpn.Pattern

/-!
# What an expression reads

A search only ever moves forward in the text that it stands in, over characters that the expression
admits; what is asked for afterwards is asked at the place behind them. This is the counterpart of
`Takes`: it says nothing of which match is preferred, but it holds of every expression and at every
place. `Pattern.match?_spans` is what follows for the matches of a pattern.

`Regex.Admits` is an upper bound. Conditions on the place, kept texts and greatest numbers of rounds
may rule out further characters.
-/

namespace Rpn

namespace Cursor

/-- These characters stand between the two places of a text. -/
def Spans (first : Cursor) (chars : List Char) (last : Cursor) : Prop :=
  first.after = chars ++ last.after ∧ last.before = chars.reverse ++ first.before

variable {first middle last : Cursor} {chars others : List Char}

theorem Spans.refl (cursor : Cursor) : cursor.Spans [] cursor :=
  ⟨rfl, rfl⟩

theorem Spans.trans (front : first.Spans chars middle) (back : middle.Spans others last) :
    first.Spans (chars ++ others) last := by
  rcases front with ⟨frontAfter, frontBefore⟩
  rcases back with ⟨backAfter, backBefore⟩
  constructor
  · rw [frontAfter, backAfter, List.append_assoc]
  · rw [backBefore, frontBefore, List.reverse_append, List.append_assoc]

theorem Spans.text_eq (spans : first.Spans chars last) : last.text = first.text := by
  rcases spans with ⟨after_eq, before_eq⟩
  simp [text, after_eq, before_eq]

theorem Spans.position_eq (spans : first.Spans chars last) :
    last.position = first.position + chars.length := by
  simp [position, spans.2, Nat.add_comm]

theorem Spans.textUntil_eq (spans : first.Spans chars last) : first.textUntil last = chars := by
  simp [textUntil, spans.1]

theorem Spans.isBefore_iff (spans : first.Spans chars last) :
    first.isBefore last = true ↔ chars ≠ [] := by
  rw [isBefore, spans.1, decide_eq_true_eq, List.length_append, ← List.length_pos_iff]
  omega

theorem spans_of_next? {c : Char} (step : first.next? = some (c, last)) :
    first.Spans [c] last := by
  rcases first with ⟨before, after⟩
  cases after with
  | nil => simp [next?] at step
  | cons d after =>
      simp only [next?, Option.some.injEq, Prod.mk.injEq] at step
      rcases step with ⟨rfl, rfl⟩
      exact ⟨rfl, rfl⟩

theorem exists_spans_of_skip? {same : Char → Char → Bool} {kept : List Char}
    (skipped : first.skip? same kept = some last) : ∃ chars, first.Spans chars last := by
  induction kept generalizing first with
  | nil =>
      simp only [skip?, Option.some.injEq] at skipped
      subst last
      exact ⟨[], .refl first⟩
  | cons expected kept ih =>
      simp only [skip?] at skipped
      split at skipped
      · rename_i c moved step
        rw [Option.ite_none_right_eq_some] at skipped
        rcases ih skipped.2 with ⟨chars, spans⟩
        exact ⟨[c] ++ chars, (spans_of_next? step).trans spans⟩
      · contradiction

end Cursor

/-- Some pieces, at least as many as asked for, one after the other. -/
def Pieces (admits : List Char → Prop) (low : Nat) (chars : List Char) : Prop :=
  ∃ pieces : List (List Char), low ≤ pieces.length ∧ (∀ piece ∈ pieces, admits piece) ∧
    chars = pieces.flatten

namespace Pieces

variable {admits : List Char → Prop} {low more : Nat} {chars others : List Char}

theorem nil : Pieces admits 0 [] :=
  ⟨[], by simp⟩

theorem cons (piece : admits chars) (rest : Pieces admits low others) :
    Pieces admits (low + 1) (chars ++ others) := by
  rcases rest with ⟨pieces, enough, each, rfl⟩
  exact ⟨chars :: pieces, by simpa using enough, List.forall_mem_cons.mpr ⟨piece, each⟩, rfl⟩

theorem append (front : Pieces admits low chars) (back : Pieces admits more others) :
    Pieces admits (low + more) (chars ++ others) := by
  rcases front with ⟨pieces, enough, each, rfl⟩
  rcases back with ⟨later, enoughLater, eachLater, rfl⟩
  refine ⟨pieces ++ later, ?_, List.forall_mem_append.mpr ⟨each, eachLater⟩, by simp⟩
  rw [List.length_append]
  omega

theorem weaken (pieces : Pieces admits low chars) : Pieces admits 0 chars := by
  rcases pieces with ⟨pieces, -, each, rfl⟩
  exact ⟨pieces, Nat.zero_le _, each, rfl⟩

end Pieces

namespace Search

/-- Whatever the search finds is found from a place that lies behind characters of this kind. -/
def Reads (search : Search) (admits : List Char → Prop) : Prop :=
  ∀ progress goal found, search progress goal = some found →
    ∃ chars moved, progress.cursor.Spans chars moved.cursor ∧ admits chars ∧
      goal moved = some found

variable {body : Search} {admits : List Char → Prop}

theorem reads_rounds (reads : body.Reads admits) (count : Nat) :
    Reads (rounds body count) (Pieces admits count) := by
  induction count with
  | zero => exact fun progress goal found reached => ⟨[], progress, .refl _, .nil, reached⟩
  | succ count ih =>
      intro progress goal found reached
      rcases reads _ _ _ reached with ⟨piece, moved, spans, admitted, reached⟩
      rcases ih _ _ _ reached with ⟨chars, last, spansLater, pieces, reached⟩
      exact ⟨_, last, spans.trans spansLater, .cons admitted pieces, reached⟩

theorem reads_another (reads : body.Reads admits) {more : Search}
    (readsMore : more.Reads (Pieces admits 0)) {progress found : Progress} {goal : Goal}
    (reached : (body progress fun moved =>
      if progress.hasMoved moved then more moved goal else goal moved) = some found) :
    ∃ chars moved, progress.cursor.Spans chars moved.cursor ∧ Pieces admits 0 chars ∧
      goal moved = some found := by
  rcases reads _ _ _ reached with ⟨piece, moved, spans, admitted, reached⟩
  split at reached
  · rcases readsMore _ _ _ reached with ⟨chars, last, spansLater, pieces, reached⟩
    exact ⟨_, last, spans.trans spansLater, (Pieces.cons admitted pieces).weaken, reached⟩
  · refine ⟨piece, moved, spans, ?_, reached⟩
    simpa using (Pieces.cons admitted .nil).weaken

theorem reads_greedy (reads : body.Reads admits) (count : Nat) :
    Reads (greedy body count) (Pieces admits 0) := by
  induction count with
  | zero => exact fun progress goal found reached => ⟨[], progress, .refl _, .nil, reached⟩
  | succ count ih =>
      intro progress goal found reached
      simp only [greedy] at reached
      split at reached
      · rename_i another
        rw [reached] at another
        exact reads_another reads ih another
      · exact ⟨[], progress, .refl _, .nil, reached⟩

theorem reads_reluctant (reads : body.Reads admits) (count : Nat) :
    Reads (reluctant body count) (Pieces admits 0) := by
  induction count with
  | zero => exact fun progress goal found reached => ⟨[], progress, .refl _, .nil, reached⟩
  | succ count ih =>
      intro progress goal found reached
      simp only [reluctant] at reached
      split at reached
      · rename_i enough
        rw [reached] at enough
        exact ⟨[], progress, .refl _, .nil, enough⟩
      · exact reads_another reads ih reached

/-- A search whose first success is final. -/
theorem Reads.final (reads : body.Reads admits) {progress moved : Progress}
    (found : body progress some = some moved) :
    ∃ chars, progress.cursor.Spans chars moved.cursor ∧ admits chars := by
  rcases reads _ _ _ found with ⟨chars, last, spans, admitted, reached⟩
  rw [Option.some.injEq] at reached
  exact ⟨chars, reached ▸ spans, admitted⟩

theorem spans_of_finalRounds (reads : body.Reads admits) {count : Nat}
    {progress last : Progress} (found : finalRounds body count progress = some last) :
    ∃ chars, progress.cursor.Spans chars last.cursor ∧ Pieces admits count chars := by
  induction count generalizing progress with
  | zero =>
      simp only [finalRounds, Option.some.injEq] at found
      subst last
      exact ⟨[], .refl _, .nil⟩
  | succ count ih =>
      rcases Option.bind_eq_some_iff.mp found with ⟨moved, first, rest⟩
      rcases reads.final first with ⟨piece, spans, admitted⟩
      rcases ih rest with ⟨chars, spansLater, pieces⟩
      exact ⟨_, spans.trans spansLater, .cons admitted pieces⟩

theorem spans_exhaust (reads : body.Reads admits) (count : Nat) (progress : Progress) :
    ∃ chars, progress.cursor.Spans chars (exhaust body count progress).cursor ∧
      Pieces admits 0 chars := by
  induction count generalizing progress with
  | zero => exact ⟨[], .refl _, .nil⟩
  | succ count ih =>
      simp only [exhaust]
      split
      · exact ⟨[], .refl _, .nil⟩
      · rename_i moved found
        rcases reads.final found with ⟨piece, spans, admitted⟩
        split
        · rcases ih moved with ⟨chars, spansLater, pieces⟩
          exact ⟨_, spans.trans spansLater, (Pieces.cons admitted pieces).weaken⟩
        · refine ⟨piece, spans, ?_⟩
          simpa using (Pieces.cons admitted .nil).weaken

theorem reads_repeated (reads : body.Reads admits) (low : Nat) (high : Option Nat)
    (greed : Greed) : Reads (repeated body low high greed) (Pieces admits low) := by
  intro progress goal found reached
  cases greed with
  | greedy =>
      rcases reads_rounds reads low _ _ _ reached with ⟨front, moved, spans, pieces, reached⟩
      rcases reads_greedy reads _ _ _ _ reached with ⟨back, last, spansLater, more, reached⟩
      exact ⟨_, last, spans.trans spansLater, pieces.append more, reached⟩
  | reluctant =>
      rcases reads_rounds reads low _ _ _ reached with ⟨front, moved, spans, pieces, reached⟩
      rcases reads_reluctant reads _ _ _ _ reached with ⟨back, last, spansLater, more, reached⟩
      exact ⟨_, last, spans.trans spansLater, pieces.append more, reached⟩
  | possessive =>
      rcases Option.bind_eq_some_iff.mp reached with ⟨moved, rounds, reached⟩
      rcases spans_of_finalRounds reads rounds with ⟨front, spans, pieces⟩
      rcases spans_exhaust reads (moved.roundsLeft low high) moved with ⟨back, spansLater, more⟩
      exact ⟨_, _, spans.trans spansLater, pieces.append more, reached⟩

end Search

namespace Regex

/-- The characters that an expression may read, whatever stands around them. -/
def Admits : Regex → List Char → Prop
  | .empty, chars => chars = []
  | .one set, chars => ∃ c, set.accepts c = true ∧ chars = [c]
  | .anchor _, chars => chars = []
  | .sequence first second, chars =>
      ∃ front back, first.Admits front ∧ second.Admits back ∧ chars = front ++ back
  | .choice first second, chars => first.Admits chars ∨ second.Admits chars
  | .repetition body low _ _, chars => Pieces body.Admits low chars
  | .capture _ body, chars => body.Admits chars
  | .atomic body, chars => body.Admits chars
  | .backreference _ _, _ => True
  | .ahead _ _, chars => chars = []
  | .behind _ _ _, chars => chars = []

/-- A search finds nothing but what its expression admits. -/
theorem reads (regex : Regex) : Search.Reads regex.search regex.Admits := by
  induction regex with
  | empty => exact fun progress goal found reached => ⟨[], progress, .refl _, rfl, reached⟩
  | one set =>
      intro progress goal found reached
      simp only [search] at reached
      split at reached
      · rename_i c cursor step
        rw [Option.ite_none_right_eq_some] at reached
        exact ⟨[c], _, Cursor.spans_of_next? step, ⟨c, reached.1, rfl⟩, reached.2⟩
      · contradiction
  | anchor place =>
      intro progress goal found reached
      simp only [search, Option.ite_none_right_eq_some] at reached
      exact ⟨[], progress, .refl _, rfl, reached.2⟩
  | sequence first second ihFirst ihSecond =>
      intro progress goal found reached
      rcases ihFirst _ _ _ reached with ⟨front, moved, spans, admitted, reached⟩
      rcases ihSecond _ _ _ reached with ⟨back, last, spansLater, admittedLater, reached⟩
      exact ⟨_, last, spans.trans spansLater, ⟨front, back, admitted, admittedLater, rfl⟩, reached⟩
  | choice first second ihFirst ihSecond =>
      intro progress goal found reached
      simp only [search] at reached
      split at reached
      · rename_i taken
        rw [reached] at taken
        rcases ihFirst _ _ _ taken with ⟨chars, moved, spans, admitted, reached⟩
        exact ⟨chars, moved, spans, .inl admitted, reached⟩
      · rcases ihSecond _ _ _ reached with ⟨chars, moved, spans, admitted, reached⟩
        exact ⟨chars, moved, spans, .inr admitted, reached⟩
  | repetition body low high greed ih =>
      exact fun progress goal found reached =>
        Search.reads_repeated ih low high greed progress goal found reached
  | capture index body ih =>
      intro progress goal found reached
      rcases ih _ _ _ reached with ⟨chars, moved, spans, admitted, reached⟩
      exact ⟨chars, progress.keep index moved, spans, admitted, reached⟩
  | atomic body ih =>
      intro progress goal found reached
      rcases Option.bind_eq_some_iff.mp reached with ⟨moved, taken, reached⟩
      rcases Search.Reads.final ih taken with ⟨chars, spans, admitted⟩
      exact ⟨chars, moved, spans, admitted, reached⟩
  | backreference index caseless =>
      intro progress goal found reached
      simp only [search] at reached
      split at reached
      · contradiction
      · split at reached
        · rename_i cursor skipped
          rcases Cursor.exists_spans_of_skip? skipped with ⟨chars, spans⟩
          exact ⟨chars, _, spans, trivial, reached⟩
        · contradiction
  | ahead positive body ih =>
      intro progress goal found reached
      simp only [search] at reached
      split at reached
      · rename_i seen _
        exact ⟨[], { progress with groups := seen.groups }, .refl _, rfl, reached⟩
      · exact ⟨[], progress, .refl _, rfl, reached⟩
      · contradiction
  | behind width positive body ih =>
      intro progress goal found reached
      simp only [search] at reached
      split at reached
      · rename_i seen _
        exact ⟨[], { progress with groups := seen.groups }, .refl _, rfl, reached⟩
      · exact ⟨[], progress, .refl _, rfl, reached⟩
      · contradiction

end Regex

/-- A match starts at the place where it was looked for and ends behind characters that the
pattern admits, in the same text. -/
theorem Pattern.match?_spans {pattern : Pattern} {cursor : Cursor} {found : Match}
    (matched : pattern.match? cursor = some found) :
    found.first = cursor ∧ ∃ chars, cursor.Spans chars found.last ∧ pattern.regex.Admits chars := by
  rcases Option.map_eq_some_iff.mp matched with ⟨moved, searched, rfl⟩
  exact ⟨rfl, Search.Reads.final pattern.regex.reads searched⟩

end Rpn
