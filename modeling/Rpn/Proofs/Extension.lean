import Rpn.Proofs.Segmentation

/-!
# Rules behind other rules

Rules that stand behind others are asked only where none of the others matches. So a scan with more
rules goes over the same segments as the scan without them, as far as that one comes, and it goes
further only if that one stops because no rule matches. The rules may overlap, look around them or
match nothing, and their transforms may fail.

Every scan goes over some segments that are not at fault (`Lexer.Passes`) and stops behind them in
one of three ways (`Lexer.Stops`). Only one of these ways depends on what rules do not match.
-/

namespace Rpn

theorem Scan.result_eq_error_iff {scan : Scan} {fault : ScanFault} :
    scan.result = .error fault ↔ scan.fault = some fault := by
  rcases scan with ⟨tokens, _ | _⟩ <;> simp [result]

namespace Lexer

/-- Segments that a scan goes over, from one position up to another: each is selected where the one
before it ends, and none is at fault. -/
structure Passes (rules : Lexer) (text : List Char) (place : Nat) (segments : List Segment)
    (last : Nat) : Prop where
  tiles : rules.Tiles text place segments last
  answered : ∀ segment ∈ segments, segment.Answered

/-- The ways in which a scan stops at a position, each with its fault. -/
inductive Stops (rules : Lexer) (text : List Char) (place : Nat) : Option ScanFault → Prop where
  | ended (ended : place = text.length) : Stops rules text place none
  | unselected (inside : place < text.length)
      (unselected : ∀ segment, segment.first = place → ¬ rules.Selects text segment) :
      Stops rules text place (some (.noRule place))
  | failed {segment : Segment} {fault : TransformFault} (starts : segment.first = place)
      (selected : rules.Selects text segment)
      (failed : segment.rule.apply segment.found = .failed fault) :
      Stops rules text place (some (.transform fault))

variable {rules : Lexer} {text : List Char} {place last : Nat} {segments : List Segment}
  {fault : Option ScanFault}

theorem Stops.scanFrom_eq (stops : rules.Stops text place fault) :
    rules.scanFrom (.ofPosition text place) = ⟨[], fault⟩ := by
  cases stops with
  | ended ended =>
      subst ended
      exact scanFrom_of_ended rules text
  | unselected inside unselected => exact scanFrom_of_unselected inside unselected
  | failed starts selected failed =>
      subst starts
      rw [selected.scanFrom_apply, failed]

theorem Passes.scanFrom_eq (passes : rules.Passes text place segments last) :
    rules.scanFrom (.ofPosition text place) =
      ⟨segments.filterMap (Segment.token? text) ++
          (rules.scanFrom (.ofPosition text last)).tokens,
        (rules.scanFrom (.ofPosition text last)).fault⟩ :=
  scanFrom_of_tiles passes.tiles passes.answered

theorem Passes.scanFrom_of_stops (passes : rules.Passes text place segments last)
    (stops : rules.Stops text last fault) :
    rules.scanFrom (.ofPosition text place) =
      ⟨segments.filterMap (Segment.token? text), fault⟩ := by
  rw [passes.scanFrom_eq, stops.scanFrom_eq, List.append_nil]

/-- A scan passes over segments until it stops. -/
theorem exists_passes (rules : Lexer) (within : place ≤ text.length) :
    ∃ segments last fault, rules.Passes text place segments last ∧
      rules.Stops text last fault := by
  -- Each segment leaves less of the text.
  induction missing : text.length - place using Nat.strongRecOn generalizing place with
  | _ missing ih =>
      subst missing
      by_cases ended : place = text.length
      · exact ⟨[], place, none, ⟨.nothing place, by simp⟩, .ended ended⟩
      by_cases stuck : ∀ segment, segment.first = place → ¬ rules.Selects text segment
      · exact ⟨[], place, _, ⟨.nothing place, by simp⟩, .unselected (by omega) stuck⟩
      push Not at stuck
      rcases stuck with ⟨segment, rfl, selected⟩
      by_cases answered : segment.Answered
      · have longer := selected.first_lt_last
        have within' := selected.last_le_length
        rcases ih (text.length - segment.last) (by omega) within' rfl with
          ⟨segments, last, fault, passes, stops⟩
        refine ⟨segment :: segments, last, fault, ⟨.more rfl selected passes.tiles, ?_⟩, stops⟩
        exact List.forall_mem_cons.mpr ⟨answered, passes.answered⟩
      · unfold Segment.Answered at answered
        push Not at answered
        rcases answered with ⟨fault, failed⟩
        exact ⟨[], segment.first, _, ⟨.nothing _, by simp⟩, .failed rfl selected failed⟩

/-- No segment is selected at a position just if no rule matches there. -/
theorem unselected_iff (within : place ≤ text.length) :
    (∀ segment, segment.first = place → ¬ rules.Selects text segment) ↔
      ∀ rule ∈ rules, ∀ found, ¬ rule.Matches text place found := by
  rw [← firstMatch?_eq_none_iff within, firstMatch?, List.findSome?_eq_none_iff]
  simp [Rule.match?_eq_none_iff within]

section Append

variable (more : Lexer)

theorem Selects.append {segment : Segment} (selected : rules.Selects text segment) :
    (rules ++ more).Selects text segment := by
  rcases selected with ⟨earlier, later, rfl, matched, unmatched⟩
  exact ⟨earlier, later ++ more, by simp, matched, unmatched⟩

theorem Tiles.append (tiles : rules.Tiles text place segments last) :
    (rules ++ more).Tiles text place segments last := by
  induction tiles with
  | nothing place => exact .nothing place
  | more starts selected rest ih => exact .more starts (selected.append more) ih

theorem Passes.append (passes : rules.Passes text place segments last) :
    (rules ++ more).Passes text place segments last where
  tiles := passes.tiles.append more
  answered := passes.answered

/-- Further rules can put off a stop only where no rule matches. -/
theorem Stops.append (stops : rules.Stops text place fault)
    (unmatched : fault = some (.noRule place) →
      ∀ rule ∈ more, ∀ found, ¬ rule.Matches text place found) :
    (rules ++ more).Stops text place fault := by
  cases stops with
  | ended ended => exact .ended ended
  | unselected inside unselected =>
      have within := Nat.le_of_lt inside
      refine .unselected inside ((unselected_iff within).mpr ?_)
      exact List.forall_mem_append.mpr ⟨(unselected_iff within).mp unselected, unmatched rfl⟩
  | failed starts selected failed => exact .failed starts (selected.append more) failed

end Append

theorem Stops.unmatched (stops : rules.Stops text place (some (.noRule last))) :
    last = place ∧ ∀ rule ∈ rules, ∀ found, ¬ rule.Matches text place found := by
  cases stops with
  | unselected inside unselected =>
      exact ⟨rfl, (unselected_iff (Nat.le_of_lt inside)).mp unselected⟩

/-- A scan that stops because no rule matches does so behind all the segments that it passes. -/
theorem Passes.stops_further (passes : rules.Passes text place segments last)
    (within : last ≤ text.length) {further : Nat}
    (stuck : (rules.scanFrom (.ofPosition text place)).fault = some (.noRule further)) :
    last ≤ further ∧ rules.Stops text further (some (.noRule further)) := by
  rcases exists_passes rules within with ⟨others, stop, fault, passesOn, stops⟩
  rw [passes.scanFrom_eq, passesOn.scanFrom_of_stops stops] at stuck
  change fault = some (.noRule further) at stuck
  subst stuck
  rcases stops.unmatched with ⟨rfl, -⟩
  exact ⟨passesOn.tiles.le_last, stops⟩

/-- Rules behind others change no scan that ends or in which a transform fails. A scan that stops
because no rule matches goes over the same segments with them, finds the same tokens there and goes
on from the same position. So it stops there or further on if no rule matches again, and at the
same position just if none of the further rules matches there. -/
theorem scan_append_rules (rules more : Lexer) (text : String) :
    ((∀ position, (rules.scan text).result ≠ .error (.noRule position)) →
        (rules ++ more).scan text = rules.scan text) ∧
      (∀ position, (rules.scan text).result = .error (.noRule position) →
        (∃ segments, rules.Passes text.toList 0 segments position ∧
            (rules ++ more).Passes text.toList 0 segments position ∧
            (rules.scan text).tokens = segments.filterMap (Segment.token? text.toList)) ∧
          (rules ++ more).scan text =
            ⟨(rules.scan text).tokens ++
                ((rules ++ more).scanFrom (.ofPosition text.toList position)).tokens,
              ((rules ++ more).scanFrom (.ofPosition text.toList position)).fault⟩ ∧
          ∀ further, ((rules ++ more).scan text).result = .error (.noRule further) →
            position ≤ further ∧
              (further = position ↔
                ∀ rule ∈ more, ∀ found, ¬ rule.Matches text.toList position found)) ∧
      (rules ++ rules).scan text = rules.scan text := by
  rcases exists_passes rules (Nat.zero_le text.toList.length) with
    ⟨segments, last, fault, passes, stops⟩
  have scan_eq : rules.scan text =
      ⟨segments.filterMap (Segment.token? text.toList), fault⟩ :=
    passes.scanFrom_of_stops stops
  have unchanged (others : Lexer) (unmatched : fault = some (.noRule last) →
      ∀ rule ∈ others, ∀ found, ¬ rule.Matches text.toList last found) :
      (rules ++ others).scan text = rules.scan text := by
    rw [scan_eq]
    exact (passes.append others).scanFrom_of_stops (stops.append others unmatched)
  refine ⟨?_, ?_, ?_⟩
  · intro matched
    apply unchanged
    intro stuck
    exact absurd (by rw [scan_eq, stuck]; rfl) (matched last)
  · intro position stuck
    rw [Scan.result_eq_error_iff, scan_eq] at stuck
    change fault = some (.noRule position) at stuck
    subst stuck
    rcases stops.unmatched with ⟨rfl, -⟩
    have passesMore := passes.append more
    refine ⟨⟨segments, passes, passesMore, by rw [scan_eq]⟩, ?_, ?_⟩
    · rw [scan_eq]
      exact passesMore.scanFrom_eq
    · intro further stuckToo
      rw [Scan.result_eq_error_iff, scan, ← Cursor.ofPosition_zero] at stuckToo
      have within := passes.tiles.le_length (Nat.zero_le _)
      rcases passesMore.stops_further within stuckToo with ⟨later, stopsMore⟩
      refine ⟨later, ?_, ?_⟩
      · rintro rfl rule rule_mem
        exact stopsMore.unmatched.2 rule (List.mem_append_right rules rule_mem)
      · intro unmatchedToo
        have stays := passesMore.scanFrom_of_stops (stops.append more fun _ => unmatchedToo)
        rw [stays, Option.some.injEq, ScanFault.noRule.injEq] at stuckToo
        exact stuckToo.symm
  · apply unchanged
    intro stuck
    subst stuck
    exact stops.unmatched.2

/-- The rules `(?=a)`, which never takes a character, and `a+` stop in `aab!` behind the second
character. With `aab` and `b` behind them they stop at the sign: the longer match has no say. -/
theorem scan_append_rules_overlapping :
    let look : Rule := ⟨⟨"(?=a)", .ahead true (.one (.single 0x61 false)), 0⟩, "LOOK", none⟩
    let run : Rule :=
      ⟨⟨"a+", .repetition (.one (.single 0x61 false)) 1 none .greedy, 0⟩, "RUN", none⟩
    let whole : Rule :=
      ⟨⟨"aab", .ofList [.one (.single 0x61 false), .one (.single 0x61 false),
        .one (.single 0x62 false)], 0⟩, "WHOLE", none⟩
    let single : Rule := ⟨⟨"b", .one (.single 0x62 false), 0⟩, "SINGLE", none⟩
    let rules : Lexer := [look, run]
    let more : Lexer := [whole, single]
    rules.scan "aab!" = ⟨[⟨"aa", "RUN"⟩], some (.noRule 2)⟩ ∧
      (rules ++ more).scan "aab!" = ⟨[⟨"aa", "RUN"⟩, ⟨"b", "SINGLE"⟩], some (.noRule 3)⟩ ∧
      (∃ rule ∈ more, ∃ found, rule.Matches "aab!".toList 2 found) ∧
      (rules ++ rules).scan "aab!" = rules.scan "aab!" := by
  intro look run whole single rules more
  have alone : rules.scan "aab!" = ⟨[⟨"aa", "RUN"⟩], some (.noRule 2)⟩ := by decide +kernel
  have together :
      (rules ++ more).scan "aab!" = ⟨[⟨"aa", "RUN"⟩, ⟨"b", "SINGLE"⟩], some (.noRule 3)⟩ := by
    decide +kernel
  rcases scan_append_rules rules more "aab!" with ⟨-, stuck, -⟩
  have further := (stuck 2 (by rw [alone]; rfl)).2.2 3 (by rw [together]; rfl)
  refine ⟨alone, together, ?_, (scan_append_rules rules more "aab!").2.2⟩
  have matched := mt further.2.mpr (by decide)
  push Not at matched
  exact matched

end Lexer

end Rpn
