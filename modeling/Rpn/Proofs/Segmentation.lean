import Mathlib.Data.List.Chain
import Rpn.Converter
import Rpn.Proofs.Reading

/-!
# How a scan cuts a text

A segment is a part of a text together with the rule that takes it: the first rule, in the order of
the list, that matches at least one character there. Segments that follow one another from the
start, and to which none can be added, make up the segmentation of the text. There is exactly one,
because a place and the rules decide on the segment that starts there.

A scan follows the segmentation. It succeeds just if the last segment ends with the text, and then
its tokens are those of the segments in their order; else it fails at the end of the last one.
-/

namespace Rpn

namespace Cursor

/-- The place behind a number of characters of a text. -/
def ofPosition (text : List Char) (position : Nat) : Cursor :=
  ⟨(text.take position).reverse, text.drop position⟩

theorem ofPosition_zero (text : List Char) : ofPosition text 0 = start text :=
  rfl

theorem position_ofPosition {text : List Char} {position : Nat} (within : position ≤ text.length) :
    (ofPosition text position).position = position := by
  simp [ofPosition, Cursor.position, within]

theorem text_ofPosition (text : List Char) (position : Nat) :
    (ofPosition text position).text = text := by
  simp [ofPosition, Cursor.text]

theorem ofPosition_text_position (cursor : Cursor) :
    ofPosition cursor.text cursor.position = cursor := by
  simp [ofPosition, Cursor.text, Cursor.position]

theorem position_le_length (cursor : Cursor) : cursor.position ≤ cursor.text.length := by
  simp [Cursor.text, Cursor.position]

theorem Spans.eq_ofPosition {text chars : List Char} {place : Nat} {last : Cursor}
    (spans : (ofPosition text place).Spans chars last) : last = ofPosition text last.position := by
  have same : last.text = text := spans.text_eq.trans (text_ofPosition text place)
  rw [← same, ofPosition_text_position]

end Cursor

/-- The rule has a match at a position that takes at least one character. -/
def Rule.Matches (rule : Rule) (text : List Char) (place : Nat) (found : Match) : Prop :=
  rule.pattern.match? (.ofPosition text place) = some found ∧ place < found.last.position

/-- The transform gives a text for every match or drops it. -/
def Rule.Answers (rule : Rule) : Prop :=
  ∀ transform ∈ rule.transform, ∀ found fault, transform found ≠ .failed fault

/-- A part of a text, by its start, with the rule that takes it. -/
structure Segment where
  first : Nat
  rule : Rule
  found : Match

namespace Segment

/-- The position behind a segment. -/
def last (segment : Segment) : Nat :=
  segment.found.last.position

/-- The characters between the ends of a segment. -/
def chars (text : List Char) (segment : Segment) : List Char :=
  (text.drop segment.first).take (segment.last - segment.first)

/-- The token of a segment, unless its transform drops it. -/
def token? (text : List Char) (segment : Segment) : Option Token :=
  match segment.rule.transform with
  | none => some ⟨String.ofList (segment.chars text), segment.rule.tag⟩
  | some transform =>
      match transform segment.found with
      | .value value => some ⟨value, segment.rule.tag⟩
      | .dropped | .failed _ => none

/-- The rule gives a text for the match or drops it. -/
def Answered (segment : Segment) : Prop :=
  ∀ fault, segment.rule.apply segment.found ≠ .failed fault

end Segment

namespace Lexer

/-- The rule of the segment is the first one that matches at least one character where the segment
starts. -/
def Selects (rules : Lexer) (text : List Char) (segment : Segment) : Prop :=
  ∃ earlier later, rules = earlier ++ segment.rule :: later ∧
    segment.rule.Matches text segment.first segment.found ∧
    ∀ other ∈ earlier, ∀ found, ¬ other.Matches text segment.first found

/-- Selected segments that follow one another from one position up to another. -/
inductive Tiles (rules : Lexer) (text : List Char) : Nat → List Segment → Nat → Prop where
  | nothing (place : Nat) : Tiles rules text place [] place
  | more {place last : Nat} {segment : Segment} {segments : List Segment}
      (starts : segment.first = place) (selected : rules.Selects text segment)
      (rest : Tiles rules text segment.last segments last) :
      Tiles rules text place (segment :: segments) last

/-- Selected segments that follow one another from the start of a text, as far as there are any. -/
structure Segmentation (rules : Lexer) (text : List Char) (segments : List Segment) (last : Nat) :
    Prop where
  tiles : rules.Tiles text 0 segments last
  maximal : ∀ segment, segment.first = last → ¬ rules.Selects text segment

/-- Selected segments cover the text, and these are their tokens. -/
def Tokenizes (rules : Lexer) (text : List Char) (tokens : List Token) : Prop :=
  ∃ segments, rules.Tiles text 0 segments text.length ∧
    tokens = segments.filterMap (Segment.token? text)

end Lexer

variable {rules : Lexer} {text : List Char}

namespace Rule

theorem Matches.last_le_length {rule : Rule} {place : Nat} {found : Match}
    (matched : rule.Matches text place found) : found.last.position ≤ text.length := by
  rcases Pattern.match?_spans matched.1 with ⟨-, chars, spans, -⟩
  have bound := found.last.position_le_length
  rwa [spans.text_eq, Cursor.text_ofPosition] at bound

theorem Matches.last_eq {rule : Rule} {place : Nat} {found : Match}
    (matched : rule.Matches text place found) :
    found.last = .ofPosition text found.last.position := by
  rcases Pattern.match?_spans matched.1 with ⟨-, chars, spans, -⟩
  exact spans.eq_ofPosition

theorem Matches.chars_eq {rule : Rule} {place : Nat} {found : Match}
    (matched : rule.Matches text place found) (within : place ≤ text.length) :
    found.chars = (text.drop place).take (found.last.position - place) := by
  rcases Pattern.match?_spans matched.1 with ⟨first_eq, chars, spans, -⟩
  have after_eq : text.drop place = chars ++ found.last.after := spans.1
  rw [Match.chars, first_eq, spans.textUntil_eq, spans.position_eq,
    Cursor.position_ofPosition within, Nat.add_sub_cancel_left, after_eq, List.take_left]

theorem match?_eq_some_iff {rule : Rule} {place : Nat} (within : place ≤ text.length)
    {found : Match} :
    rule.match? (.ofPosition text place) = some found ↔ rule.Matches text place found := by
  rw [match?, Option.filter_eq_some_iff, Matches]
  apply and_congr_right
  intro matched
  rcases Pattern.match?_spans matched with ⟨first_eq, chars, spans, -⟩
  rw [Match.consumes, first_eq, spans.isBefore_iff, spans.position_eq,
    Cursor.position_ofPosition within, ← List.length_pos_iff]
  omega

theorem match?_eq_none_iff {rule : Rule} {place : Nat} (within : place ≤ text.length) :
    rule.match? (.ofPosition text place) = none ↔ ∀ found, ¬ rule.Matches text place found := by
  simp only [Option.eq_none_iff_forall_ne_some, ne_eq, match?_eq_some_iff within]

theorem Answers.answered {segment : Segment} (answers : segment.rule.Answers) :
    segment.Answered := by
  intro fault
  rw [apply]
  split
  · simp
  · rename_i transform transform_eq
    exact answers transform transform_eq segment.found fault

end Rule

namespace Lexer

theorem firstMatch?_eq_some_iff {segment : Segment} (within : segment.first ≤ text.length) :
    rules.firstMatch? (.ofPosition text segment.first) = some (segment.rule, segment.found) ↔
      rules.Selects text segment := by
  rw [firstMatch?, List.findSome?_eq_some_iff]
  constructor
  · rintro ⟨earlier, chosen, later, split, matched, unmatched⟩
    simp only [Option.map_eq_some_iff, Prod.mk.injEq] at matched
    rcases matched with ⟨_, matched, rfl, rfl⟩
    refine ⟨earlier, later, split, (Rule.match?_eq_some_iff within).mp matched, ?_⟩
    intro other other_mem
    exact (Rule.match?_eq_none_iff within).mp (by simpa using unmatched other other_mem)
  · rintro ⟨earlier, later, split, matched, unmatched⟩
    refine ⟨earlier, segment.rule, later, split, ?_, ?_⟩
    · simp [(Rule.match?_eq_some_iff within).mpr matched]
    · intro other other_mem
      simp [(Rule.match?_eq_none_iff within).mpr (unmatched other other_mem)]

theorem firstMatch?_eq_none_iff {place : Nat} (within : place ≤ text.length) :
    rules.firstMatch? (.ofPosition text place) = none ↔
      ∀ segment, segment.first = place → ¬ rules.Selects text segment := by
  rw [Option.eq_none_iff_forall_ne_some]
  constructor
  · rintro unmatched segment rfl selected
    exact unmatched _ ((firstMatch?_eq_some_iff within).mpr selected)
  · rintro unselected ⟨rule, found⟩ first
    exact unselected ⟨place, rule, found⟩ rfl ((firstMatch?_eq_some_iff within).mp first)

theorem Selects.matches {segment : Segment} (selected : rules.Selects text segment) :
    segment.rule.Matches text segment.first segment.found := by
  rcases selected with ⟨_, _, _, matched, _⟩
  exact matched

theorem Selects.first_lt_last {segment : Segment} (selected : rules.Selects text segment) :
    segment.first < segment.last :=
  selected.matches.2

theorem Selects.last_le_length {segment : Segment} (selected : rules.Selects text segment) :
    segment.last ≤ text.length :=
  selected.matches.last_le_length

/-- The rules and a place decide on the segment that starts there. -/
theorem Selects.unique {segment other : Segment} (selected : rules.Selects text segment)
    (selectedToo : rules.Selects text other) (same : other.first = segment.first)
    (within : segment.first ≤ text.length) : other = segment := by
  have first := (firstMatch?_eq_some_iff within).mpr selected
  have firstToo := (firstMatch?_eq_some_iff (same ▸ within)).mpr selectedToo
  rw [same, first, Option.some.injEq, Prod.mk.injEq] at firstToo
  rcases segment with ⟨place, rule, found⟩
  rcases other with ⟨_, _, _⟩
  rcases firstToo with ⟨rfl, rfl⟩
  rw [Segment.mk.injEq]
  exact ⟨same, rfl, rfl⟩

theorem Tiles.selects {place last : Nat} {segments : List Segment}
    (tiles : rules.Tiles text place segments last) :
    ∀ segment ∈ segments, rules.Selects text segment := by
  induction tiles with
  | nothing place => simp
  | more starts selected rest ih => exact List.forall_mem_cons.mpr ⟨selected, ih⟩

theorem Tiles.le_length {place last : Nat} {segments : List Segment}
    (tiles : rules.Tiles text place segments last) (within : place ≤ text.length) :
    last ≤ text.length := by
  induction tiles with
  | nothing place => exact within
  | more starts selected rest ih =>
      subst starts
      exact ih (selected.matches.last_le_length)

theorem Tiles.le_last {place last : Nat} {segments : List Segment}
    (tiles : rules.Tiles text place segments last) : place ≤ last := by
  induction tiles with
  | nothing place => exact Nat.le_refl place
  | more starts selected rest ih =>
      have longer := selected.first_lt_last
      omega

/-- Each segment starts where the one before it ends, and further behind in the text. -/
theorem Tiles.points {place last : Nat} {segments : List Segment}
    (tiles : rules.Tiles text place segments last) :
    let points := place :: segments.map Segment.last
    points.IsChain (· < ·) ∧ points.getLast? = some last ∧
      segments.map Segment.first = points.dropLast := by
  induction tiles with
  | nothing place => simp
  | @more place last segment segments starts selected rest ih =>
      subst starts
      rcases ih with ⟨chain, ends, firsts⟩
      refine ⟨List.isChain_cons_cons.mpr ⟨selected.first_lt_last, chain⟩, ?_, ?_⟩
      · simpa using ends
      · simpa using firsts

theorem exists_tiles (rules : Lexer) {place : Nat} (within : place ≤ text.length) :
    ∃ segments last, rules.Tiles text place segments last ∧
      ∀ segment, segment.first = last → ¬ rules.Selects text segment := by
  -- Each segment leaves less of the text.
  induction missing : text.length - place using Nat.strongRecOn generalizing place with
  | _ missing ih =>
      subst missing
      by_cases stuck : ∀ segment, segment.first = place → ¬ rules.Selects text segment
      · exact ⟨[], place, .nothing place, stuck⟩
      · push Not at stuck
        rcases stuck with ⟨segment, rfl, selected⟩
        have longer := selected.first_lt_last
        have within' := selected.last_le_length
        rcases ih (text.length - segment.last) (by omega) within' rfl with
          ⟨segments, last, tiles, maximal⟩
        exact ⟨segment :: segments, last, .more rfl selected tiles, maximal⟩

theorem Tiles.unique {place last last' : Nat} {segments others : List Segment}
    (tiles : rules.Tiles text place segments last) (tilesToo : rules.Tiles text place others last')
    (within : place ≤ text.length)
    (maximal : ∀ segment, segment.first = last → ¬ rules.Selects text segment)
    (maximalToo : ∀ segment, segment.first = last' → ¬ rules.Selects text segment) :
    others = segments ∧ last' = last := by
  -- Neither sequence can end before the other, since a further segment would be selected there.
  induction tiles generalizing others with
  | nothing place =>
      cases tilesToo with
      | nothing => exact ⟨rfl, rfl⟩
      | more starts selected rest => exact absurd selected (maximal _ starts)
  | more starts selected rest ih =>
      cases tilesToo with
      | nothing => exact absurd selected (maximalToo _ starts)
      | more startsToo selectedToo restToo =>
          subst starts
          have same := selected.unique selectedToo startsToo within
          subst same
          rcases ih restToo selected.last_le_length maximal with ⟨rfl, rfl⟩
          exact ⟨rfl, rfl⟩

theorem exists_unique_segmentation (rules : Lexer) (text : List Char) :
    ∃! cut : List Segment × Nat, rules.Segmentation text cut.1 cut.2 := by
  rcases exists_tiles rules (Nat.zero_le text.length) with ⟨segments, last, tiles, maximal⟩
  refine ⟨(segments, last), ⟨tiles, maximal⟩, ?_⟩
  rintro ⟨others, last'⟩ ⟨tilesToo, maximalToo⟩
  rcases tiles.unique tilesToo (Nat.zero_le _) maximal maximalToo with ⟨rfl, rfl⟩
  rfl

theorem Selects.chars_eq {segment : Segment} (selected : rules.Selects text segment) :
    segment.found.text = String.ofList (segment.chars text) := by
  have within : segment.first ≤ text.length := by
    have longer := selected.first_lt_last
    have bound := selected.last_le_length
    omega
  rw [Match.text, selected.matches.chars_eq within]
  rfl

theorem Selects.apply_eq {segment : Segment} (selected : rules.Selects text segment)
    (answered : segment.Answered) :
    segment.rule.apply segment.found = .dropped ∧ segment.token? text = none ∨
      ∃ value, segment.rule.apply segment.found = .value value ∧
        segment.token? text = some ⟨value, segment.rule.tag⟩ := by
  cases transform_eq : segment.rule.transform with
  | none =>
      right
      refine ⟨segment.found.text, ?_, ?_⟩
      · simp [Rule.apply, transform_eq]
      · simp [Segment.token?, transform_eq, selected.chars_eq]
  | some transform =>
      cases answer : transform segment.found with
      | value value =>
          right
          exact ⟨value, by simp [Rule.apply, transform_eq, answer],
            by simp [Segment.token?, transform_eq, answer]⟩
      | dropped =>
          left
          exact ⟨by simp [Rule.apply, transform_eq, answer],
            by simp [Segment.token?, transform_eq, answer]⟩
      | failed fault => exact absurd (by simp [Rule.apply, transform_eq, answer]) (answered fault)

/-- What a scan makes of a segment is what the rule makes of the match. -/
theorem Selects.scanFrom_apply {segment : Segment} (selected : rules.Selects text segment) :
    rules.scanFrom (.ofPosition text segment.first) =
      match segment.rule.apply segment.found with
      | .value value =>
          .cons ⟨value, segment.rule.tag⟩ (rules.scanFrom (.ofPosition text segment.last))
      | .dropped => rules.scanFrom (.ofPosition text segment.last)
      | .failed fault => ⟨[], some (.transform fault)⟩ := by
  have longer := selected.first_lt_last
  have bound := selected.last_le_length
  have more : (Cursor.ofPosition text segment.first).after ≠ [] := by
    simp only [Cursor.ofPosition, ne_eq, List.drop_eq_nil_iff]
    omega
  have first := (firstMatch?_eq_some_iff (by omega)).mpr selected
  have rest_eq : rules.scanFrom segment.found.last =
      rules.scanFrom (.ofPosition text segment.last) :=
    congrArg rules.scanFrom selected.matches.last_eq
  have step := scanFrom_of_ne_nil rules more
  rw [first] at step
  rw [← rest_eq]
  exact step

/-- A scan goes from the start of a segment to its end and keeps its token. -/
theorem Selects.scanFrom_eq {segment : Segment} (selected : rules.Selects text segment)
    (answered : segment.Answered) :
    rules.scanFrom (.ofPosition text segment.first) =
      ⟨(segment.token? text).toList ++ (rules.scanFrom (.ofPosition text segment.last)).tokens,
        (rules.scanFrom (.ofPosition text segment.last)).fault⟩ := by
  rw [selected.scanFrom_apply]
  rcases selected.apply_eq answered with ⟨dropped, token_eq⟩ | ⟨value, given, token_eq⟩
  · simp [dropped, token_eq]
  · simp [given, token_eq, Scan.cons]

theorem Selects.rule_mem {segment : Segment} (selected : rules.Selects text segment) :
    segment.rule ∈ rules := by
  rcases selected with ⟨earlier, later, rfl, _, _⟩
  simp

theorem scanFrom_of_tiles {place last : Nat} {segments : List Segment}
    (tiles : rules.Tiles text place segments last)
    (answered : ∀ segment ∈ segments, segment.Answered) :
    rules.scanFrom (.ofPosition text place) =
      ⟨segments.filterMap (Segment.token? text) ++
          (rules.scanFrom (.ofPosition text last)).tokens,
        (rules.scanFrom (.ofPosition text last)).fault⟩ := by
  induction tiles with
  | nothing place => rfl
  | @more place last segment segments starts selected rest ih =>
      subst starts
      rcases List.forall_mem_cons.mp answered with ⟨first, others⟩
      rw [selected.scanFrom_eq first, ih others, List.filterMap_cons]
      cases segment.token? text <;> simp

theorem scanFrom_of_ended (rules : Lexer) (text : List Char) :
    rules.scanFrom (.ofPosition text text.length) = ⟨[], none⟩ := by
  have nothing_left : (Cursor.ofPosition text text.length).after = [] :=
    List.drop_eq_nil_of_le (Nat.le_refl _)
  rw [scanFrom, nothing_left]
  rfl

theorem scanFrom_of_unselected {place : Nat} (inside : place < text.length)
    (unselected : ∀ segment, segment.first = place → ¬ rules.Selects text segment) :
    rules.scanFrom (.ofPosition text place) = ⟨[], some (.noRule place)⟩ := by
  have more : (Cursor.ofPosition text place).after ≠ [] := by
    simp only [Cursor.ofPosition, ne_eq, List.drop_eq_nil_iff]
    omega
  have within := Nat.le_of_lt inside
  rw [scanFrom_of_ne_nil rules more, (firstMatch?_eq_none_iff within).mpr unselected,
    Cursor.position_ofPosition within]

theorem scan_of_segmentation {segments : List Segment} {last : Nat} {text : String}
    (cut : rules.Segmentation text.toList segments last)
    (answers : ∀ rule ∈ rules, rule.Answers) :
    rules.scan text =
      ⟨segments.filterMap (Segment.token? text.toList),
        if last = text.length then none else some (.noRule last)⟩ := by
  rcases cut with ⟨tiles, maximal⟩
  have within := tiles.le_length (Nat.zero_le _)
  have answered : ∀ segment ∈ segments, segment.Answered := by
    intro segment segment_mem
    exact (answers _ (tiles.selects segment segment_mem).rule_mem).answered
  rw [scan, ← Cursor.ofPosition_zero, scanFrom_of_tiles tiles answered, ← String.length_toList]
  -- In front of the end, the segmentation stops only where no rule matches.
  by_cases ended : last = text.toList.length
  · subst ended
    simp [scanFrom_of_ended]
  · rw [scanFrom_of_unselected (by omega) maximal, if_neg ended]
    simp

theorem Tiles.segmentation {segments : List Segment}
    (tiles : rules.Tiles text 0 segments text.length) :
    rules.Segmentation text segments text.length where
  tiles := tiles
  maximal := by
    intro segment starts selected
    have longer := selected.first_lt_last
    have bound := selected.last_le_length
    omega

/-- A scan that does not succeed has come to a place where no rule matches. -/
theorem result_scan_eq_error {text : String} {fault : ScanFault}
    (answers : ∀ rule ∈ rules, rule.Answers) (failed : (rules.scan text).result = .error fault) :
    ∃ position, fault = .noRule position := by
  rcases (exists_unique_segmentation rules text.toList).exists with ⟨⟨segments, last⟩, cut⟩
  have scanned := scan_of_segmentation cut answers
  by_cases ended : last = text.length
  · simp [scanned, ended, Scan.result] at failed
  · exact ⟨last, by simpa [scanned, ended, Scan.result, eq_comm] using failed⟩

/-- A scan succeeds just if the rules cut the whole text, and finds the tokens of the segments. -/
theorem result_scan_eq_ok_iff {text : String} {tokens : List Token}
    (answers : ∀ rule ∈ rules, rule.Answers) :
    (rules.scan text).result = .ok tokens ↔ rules.Tokenizes text.toList tokens := by
  constructor
  · intro succeeded
    rcases (exists_unique_segmentation rules text.toList).exists with ⟨⟨segments, last⟩, cut⟩
    have scanned := scan_of_segmentation cut answers
    by_cases ended : last = text.length
    · refine ⟨segments, ?_, ?_⟩
      · simpa only [ended, String.length_toList] using cut.tiles
      · simpa [scanned, ended, Scan.result, eq_comm] using succeeded
    · simp [scanned, ended, Scan.result] at succeeded
  · rintro ⟨segments, tiles, rfl⟩
    rw [scan_of_segmentation tiles.segmentation answers, String.length_toList, if_pos rfl]
    rfl

/-- Segments leave no gap in the text: without transforms their tokens are the text again. -/
theorem Tiles.flatMap_value {place last : Nat} {segments : List Segment}
    (tiles : rules.Tiles text place segments last) (raw : ∀ rule ∈ rules, rule.transform = none) :
    (segments.filterMap (Segment.token? text)).flatMap (fun token => token.value.toList) =
      (text.drop place).take (last - place) := by
  induction tiles with
  | nothing place => simp
  | @more place last segment segments starts selected rest ih =>
      subst starts
      have longer := selected.first_lt_last
      have further := rest.le_last
      have token_eq : segment.token? text =
          some ⟨String.ofList (segment.chars text), segment.rule.tag⟩ := by
        simp [Segment.token?, raw _ selected.rule_mem]
      have split : last - segment.first =
          (segment.last - segment.first) + (last - segment.last) := by
        omega
      have behind : segment.first + (segment.last - segment.first) = segment.last := by
        omega
      rw [List.filterMap_cons_some token_eq, List.flatMap_cons, ih, split, List.take_add,
        List.drop_drop, behind, String.toList_ofList, Segment.chars]

/-- Every text has exactly one segmentation, and a scan is decided by it: the tokens are those of
the segments, unless the last segment ends in front of the end of the text, which is the error. -/
theorem scan_segmentation {rules : Lexer} (answers : ∀ rule ∈ rules, rule.Answers)
    (text : String) :
    (∃! cut : List Segment × Nat, rules.Segmentation text.toList cut.1 cut.2) ∧
      ∀ segments last, rules.Segmentation text.toList segments last →
        let points := 0 :: segments.map Segment.last
        let tokens := segments.filterMap (Segment.token? text.toList)
        let result := (rules.scan text).result
        (points.IsChain (· < ·) ∧ points.getLast? = some last ∧ last ≤ text.length ∧
            segments.map Segment.first = points.dropLast) ∧
          ((∃ found, result = .ok found) ↔ last = text.length) ∧
          (last = text.length → result = .ok tokens) ∧
          (last ≠ text.length → last < text.length ∧ result = .error (.noRule last) ∧
            ∀ grammar, ((Converter.new grammar (some rules)).attempt (.text text)).result =
              .error (.expression ⟨.noRule last, text⟩)) ∧
          ((∀ rule ∈ rules, rule.transform = none) → last = text.length →
            String.join (tokens.map Token.value) = text) := by
  refine ⟨exists_unique_segmentation rules text.toList, ?_⟩
  intro segments last cut points tokens result
  have within : last ≤ text.length := by
    simpa only [String.length_toList] using cut.tiles.le_length (Nat.zero_le _)
  have scanned := scan_of_segmentation cut answers
  have succeeds (ended : last = text.length) : result = .ok tokens := by
    simp [result, scanned, ended, Scan.result, tokens]
  have fails (stuck : last ≠ text.length) : result = .error (.noRule last) := by
    simp [result, scanned, stuck, Scan.result]
  rcases cut.tiles.points with ⟨chain, ends, firsts⟩
  refine ⟨⟨chain, ends, within, firsts⟩, ?_, succeeds, ?_, ?_⟩
  · constructor
    · rintro ⟨found, succeeded⟩
      by_contra stuck
      rw [fails stuck] at succeeded
      contradiction
    · exact fun ended => ⟨tokens, succeeds ended⟩
  · intro stuck
    refine ⟨by omega, fails stuck, ?_⟩
    intro grammar
    exact Converter.result_text_of_noRule rfl (fails stuck)
  · intro raw ended
    apply String.toList_inj.mp
    rw [String.toList_join, List.flatMap_map, cut.tiles.flatMap_value raw, ended, List.drop_zero,
      Nat.sub_zero, ← String.length_toList, List.take_length]

/-- The rules `(?=a)`, which never takes a character, `a+` with a transform, and `b`, whose matches
are dropped, cut `aab c` behind the second and the third character and no further. -/
theorem scan_segmentation_stuck :
    let look : Rule := ⟨⟨"(?=a)", .ahead true (.one (.single 0x61 false)), 0⟩, "LOOK", none⟩
    let run : Rule :=
      ⟨⟨"a+", .repetition (.one (.single 0x61 false)) 1 none .greedy, 0⟩, "RUN",
        some fun found => .value (found.text ++ "!")⟩
    let gap : Rule := ⟨⟨"b", .one (.single 0x62 false), 0⟩, "GAP", some Rule.discard⟩
    let rules : Lexer := [look, run, gap]
    (∀ rule ∈ rules, rule.Answers) ∧
      (∃ segments, rules.Segmentation "aab c".toList segments 3 ∧
        (0 :: segments.map Segment.last = [0, 2, 3]) ∧
        segments.filterMap (Segment.token? "aab c".toList) = [⟨"aa!", "RUN"⟩]) ∧
      (rules.scan "aab c").result = .error (.noRule 3) := by
  intro look run gap rules
  have answers : ∀ rule ∈ rules, rule.Answers := by
    simp [rules, look, run, gap, Rule.Answers, Rule.discard]
  let text := "aab c".toList
  let aa : Segment := ⟨0, run, ⟨.ofPosition text 0, .ofPosition text 2, [], 0⟩⟩
  let b : Segment := ⟨2, gap, ⟨.ofPosition text 2, .ofPosition text 3, [], 0⟩⟩
  have takes_aa : rules.Selects text aa := (firstMatch?_eq_some_iff (by decide)).mp (by rfl)
  have takes_b : rules.Selects text b := (firstMatch?_eq_some_iff (by decide)).mp (by rfl)
  have cut : rules.Segmentation text [aa, b] 3 :=
    ⟨.more rfl takes_aa (.more rfl takes_b (.nothing 3)),
      (firstMatch?_eq_none_iff (by decide)).mp (by rfl)⟩
  have stuck := (scan_segmentation answers "aab c").2 _ _ cut
  exact ⟨answers, ⟨_, cut, by rfl, by decide⟩, (stuck.2.2.2.1 (by decide)).2.1⟩

end Lexer

end Rpn
