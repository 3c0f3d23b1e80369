import Rpn.Proofs.Recognition

/-!
# The longest match

The reference rules are tried one after the other, and within a rule the first way to match counts.
Neither order shows: what is taken at a place is the longest text there that any of the patterns
can match in full, and no other rule matches at that place.

The first character decides on the rule (`Spells.tag_eq_of_front`). Among the lexemes of one tag
with which a text begins, the longest one is not made longer by the character behind it, and such a
lexeme is what the rule takes (`takes_of_spells`). That rules may then be reordered holds of all
rules of which at most one matches at each place (`Lexer.scan_of_perm`).
-/

namespace Rpn

/-- The pattern can match a text from its start to its end. -/
def Pattern.MatchesWhole (pattern : Pattern) (chars : List Char) : Prop :=
  ∃ found, pattern.regex.search ⟨.start chars, []⟩
    (fun progress => if progress.cursor.after = [] then some progress else none) = some found

/-- The longest text with which another one begins and that some rule can match in full. -/
structure Lexer.IsLongest (rules : Lexer) (text chars : List Char) : Prop where
  nonempty : chars ≠ []
  begins : chars <+: text
  whole : ∃ rule ∈ rules, rule.pattern.MatchesWhole chars
  longest : ∀ other, other <+: text → ∀ rule ∈ rules, rule.pattern.MatchesWhole other →
    other.length ≤ chars.length

/-- At each place at most one of the rules matches. -/
def Lexer.Exclusive (rules : Lexer) : Prop :=
  ∀ cursor, ∀ rule ∈ rules, ∀ other ∈ rules,
    rule.match? cursor ≠ none → other.match? cursor ≠ none → other = rule

theorem Pattern.matchesWhole_of_takes {pattern : Pattern} {chars : List Char}
    (takes : pattern.regex.Takes chars []) : pattern.MatchesWhole chars := by
  rcases takes [] [] with ⟨kept, reach⟩
  refine ⟨⟨.behind [] chars [], kept⟩, ?_⟩
  simpa [Cursor.start] using reach _ _ (if_pos rfl)

theorem Pattern.MatchesWhole.admits {pattern : Pattern} {chars : List Char}
    (matched : pattern.MatchesWhole chars) : pattern.regex.Admits chars := by
  rcases matched with ⟨found, searched⟩
  rcases pattern.regex.reads _ _ _ searched with ⟨front, moved, spans, admitted, reached⟩
  rw [Option.ite_none_right_eq_some] at reached
  have front_eq : chars = front := by
    simpa [Cursor.start, reached.1] using spans.1
  rwa [front_eq]

theorem Rule.spans_of_match? {rule : Rule} {cursor : Cursor} {found : Match}
    (matched : rule.match? cursor = some found) :
    rule.pattern.match? cursor = some found ∧ cursor.Spans found.chars found.last ∧
      found.chars ≠ [] := by
  rw [match?, Option.filter_eq_some_iff] at matched
  rcases matched with ⟨matched, consumes⟩
  rcases Pattern.match?_spans matched with ⟨first_eq, chars, spans, -⟩
  have chars_eq : found.chars = chars := by
    rw [Match.chars, first_eq, spans.textUntil_eq]
  rw [Match.consumes, first_eq, spans.isBefore_iff] at consumes
  rw [chars_eq]
  exact ⟨matched, spans, consumes⟩

namespace Lexer

variable {rules lexer : Lexer}

theorem Exclusive.firstMatch?_eq_some_iff (exclusive : rules.Exclusive) {cursor : Cursor}
    {rule : Rule} {found : Match} :
    rules.firstMatch? cursor = some (rule, found) ↔
      rule ∈ rules ∧ rule.match? cursor = some found := by
  have matched_of_first {rule : Rule} {found : Match}
      (first : rules.firstMatch? cursor = some (rule, found)) :
      rule ∈ rules ∧ rule.match? cursor = some found := by
    rcases List.exists_of_findSome?_eq_some first with ⟨candidate, candidate_mem, matched⟩
    simp only [Option.map_eq_some_iff, Prod.mk.injEq] at matched
    rcases matched with ⟨_, matched, rfl, rfl⟩
    exact ⟨candidate_mem, matched⟩
  refine ⟨matched_of_first, ?_⟩
  rintro ⟨rule_mem, matched⟩
  cases first : rules.firstMatch? cursor with
  | none =>
      have unmatched := List.findSome?_eq_none_iff.mp first rule rule_mem
      simp [matched] at unmatched
  | some chosen =>
      rcases chosen with ⟨other, otherFound⟩
      rcases matched_of_first first with ⟨other_mem, otherMatched⟩
      have same : other = rule := by
        apply exclusive cursor rule rule_mem other other_mem
        · simp [matched]
        · simp [otherMatched]
      subst same
      rw [matched, Option.some.injEq] at otherMatched
      rw [otherMatched]

theorem Exclusive.of_perm (exclusive : rules.Exclusive) (perm : lexer.Perm rules) :
    lexer.Exclusive := by
  intro cursor rule rule_mem other other_mem
  apply exclusive cursor
  · exact perm.mem_iff.mp rule_mem
  · exact perm.mem_iff.mp other_mem

theorem firstMatch?_of_perm (exclusive : rules.Exclusive) (perm : lexer.Perm rules)
    (cursor : Cursor) : lexer.firstMatch? cursor = rules.firstMatch? cursor := by
  apply Option.ext
  rintro ⟨rule, found⟩
  rw [(exclusive.of_perm perm).firstMatch?_eq_some_iff, exclusive.firstMatch?_eq_some_iff,
    perm.mem_iff]

/-- A scan depends on the rules only through the first match at each place. -/
theorem scanFrom_congr (same : ∀ cursor, lexer.firstMatch? cursor = rules.firstMatch? cursor)
    (cursor : Cursor) : lexer.scanFrom cursor = rules.scanFrom cursor := by
  induction missing : cursor.after.length using Nat.strongRecOn generalizing cursor with
  | _ missing ih =>
      subst missing
      by_cases ended : cursor.after = []
      · rw [scanFrom, scanFrom, ended]
      · rw [scanFrom_of_ne_nil lexer ended, scanFrom_of_ne_nil rules ended, same]
        cases first : rules.firstMatch? cursor with
        | none => rfl
        | some chosen =>
            have shorter : chosen.2.last.after.length < cursor.after.length := by
              simpa [Cursor.isBefore] using isBefore_of_firstMatch? first
            simp only [ih _ shorter chosen.2.last rfl]

theorem scan_of_perm (exclusive : rules.Exclusive) (perm : lexer.Perm rules) (text : String) :
    lexer.scan text = rules.scan text :=
  scanFrom_congr (firstMatch?_of_perm exclusive perm) _

end Lexer

namespace Reference

theorem rule_eq_of_tag_eq {rule other : Rule} (rule_mem : rule ∈ rules) (other_mem : other ∈ rules)
    (same : other.tag = rule.tag) : other = rule :=
  List.inj_on_of_nodup_map tags_nodup other_mem rule_mem same

theorem matchesWhole_iff {rule : Rule} (rule_mem : rule ∈ rules) {chars : List Char} :
    rule.pattern.MatchesWhole chars ↔ Spells rule.tag chars := by
  constructor
  · intro matched
    exact spells_of_admits rule_mem matched.admits
  · intro spelled
    have maximal : Maximal rule.tag chars [] := by simp [Maximal]
    rcases takes_of_spells spelled maximal with ⟨other, other_mem, tag_eq, takes⟩
    rw [← rule_eq_of_tag_eq rule_mem other_mem tag_eq]
    exact Pattern.matchesWhole_of_takes takes

theorem Spells.tag_eq_of_front {tag other : String} {chars others text : List Char}
    (spelled : Spells tag chars) (spelledToo : Spells other others) (begins : chars <+: text)
    (beginsToo : others <+: text) : other = tag := by
  rcases spelled.startsWith with ⟨c, c_head, starts⟩
  rcases spelledToo.startsWith with ⟨d, d_head, startsToo⟩
  rcases begins with ⟨rest, rfl⟩
  rcases beginsToo with ⟨restToo, same⟩
  have heads := congrArg List.head? same
  rw [List.head?_append, List.head?_append, Option.mem_def.mp c_head, Option.mem_def.mp d_head,
    Option.some_or, Option.some_or, Option.some.injEq] at heads
  subst heads
  exact startsToo.tag_eq starts

/-- A text that begins with a lexeme begins with a longest one of its tag. -/
theorem Spells.exists_longest {tag : String} {chars text : List Char} (spelled : Spells tag chars)
    (begins : chars <+: text) :
    ∃ longest rest, text = longest ++ rest ∧ Spells tag longest ∧ Maximal tag longest rest ∧
      ∀ other, Spells tag other → other <+: text → other.length ≤ longest.length := by
  induction missing : text.length - chars.length using Nat.strongRecOn generalizing chars with
  | _ missing ih =>
      subst missing
      by_cases further : ∃ other, Spells tag other ∧ other <+: text ∧ chars.length < other.length
      · rcases further with ⟨other, spelledOther, beginsOther, longer⟩
        have bound := beginsOther.length_le
        exact ih _ (by omega) spelledOther beginsOther rfl
      · push Not at further
        rcases begins with ⟨rest, rfl⟩
        refine ⟨chars, rest, rfl, spelled, ?_, further⟩
        -- A lexeme with the next character added would be a longer one.
        intro c c_head longer
        rcases rest with _ | ⟨d, rest⟩
        · simp at c_head
        · rw [List.head?_cons, Option.mem_some_iff] at c_head
          subst c_head
          have bound := further _ longer ⟨rest, by simp⟩
          rw [List.length_append, List.length_singleton] at bound
          omega

/-- What a rule matches is a lexeme that the next character does not make longer, and the longest
one of its tag there. -/
theorem longest_of_match? {rule : Rule} (rule_mem : rule ∈ rules) {cursor : Cursor} {found : Match}
    (matched : rule.match? cursor = some found) :
    Spells rule.tag found.chars ∧ Maximal rule.tag found.chars found.last.after ∧
      ∀ other, Spells rule.tag other → other <+: cursor.after →
        other.length ≤ found.chars.length := by
  rcases Rule.spans_of_match? matched with ⟨matched, spans, -⟩
  have spelled := spells_of_match? rule_mem matched
  rcases spelled.exists_longest ⟨_, spans.1.symm⟩ with
    ⟨longest, rest, after_eq, spelledLongest, maximal, bound⟩
  rcases takes_of_spells spelledLongest maximal with ⟨other, other_mem, tag_eq, takes⟩
  rcases Pattern.match?_of_takes takes cursor.before with ⟨found', matched', first_eq, last_eq⟩
  rw [← after_eq, rule_eq_of_tag_eq rule_mem other_mem tag_eq, matched,
    Option.some.injEq] at matched'
  subst matched'
  have chars_eq : found.chars = longest := by
    rw [Match.chars, first_eq, last_eq, Cursor.textUntil_behind]
  rw [chars_eq, last_eq]
  exact ⟨spelledLongest, maximal, bound⟩

theorem exclusive_rules : Lexer.Exclusive rules := by
  intro cursor rule rule_mem other other_mem matched matchedToo
  rcases Option.ne_none_iff_exists'.mp matched with ⟨found, matched⟩
  rcases Option.ne_none_iff_exists'.mp matchedToo with ⟨found', matchedToo⟩
  rcases Rule.spans_of_match? matched with ⟨-, spans, -⟩
  rcases Rule.spans_of_match? matchedToo with ⟨-, spansToo, -⟩
  apply rule_eq_of_tag_eq rule_mem other_mem
  exact (longest_of_match? rule_mem matched).1.tag_eq_of_front
    (longest_of_match? other_mem matchedToo).1 ⟨_, spans.1.symm⟩ ⟨_, spansToo.1.symm⟩

/-- At each place of each text, the first rule that matches takes the longest text that some
pattern can match in full, a rule matches if there is any such text, and no second rule matches.
So the rules find the same tokens, and stop at the same place, in whatever order they are tried. -/
theorem scan_longest :
    (∀ cursor : Cursor,
      (∀ rule found, Lexer.firstMatch? rules cursor = some (rule, found) →
        cursor.Spans found.chars found.last ∧ rule.pattern.MatchesWhole found.chars ∧
          Lexer.IsLongest rules cursor.after found.chars) ∧
        (Lexer.firstMatch? rules cursor = none →
          ∀ chars, chars ≠ [] → chars <+: cursor.after →
            ∀ rule ∈ rules, ¬ rule.pattern.MatchesWhole chars) ∧
        ∀ rule ∈ rules, ∀ other ∈ rules,
          rule.match? cursor ≠ none → other.match? cursor ≠ none → other = rule) ∧
      ∀ lexer : Lexer, lexer.Perm rules → ∀ text, lexer.scan text = Lexer.scan rules text := by
  refine ⟨fun cursor => ⟨?_, ?_, exclusive_rules cursor⟩, ?_⟩
  · intro rule found first
    rcases exclusive_rules.firstMatch?_eq_some_iff.mp first with ⟨rule_mem, matched⟩
    rcases Rule.spans_of_match? matched with ⟨-, spans, nonempty⟩
    rcases longest_of_match? rule_mem matched with ⟨spelled, -, bound⟩
    have begins : found.chars <+: cursor.after := ⟨_, spans.1.symm⟩
    have whole := (matchesWhole_iff rule_mem).mpr spelled
    refine ⟨spans, whole, nonempty, begins, ⟨rule, rule_mem, whole⟩, ?_⟩
    -- Whatever else can be matched in full starts with the same character.
    intro other beginsToo otherRule other_mem otherWhole
    have spelledToo := (matchesWhole_iff other_mem).mp otherWhole
    apply bound other _ beginsToo
    rwa [← spelled.tag_eq_of_front spelledToo begins beginsToo]
  · intro unmatched chars _ begins rule rule_mem whole
    have spelled := (matchesWhole_iff rule_mem).mp whole
    rcases spelled.exists_longest begins with ⟨longest, rest, after_eq, spelled, maximal, -⟩
    rcases firstMatch?_of_spells spelled maximal cursor.before with ⟨_, _, _, _, first, -⟩
    rw [← after_eq, unmatched] at first
    contradiction
  · intro lexer perm
    exact Lexer.scan_of_perm exclusive_rules perm

end Reference

end Rpn
