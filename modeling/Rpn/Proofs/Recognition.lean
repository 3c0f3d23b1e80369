import Rpn.Proofs.RoundTrip
import Rpn.Proofs.Segmentation

/-!
# What the reference rules recognize

The converse of what `Takes` says of them: whatever a reference rule matches, at any place of any
text, is a text of its tag in the sense of `Spells`. So each token that a scan finds is a lexeme,
also if the scan fails further on.
-/

namespace Rpn.Reference

open Text (CodeRange)

theorem admits_char {c : Char} {chars : List Char} (admitted : (char c).Admits chars) :
    chars = [c] := by
  rcases admitted with ⟨d, accepted, rfl⟩
  have covered := (accepts_single c d).symm.trans accepted
  rw [List.mem_singleton.mp (covers_codes.mp covered)]

theorem admits_word {expected chars : List Char} (admitted : (word expected).Admits chars) :
    chars = expected := by
  induction expected generalizing chars with
  | nil => exact admitted
  | cons c expected ih =>
      cases expected with
      | nil => exact admits_char admitted
      | cons d expected =>
          rcases admitted with ⟨front, back, first, rest, rfl⟩
          rw [admits_char first, ih rest, List.singleton_append]

theorem admits_anyOf {options : List Regex} (nonempty : options ≠ []) {chars : List Char}
    (admitted : (Regex.anyOf options).Admits chars) : ∃ option ∈ options, option.Admits chars := by
  induction options with
  | nil => contradiction
  | cons option options ih =>
      cases options with
      | nil => exact ⟨option, by simp, admitted⟩
      | cons next options =>
          rcases admitted with taken | other
          · exact ⟨option, by simp, taken⟩
          · rcases ih (by simp) other with ⟨found, found_mem, admitted⟩
            exact ⟨found, List.mem_cons_of_mem _ found_mem, admitted⟩

/-- A repetition of a set reads characters of its table, at least as many as asked for. -/
theorem admits_repetition {set : CharSet} {table : List CodeRange} (accepts : Accepts set table)
    {low : Nat} {chars : List Char}
    (admitted : (Regex.repetition (.one set) low none .greedy).Admits chars) :
    low ≤ chars.length ∧ ∀ c ∈ chars, CodeRange.covers table c.toNat = true := by
  rcases admitted with ⟨pieces, enough, each, rfl⟩
  have singles : pieces.flatten.length = pieces.length ∧
      ∀ c ∈ pieces.flatten, CodeRange.covers table c.toNat = true := by
    clear enough
    induction pieces with
    | nil => simp
    | cons piece pieces ih =>
        rcases each piece (by simp) with ⟨c, accepted, rfl⟩
        rcases ih fun piece piece_mem => each piece (by simp [piece_mem]) with ⟨length_eq, covered⟩
        refine ⟨by simp [length_eq], ?_⟩
        rw [List.flatten_cons, List.singleton_append]
        exact List.forall_mem_cons.mpr ⟨(accepts c).symm.trans accepted, covered⟩
  exact ⟨singles.1 ▸ enough, singles.2⟩

theorem admits_many {set : CharSet} {table : List CodeRange} (accepts : Accepts set table)
    {chars : List Char} (admitted : (many (.one set)).Admits chars) :
    chars ≠ [] ∧ ∀ c ∈ chars, CodeRange.covers table c.toNat = true := by
  rcases admits_repetition accepts admitted with ⟨nonempty, covered⟩
  exact ⟨List.length_pos_iff.mp nonempty, covered⟩

theorem admits_stringPiece {piece : List Char} (admitted : stringPiece.Admits piece) :
    StringPiece piece := by
  rcases admitted with ⟨c, other, rfl⟩ | ⟨front, back, mark, ⟨c, special, rfl⟩, rfl⟩
  · exact .plain (accepts_not_oneOf.mp other)
  · rw [admits_char mark]
    exact .escaped (accepts_oneOf.mp special)

/-- What a rule reads is a text of its tag. -/
theorem spells_of_admits {rule : Rule} (rule_mem : rule ∈ rules) {chars : List Char}
    (admitted : rule.pattern.regex.Admits chars) : Spells rule.tag chars := by
  simp only [rules, List.mem_cons, List.not_mem_nil, or_false] at rule_mem
  rcases rule_mem with rfl | rfl | rfl | rfl | rfl | rfl | rfl | rfl | rfl
  · rcases admitted with ⟨front, inner, opening, body, rfl⟩
    rcases body with ⟨quoted, back, ⟨pieces, enough, each, rfl⟩, closing, rfl⟩
    rw [admits_char opening, admits_char closing]
    have nonempty : pieces ≠ [] := List.length_pos_iff.mp enough
    exact .quoted nonempty fun piece piece_mem => admits_stringPiece (each piece piece_mem)
  · rcases admitted with ⟨front, digits, letter, run, rfl⟩
    rcases admits_many accepts_digits run with ⟨nonempty, each⟩
    rw [admits_char letter]
    exact .numbered nonempty each
  · rcases admitted with ⟨letters, digits, run, tail, rfl⟩
    rcases admits_many accepts_nameLetters run with ⟨nonempty, eachLetter⟩
    exact .named nonempty eachLetter (admits_repetition accepts_asciiDigits tail).2
  · rcases admits_many accepts_digits admitted with ⟨nonempty, each⟩
    exact .number nonempty each
  · rw [admits_char admitted]
    exact .separator
  · rw [admits_char admitted]
    exact .opening
  · rw [admits_char admitted]
    exact .closing
  · have listed : operatorTexts.map (fun text => word text.toList) ≠ [] := by
      simp [operatorTexts]
    rcases admits_anyOf listed admitted with ⟨option, option_mem, taken⟩
    rcases List.mem_map.mp option_mem with ⟨text, text_mem, rfl⟩
    rw [admits_word taken]
    exact .operator (mem_operatorTexts.mp text_mem)
  · rcases admits_many accepts_blanks admitted with ⟨nonempty, each⟩
    exact .blanks nonempty each

theorem spells_of_match? {rule : Rule} (rule_mem : rule ∈ rules) {cursor : Cursor} {found : Match}
    (matched : rule.pattern.match? cursor = some found) : Spells rule.tag found.chars := by
  rcases Pattern.match?_spans matched with ⟨first_eq, chars, spans, admitted⟩
  rw [Match.chars, first_eq, spans.textUntil_eq]
  exact spells_of_admits rule_mem admitted

theorem answers_of_mem {rule : Rule} (rule_mem : rule ∈ rules) : rule.Answers := by
  simp only [rules, List.mem_cons, List.not_mem_nil, or_false] at rule_mem
  rcases rule_mem with rfl | rfl | rfl | rfl | rfl | rfl | rfl | rfl | rfl <;>
    simp [Rule.Answers, Rule.discard]

theorem isLexeme_of_selects {text : List Char} {segment : Segment} {token : Token}
    (selected : Lexer.Selects rules text segment) (given : segment.token? text = some token) :
    IsLexeme token := by
  have rule_mem := selected.rule_mem
  rcases selected.apply_eq (answers_of_mem rule_mem).answered with
    ⟨_, dropped⟩ | ⟨value, applied, token_eq⟩
  · rw [dropped] at given
    contradiction
  · rw [given, Option.some.injEq] at token_eq
    subst token
    rw [apply_of_mem rule_mem] at applied
    split at applied
    · contradiction
    · rename_i visible
      rw [Transformed.value.injEq] at applied
      subst value
      exact (spells_of_match? rule_mem selected.matches.1).isLexeme visible

/-- Each token that a scan finds is a lexeme. -/
theorem isLexeme_of_mem_scan {text : String} {token : Token}
    (token_mem : token ∈ (Lexer.scan rules text).tokens) : IsLexeme token := by
  rcases (Lexer.exists_unique_segmentation rules text.toList).exists with ⟨⟨segments, last⟩, cut⟩
  rw [Lexer.scan_of_segmentation cut fun rule => answers_of_mem] at token_mem
  rcases List.mem_filterMap.mp token_mem with ⟨segment, segment_mem, given⟩
  exact isLexeme_of_selects (cut.tiles.selects segment segment_mem) given

end Rpn.Reference
