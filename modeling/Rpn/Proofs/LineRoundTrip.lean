import Rpn.Proofs.Conservation
import Rpn.Proofs.Recognition

/-!
# Scanning a line of tokens

`Listing.line` writes the values of tokens with one space between them and forgets their tags. The
reference rules find the same tokens in the line, tags included, whatever the tokens are and in
whatever order they stand: each is a lexeme, since some scan found it, the space behind it does not
make it longer, and its text decides on its tag.
-/

namespace Rpn.Reference

theorem line_cons_cons (first second : Token) (tokens : List Token) :
    (Listing.line (first :: second :: tokens)).toList =
      first.value.toList ++ ([' '] ++ (Listing.line (second :: tokens)).toList) := by
  have space : " ".toList = [' '] := by decide
  rw [Listing.line, List.map_cons, List.map_cons, String.intercalate_cons_cons,
    String.toList_append, String.toList_append, space, List.append_assoc]
  rfl

theorem line_cons (first : Token) (tokens : List Token) :
    ∃ rest, (Listing.line (first :: tokens)).toList = first.value.toList ++ rest := by
  cases tokens with
  | nil => exact ⟨[], by simp [Listing.line]⟩
  | cons second tokens => exact ⟨_, line_cons_cons first second tokens⟩

/-- A line of lexemes is cut into them. -/
theorem cut_line {tokens : List Token} (lexemes : ∀ token ∈ tokens, IsLexeme token) :
    Cut tokens (Listing.line tokens).toList := by
  induction tokens with
  | nil => exact .nothing
  | cons first tokens ih =>
      -- Behind the last token the text ends; every other one is ended by the space.
      rcases List.forall_mem_cons.mp lexemes with ⟨lexeme, others⟩
      cases tokens with
      | nil =>
          have line_eq : (Listing.line [first]).toList = first.value.toList ++ [] := by
            simp [Listing.line]
          rw [line_eq]
          exact .token lexeme.visible lexeme.spelled (by simp [Maximal]) .nothing
      | cons second tokens =>
          have blank : ∀ c ∈ [' '], Text.isBlank c = true :=
            List.forall_mem_singleton.mpr (by decide)
          have rest :
              Cut (second :: tokens) ([' '] ++ (Listing.line (second :: tokens)).toList) := by
            apply (ih others).after_blanks blank
            have next := others second (by simp)
            rcases next.spelled.startsWith with ⟨start, start_head, begins⟩
            rcases line_cons second tokens with ⟨rest, line_eq⟩
            intro c c_head
            rw [line_eq, List.head?_append, Option.mem_def.mp start_head, Option.some_or,
              Option.mem_some_iff] at c_head
            exact ⟨second.tag, c_head ▸ begins, next.roleOf_ne_none⟩
          rw [line_cons_cons]
          refine .token lexeme.visible lexeme.spelled (lexeme.maximal ?_) rest
          intro c c_head
          rw [List.singleton_append, List.head?_cons, Option.mem_some_iff] at c_head
          exact blank c (by simp [← c_head])

theorem scan_line {tokens : List Token} (lexemes : ∀ token ∈ tokens, IsLexeme token) :
    (Lexer.scan rules (Listing.line tokens)).result = .ok tokens := by
  rw [Lexer.scan, Cursor.start, scanFrom_of_cut (cut_line lexemes) []]
  rfl

/-- The tokens that some scan finds. -/
def Occurs (token : Token) : Prop :=
  ∃ text, token ∈ (Lexer.scan rules text).tokens

/-- The tokens that some scan finds are the lexemes. -/
theorem occurs_iff {token : Token} : Occurs token ↔ IsLexeme token := by
  constructor
  · rintro ⟨text, found⟩
    exact isLexeme_of_mem_scan found
  · intro lexeme
    have alone := scan_line (List.forall_mem_singleton.mpr lexeme)
    exact ⟨Listing.line [token], by simp [Scan.tokens_of_result_eq_ok alone]⟩

theorem occurs_of_scanned {text : String} {tokens : List Token}
    (scanned : (Lexer.scan rules text).result = .ok tokens) : ∀ token ∈ tokens, Occurs token := by
  intro token token_mem
  exact ⟨text, Scan.tokens_of_result_eq_ok scanned ▸ token_mem⟩

/-- What the reference converter puts out has been scanned. -/
theorem occurs_of_converted {text : String} {rpn : List Token}
    (converted : (converter.attempt (.text text)).result = .ok rpn) :
    ∀ token ∈ rpn, Occurs token := by
  rcases (Converter.result_text_eq_ok_iff rfl).mp converted with ⟨tokens, scanned, converted⟩
  intro token token_mem
  have kept := (Grammar.perm_of_rpn converted).mem_iff.mp token_mem
  exact occurs_of_scanned scanned token (List.mem_filter.mp kept).1

/-- Scanning a line of tokens that occur gives them back, whatever their order; among these are the
tokens of every successful scan and of every output of the reference converter. -/
theorem scan_line_of_occurs :
    (∀ tokens : List Token, (∀ token ∈ tokens, Occurs token) →
        (Lexer.scan rules (Listing.line tokens)).result = .ok tokens) ∧
      (∀ text scanned, (Lexer.scan rules text).result = .ok scanned →
        ∀ tokens ⊆ scanned, (Lexer.scan rules (Listing.line tokens)).result = .ok tokens) ∧
      ∀ text rpn, (converter.attempt (.text text)).result = .ok rpn →
        ∀ tokens ⊆ rpn, (Lexer.scan rules (Listing.line tokens)).result = .ok tokens := by
  have restored {tokens : List Token} (occur : ∀ token ∈ tokens, Occurs token) :
      (Lexer.scan rules (Listing.line tokens)).result = .ok tokens := by
    exact scan_line fun token token_mem => occurs_iff.mp (occur token token_mem)
  refine ⟨fun tokens => restored, ?_, ?_⟩
  · intro text scanned succeeded tokens within
    exact restored fun token token_mem => occurs_of_scanned succeeded token (within token_mem)
  · intro text rpn converted tokens within
    exact restored fun token token_mem => occurs_of_converted converted token (within token_mem)

/-- Signs that would be one operator without the space, next to a string of a space, a double mark
and a comma. -/
theorem scan_line_of_occurs_fusible :
    let less : Token := ⟨"<", "OPERATOR"⟩
    let greater : Token := ⟨">", "OPERATOR"⟩
    let quoted : Token := ⟨"\" \\\",\"", "STRING"⟩
    let tokens := [less, greater, quoted, less]
    (∀ token ∈ tokens, Occurs token) ∧ Listing.line tokens = "< > \" \\\",\" <" ∧
      (Lexer.scan rules (Listing.line tokens)).result = .ok tokens := by
  intro less greater quoted tokens
  have occurs_less : Occurs less := occurs_iff.mpr ⟨by decide, .operator (by decide)⟩
  have occurs_greater : Occurs greater := occurs_iff.mpr ⟨by decide, .operator (by decide)⟩
  have occurs_quoted : Occurs quoted := by
    have pieces : ∀ piece ∈ [[' '], ['\\', '"'], [',']], StringPiece piece := by
      simp only [List.forall_mem_cons]
      exact ⟨.plain (by decide), .escaped (by decide), .plain (by decide), by simp⟩
    exact occurs_iff.mpr ((Spells.quoted (by simp) pieces).isLexeme (by decide))
  have occur : ∀ token ∈ tokens, Occurs token := by
    simp only [tokens, List.forall_mem_cons]
    exact ⟨occurs_less, occurs_greater, occurs_quoted, occurs_less, by simp⟩
  exact ⟨occur, by rfl, scan_line_of_occurs.1 tokens occur⟩

end Rpn.Reference
