import Rpn.Proofs.LineRoundTrip
import Rpn.Proofs.Lines
import Rpn.Proofs.Moves

/-!
# The table shows which tokens there are

An entry of `Listing.table` is a lead, which has one length for all entries, and the value of the
token. The lead tells the tag, however many spaces stand in front of it. The value may hold line
feeds and look like more entries, so the table cannot be read line by line; but a lexeme in front of
a line feed or of the end is the only one there, so the values tell where they end themselves.
-/

namespace Rpn

namespace Listing

/-- What stands in front of the value in an entry. -/
def lead (width : Nat) (tag : String) : List Char :=
  List.replicate (width - tag.length) ' ' ++ (tag.toList ++ [' '])

/-- Entries, each with a line feed in front. -/
def behind (width : Nat) (tokens : List Token) : List Char :=
  tokens.flatMap fun token => '\n' :: (entry width token).toList

theorem toList_entry (width : Nat) (token : Token) :
    (entry width token).toList = lead width token.tag ++ token.value.toList := by
  have space : " ".toList = [' '] := by decide
  simp [entry, alignRight, lead, space]

theorem behind_cons (width : Nat) (token : Token) (tokens : List Token) :
    behind width (token :: tokens) =
      '\n' :: (lead width token.tag ++ (token.value.toList ++ behind width tokens)) := by
  simp [behind, toList_entry]

theorem length_lead {width : Nat} {tag : String} (fits : tag.length ≤ width) :
    (lead width tag).length = width + 1 := by
  rw [lead, List.length_append, List.length_append, List.length_replicate, List.length_singleton,
    String.length_toList]
  omega

theorem length_le_tagWidth {token : Token} {tokens : List Token} (token_mem : token ∈ tokens) :
    token.tag.length ≤ tagWidth tokens := by
  induction tokens with
  | nil => contradiction
  | cons first tokens ih =>
      rw [tagWidth, List.foldr_cons, ← tagWidth]
      rcases List.mem_cons.mp token_mem with rfl | later
      · exact Nat.le_max_left _ _
      · exact (ih later).trans (Nat.le_max_right _ _)

theorem exists_length_eq_tagWidth {tokens : List Token} (nonempty : tokens ≠ []) :
    ∃ token ∈ tokens, token.tag.length = tagWidth tokens := by
  induction tokens with
  | nil => contradiction
  | cons first tokens ih =>
      rw [tagWidth, List.foldr_cons, ← tagWidth]
      rcases Nat.le_total first.tag.length (tagWidth tokens) with longer | widest
      · cases tokens with
        | nil => exact ⟨first, by simp, by simp [tagWidth]⟩
        | cons second tokens =>
            rcases ih (by simp) with ⟨widest, widest_mem, width_eq⟩
            exact ⟨widest, List.mem_cons_of_mem first widest_mem,
              width_eq.trans (Nat.max_eq_right longer).symm⟩
      · exact ⟨first, by simp, (Nat.max_eq_left widest).symm⟩

/-- The table in front of an entry, the entry, and the table behind it. -/
theorem toList_table {tokens front back : List Token} {token : Token}
    (split : tokens = front ++ token :: back) :
    (table tokens).toList =
      (front.flatMap fun other => (entry (tagWidth tokens) other).toList ++ ['\n']) ++
        ((entry (tagWidth tokens) token).toList ++ behind (tagWidth tokens) back) := by
  generalize width_eq : tagWidth tokens = width
  subst split
  have feed : "\n".toList = ['\n'] := by decide
  rw [table, width_eq, List.map_append, List.map_cons, Text.toList_intercalate, feed]
  simp [behind, List.flatMap_map]

theorem table_cons (token : Token) (tokens : List Token) :
    (table (token :: tokens)).toList = lead (tagWidth (token :: tokens)) token.tag ++
      (token.value.toList ++ behind (tagWidth (token :: tokens)) tokens) := by
  rw [toList_table (List.nil_append _).symm, toList_entry]
  simp

theorem behind_tagWidth {tokens : List Token} (nonempty : tokens ≠ []) :
    behind (tagWidth tokens) tokens = '\n' :: (table tokens).toList := by
  cases tokens with
  | nil => contradiction
  | cons token tokens => rw [behind_cons, table_cons]

theorem table_eq_empty_iff {tokens : List Token} : table tokens = "" ↔ tokens = [] := by
  cases tokens with
  | nil => simp [table]
  | cons token tokens =>
      rw [← String.toList_inj, table_cons, lead]
      simp

end Listing

namespace Reference

open Listing (lead behind tagWidth)

/-- Only one lexeme in front of a text is not made longer by what follows it. -/
theorem Spells.front_unique {tag other : String} {chars otherChars rest otherRest : List Char}
    (spelled : Spells tag chars) (maximal : Maximal tag chars rest)
    (otherSpelled : Spells other otherChars) (otherMaximal : Maximal other otherChars otherRest)
    (same : chars ++ rest = otherChars ++ otherRest) :
    chars = otherChars ∧ rest = otherRest := by
  rcases firstMatch?_of_spells spelled maximal [] with ⟨_, -, -, found, first, -, last_eq⟩
  rcases firstMatch?_of_spells otherSpelled otherMaximal [] with
    ⟨_, -, -, otherFound, otherFirst, -, otherLast_eq⟩
  rw [same, otherFirst, Option.some.injEq, Prod.mk.injEq] at first
  rw [← first.2, otherLast_eq] at last_eq
  have rest_eq : otherRest = rest := congrArg Cursor.after last_eq
  subst otherRest
  exact ⟨List.append_cancel_right same, rfl⟩

/-- The tag of a lexeme is a word without spaces. -/
theorem IsLexeme.tag_is_word {token : Token} (lexeme : IsLexeme token) :
    token.tag.toList ≠ [] ∧ ∀ c ∈ token.tag.toList, (c != ' ') = true := by
  rw [← List.all_eq_true]
  rcases lexeme with ⟨-, spelled⟩
  generalize token.tag = tag at spelled
  generalize token.value.toList = chars at spelled
  cases spelled <;> decide

/-- A lead tells its tag, however wide it is. -/
theorem lead_unique {token other : Token} {width otherWidth : Nat} {rest otherRest : List Char}
    (lexeme : IsLexeme token) (otherLexeme : IsLexeme other)
    (same : lead width token.tag ++ rest = lead otherWidth other.tag ++ otherRest) :
    token.tag = other.tag ∧ rest = otherRest := by
  have spaces (count : Nat) : ∀ c ∈ List.replicate count ' ', (c == ' ') = true := by
    simp
  have word {token : Token} (lexeme : IsLexeme token) (rest : List Char) :
      ∀ c ∈ (token.tag.toList ++ (' ' :: rest)).head?, (c == ' ') = false := by
    rcases lexeme.tag_is_word with ⟨nonempty, each⟩
    intro c c_head
    rw [List.head?_append_of_ne_nil _ nonempty] at c_head
    simpa using each c (List.mem_of_head? c_head)
  simp only [lead, List.append_assoc, List.singleton_append] at same
  -- The spaces in front of the tag, then the characters in front of the next space.
  rcases split_unique (spaces _) (word lexeme rest) (spaces _) (word otherLexeme otherRest) same
    with ⟨-, tagged⟩
  rcases split_unique lexeme.tag_is_word.2 (by simp) otherLexeme.tag_is_word.2 (by simp) tagged
    with ⟨tag_eq, spaced⟩
  exact ⟨String.toList_inj.mp tag_eq, (List.cons.inj spaced).2⟩

/-- The value of an entry ends in front of the next entry and at the end of the table. -/
theorem IsLexeme.maximal_behind {token : Token} (lexeme : IsLexeme token) (width : Nat)
    (tokens : List Token) : Maximal token.tag token.value.toList (behind width tokens) := by
  apply lexeme.maximal
  intro c c_head
  cases tokens with
  | nil => simp [behind] at c_head
  | cons next tokens =>
      rw [Listing.behind_cons, List.head?_cons, Option.mem_some_iff] at c_head
      subst c
      decide

/-- The token of an entry and what follows the entry can be read off a table. -/
theorem entry_unique {token other : Token} {width otherWidth : Nat} {tokens others : List Token}
    (lexeme : IsLexeme token) (otherLexeme : IsLexeme other)
    (same : lead width token.tag ++ (token.value.toList ++ behind width tokens) =
      lead otherWidth other.tag ++ (other.value.toList ++ behind otherWidth others)) :
    token = other ∧ behind width tokens = behind otherWidth others := by
  rcases lead_unique lexeme otherLexeme same with ⟨tag_eq, valued⟩
  rcases lexeme.spelled.front_unique (lexeme.maximal_behind width tokens) otherLexeme.spelled
    (otherLexeme.maximal_behind otherWidth others) valued with ⟨value_eq, behind_eq⟩
  refine ⟨?_, behind_eq⟩
  rw [Token.mk.injEq]
  exact ⟨String.toList_inj.mp value_eq, tag_eq⟩

theorem behind_unique {width otherWidth : Nat} {tokens others : List Token}
    (lexemes : ∀ token ∈ tokens, IsLexeme token) (otherLexemes : ∀ token ∈ others, IsLexeme token)
    (same : behind width tokens = behind otherWidth others) : tokens = others := by
  induction tokens generalizing others with
  | nil =>
      cases others with
      | nil => rfl
      | cons other others => simp [behind] at same
  | cons token tokens ih =>
      cases others with
      | nil => simp [behind] at same
      | cons other others =>
          rcases List.forall_mem_cons.mp lexemes with ⟨lexeme, later⟩
          rcases List.forall_mem_cons.mp otherLexemes with ⟨otherLexeme, otherLater⟩
          rw [Listing.behind_cons, Listing.behind_cons, List.cons.injEq] at same
          rcases entry_unique lexeme otherLexeme same.2 with ⟨rfl, behind_eq⟩
          rw [ih later otherLater behind_eq]

/-- No two lists of lexemes have the same table. -/
theorem table_unique {tokens others : List Token} (lexemes : ∀ token ∈ tokens, IsLexeme token)
    (otherLexemes : ∀ token ∈ others, IsLexeme token)
    (same : Listing.table tokens = Listing.table others) : tokens = others := by
  by_cases empty : tokens = []
  · rw [Listing.table_eq_empty_iff.mpr empty, eq_comm, Listing.table_eq_empty_iff] at same
    rw [empty, same]
  · have otherNonempty : others ≠ [] := by
      rwa [ne_eq, ← Listing.table_eq_empty_iff, ← same, Listing.table_eq_empty_iff]
    apply behind_unique lexemes otherLexemes
    rw [Listing.behind_tagWidth empty, Listing.behind_tagWidth otherNonempty, same]

/-- Tokens that occur can be read off their table, and in the table each value stands at one
distance from the start of its entry, given by the longest tag. -/
theorem table_injective_aligned :
    (∀ tokens others : List Token, (∀ token ∈ tokens, Occurs token) →
        (∀ token ∈ others, Occurs token) → Listing.table tokens = Listing.table others →
          tokens = others) ∧
      (∀ text rpn otherText otherRpn, (converter.attempt (.text text)).result = .ok rpn →
        (converter.attempt (.text otherText)).result = .ok otherRpn →
          Listing.table rpn = Listing.table otherRpn → rpn = otherRpn) ∧
      ∀ (front : List Token) (token : Token) (back : List Token),
        let tokens := front ++ token :: back
        let width := tagWidth tokens
        (∀ other ∈ tokens, other.tag.length ≤ width) ∧
          (∃ other ∈ tokens, other.tag.length = width) ∧
          (Listing.table tokens).toList =
            (front.flatMap fun other => (Listing.entry width other).toList ++ ['\n']) ++
              ((Listing.entry width token).toList ++ behind width back) ∧
          (Listing.entry width token).toList = lead width token.tag ++ token.value.toList ∧
          (lead width token.tag).length = width + 1 := by
  have unique {tokens others : List Token} (occur : ∀ token ∈ tokens, Occurs token)
      (otherOccur : ∀ token ∈ others, Occurs token)
      (same : Listing.table tokens = Listing.table others) : tokens = others := by
    apply table_unique _ _ same
    · exact fun token token_mem => occurs_iff.mp (occur token token_mem)
    · exact fun token token_mem => occurs_iff.mp (otherOccur token token_mem)
  refine ⟨fun tokens others => unique, ?_, ?_⟩
  · intro text rpn otherText otherRpn converted otherConverted
    exact unique (occurs_of_converted converted) (occurs_of_converted otherConverted)
  · intro front token back tokens width
    have token_mem : token ∈ tokens := by simp [tokens]
    have nonempty : tokens ≠ [] := List.ne_nil_of_mem token_mem
    refine ⟨?_, Listing.exists_length_eq_tagWidth nonempty, Listing.toList_table rfl,
      Listing.toList_entry width token, ?_⟩
    · intro other other_mem
      exact Listing.length_le_tagWidth other_mem
    · exact Listing.length_lead (Listing.length_le_tagWidth token_mem)

/-- A string with a line feed, behind which it looks like another entry. Two strings that end where
its lines do have another table. -/
theorem table_injective_aligned_lookalike :
    let quoted : Token := ⟨"\"a\nSTRING \\\"b\"", "STRING"⟩
    let upper : Token := ⟨"\"a\"", "STRING"⟩
    let lower : Token := ⟨"\"b\"", "STRING"⟩
    let numbered : Token := ⟨"V1", "VARIABLE"⟩
    let tokens := [numbered, quoted]
    let found := (Lexer.scan rules (Listing.line tokens)).tokens
    (∀ token ∈ tokens, Occurs token) ∧ (∀ token ∈ found, Occurs token) ∧
      Listing.table tokens = "VARIABLE V1\n  STRING \"a\nSTRING \\\"b\"" ∧
      Listing.table tokens = Listing.table found ∧ tokens = found ∧
      Listing.table [quoted] ≠ Listing.table [upper, lower] ∧
      tagWidth tokens = 8 ∧ (lead (tagWidth tokens) quoted.tag).length = tagWidth tokens + 1 := by
  intro quoted upper lower numbered tokens found
  have plain : ∀ c ∈ "a\nSTRING ".toList, StringPiece [c] := by
    have others : ("a\nSTRING ".toList.all fun c => decide (c ∉ ['"', '\\'])) = true := by decide
    intro c c_mem
    exact .plain (of_decide_eq_true (List.all_eq_true.mp others c c_mem))
  have last : StringPiece ['b'] := .plain (by decide)
  have isQuoted : IsLexeme quoted := by
    have pieces : ∀ piece ∈ "a\nSTRING ".toList.map ([·]) ++ [['\\', '"'], ['b']],
        StringPiece piece := by
      simp only [List.forall_mem_append, List.forall_mem_map, List.forall_mem_cons]
      exact ⟨plain, .escaped (by decide), last, by simp⟩
    exact (Spells.quoted (by simp) pieces).isLexeme (by decide)
  have isUpper : IsLexeme upper :=
    (Spells.quoted (by simp) (List.forall_mem_singleton.mpr (plain 'a' (by decide)))).isLexeme
      (by decide)
  have isLower : IsLexeme lower :=
    (Spells.quoted (by simp) (List.forall_mem_singleton.mpr last)).isLexeme (by decide)
  have isNumbered : IsLexeme numbered :=
    (Spells.numbered (by simp) (List.forall_mem_singleton.mpr (by decide))).isLexeme (by decide)
  have lexemes : ∀ token ∈ tokens, IsLexeme token := by
    simp only [tokens, List.forall_mem_cons]
    exact ⟨isNumbered, isQuoted, by simp⟩
  have occur : ∀ token ∈ tokens, Occurs token :=
    fun token token_mem => occurs_iff.mpr (lexemes token token_mem)
  have foundOccur : ∀ token ∈ found, Occurs token := fun token found_mem => ⟨_, found_mem⟩
  have same : Listing.table tokens = Listing.table found :=
    congrArg Listing.table (Scan.tokens_of_result_eq_ok (scan_line lexemes)).symm
  have distinct : Listing.table [quoted] ≠ Listing.table [upper, lower] := by
    intro alike
    have equal : [quoted] = [upper, lower] := by
      apply table_injective_aligned.1 _ _ _ _ alike
      · exact List.forall_mem_singleton.mpr (occurs_iff.mpr isQuoted)
      · simp only [List.forall_mem_cons]
        exact ⟨occurs_iff.mpr isUpper, occurs_iff.mpr isLower, by simp⟩
    simp at equal
  rcases table_injective_aligned.2.2 [numbered] quoted [] with ⟨-, -, -, -, length_eq⟩
  exact ⟨occur, foundOccur, by decide, same,
    table_injective_aligned.1 _ _ occur foundOccur same, distinct, by decide, length_eq⟩

end Reference

end Rpn
