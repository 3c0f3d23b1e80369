import Rpn.Proofs.LongestMatch

/-!
# Scanning texts one after the other

The reference rules do not look at what lies in front of a place (`exists_scanned`), and a blank
behind a lexeme ends it. So the tokens of a text that is scanned to its end are not changed by a
further text behind a blank, and the further text is scanned as it would be on its own; only the
position of an error is counted from the start of the whole.

Blanks at the end of the first text and at the start of the second are dropped together with those
in between, as one run instead of three. `scanFrom_blanks` says that it makes no difference where a
run of blanks is cut.
-/

namespace Rpn.Reference

theorem firstMatch?_eq_none {text : List Char}
    (unspelled : ∀ tag chars, Spells tag chars → ¬ chars <+: text) (before : List Char) :
    Lexer.firstMatch? rules ⟨before, text⟩ = none := by
  rw [Option.eq_none_iff_forall_ne_some]
  rintro ⟨rule, found⟩ first
  rcases exclusive_rules.firstMatch?_eq_some_iff.mp first with ⟨rule_mem, matched⟩
  rcases Rule.spans_of_match? matched with ⟨-, spans, -⟩
  exact unspelled _ _ (longest_of_match? rule_mem matched).1 ⟨_, spans.1.symm⟩

/-- Whatever stands before a text, a scan finds the tokens in its front part and comes no further.
If nothing is left, the text is cut into the tokens. -/
structure Scanned (tokens : List Token) (front rest : List Char) : Prop where
  cut : rest = [] → Cut tokens (front ++ rest)
  scan_eq : ∀ before, Lexer.scanFrom rules ⟨before, front ++ rest⟩ =
    ⟨tokens, if rest = [] then none else some (.noRule (before.length + front.length))⟩

theorem Scanned.of_unspelled {text : List Char}
    (unspelled : ∀ tag chars, Spells tag chars → ¬ chars <+: text) : Scanned [] [] text where
  cut := by
    rintro rfl
    exact .nothing
  scan_eq := by
    intro before
    by_cases ended : text = []
    · simp [ended, Lexer.scanFrom, Scan.complete]
    · rw [List.nil_append, Lexer.scanFrom_of_ne_nil rules ended, firstMatch?_eq_none unspelled,
        if_neg ended]
      rfl

/-- One more lexeme in front adds its token, unless it is a run of blanks. -/
theorem Scanned.lexeme {tag : String} {lexeme front rest : List Char} {tokens : List Token}
    (scanned : Scanned tokens front rest) (spelled : Spells tag lexeme)
    (maximal : Maximal tag lexeme (front ++ rest)) :
    Scanned (if tag = "SPACE" then tokens else ⟨String.ofList lexeme, tag⟩ :: tokens)
      (lexeme ++ front) rest where
  cut := by
    intro ended
    rw [List.append_assoc]
    by_cases blank : tag = "SPACE"
    · rw [if_pos blank]
      subst blank
      exact .blanks spelled maximal (scanned.cut ended)
    · have first : Cut (⟨String.ofList lexeme, tag⟩ :: tokens)
          ((String.ofList lexeme).toList ++ (front ++ rest)) := by
        refine .token blank ?_ ?_ (scanned.cut ended)
        · simpa using spelled
        · simpa using maximal
      rw [if_neg blank]
      simpa using first
  scan_eq := by
    intro before
    have position : (lexeme.reverse ++ before).length + front.length =
        before.length + (lexeme ++ front).length := by
      simp only [List.length_append, List.length_reverse]
      omega
    rw [List.append_assoc, scanFrom_of_spells spelled maximal before, Cursor.behind,
      scanned.scan_eq, position]
    by_cases blank : tag = "SPACE"
    · rw [if_pos blank, if_pos blank]
    · rw [if_neg blank, if_neg blank]
      rfl

theorem exists_scanned (text : List Char) :
    ∃ tokens front rest, text = front ++ rest ∧ Scanned tokens front rest := by
  induction size : text.length using Nat.strongRecOn generalizing text with
  | _ size ih =>
      subst size
      by_cases spelled : ∃ tag chars, Spells tag chars ∧ chars <+: text
      · rcases spelled with ⟨tag, chars, spelled, begins⟩
        rcases spelled.exists_longest begins with ⟨lexeme, later, rfl, spelled, maximal, -⟩
        have positive := List.length_pos_iff.mpr spelled.ne_nil
        have shorter : later.length < (lexeme ++ later).length := by
          rw [List.length_append]
          omega
        rcases ih _ shorter later rfl with ⟨tokens, front, rest, rfl, scanned⟩
        refine ⟨_, lexeme ++ front, rest, ?_, scanned.lexeme spelled maximal⟩
        rw [List.append_assoc]
      · push Not at spelled
        exact ⟨[], [], text, rfl, .of_unspelled spelled⟩

theorem cut_of_scanned {text : String} {tokens : List Token}
    (succeeded : (Lexer.scan rules text).result = .ok tokens) : Cut tokens text.toList := by
  rcases exists_scanned text.toList with ⟨found, front, rest, text_eq, scanned⟩
  rw [Lexer.scan, Cursor.start, text_eq, scanned.scan_eq] at succeeded
  by_cases ended : rest = []
  · simp only [ended, if_true, Scan.result, Except.ok.injEq] at succeeded
    rw [text_eq, ← succeeded]
    exact scanned.cut ended
  · simp [ended, Scan.result] at succeeded

theorem isBlank_of_spells {run : List Char} (spelled : Spells "SPACE" run) :
    ∀ c ∈ run, Text.isBlank c = true := by
  generalize tag_eq : "SPACE" = tag at spelled
  cases spelled with
  | blanks _ each => exact each
  | _ => exact absurd tag_eq (by decide)

/-- Blanks in front of a text can be dropped apart from it, also if it starts with blanks. -/
theorem scanFrom_blanks {run : List Char} (each : ∀ c ∈ run, Text.isBlank c = true)
    (before text : List Char) :
    Lexer.scanFrom rules ⟨before, run ++ text⟩ =
      Lexer.scanFrom rules (.behind before run text) := by
  rcases exists_split Text.isBlank text with ⟨more, rest, rfl, eachMore, stops⟩
  have dropped {blanks : List Char} (each : ∀ c ∈ blanks, Text.isBlank c = true)
      (before : List Char) : Lexer.scanFrom rules ⟨before, blanks ++ rest⟩ =
        Lexer.scanFrom rules (.behind before blanks rest) := by
    by_cases empty : blanks = []
    · subst empty
      rfl
    · have maximal : Maximal "SPACE" blanks rest := by
        intro c c_head longer
        rcases longer.ends empty with ⟨table, listed, covered⟩
        have table_eq : table = Text.blanks := by simpa [endings] using listed
        have unblank := stops c c_head
        rw [Text.isBlank, ← table_eq, covered] at unblank
        contradiction
      rw [scanFrom_of_spells (.blanks empty each) maximal before, if_pos rfl]
  calc Lexer.scanFrom rules ⟨before, run ++ (more ++ rest)⟩
      = Lexer.scanFrom rules (.behind before (run ++ more) rest) := by
        rw [← List.append_assoc]
        exact dropped (List.forall_mem_append.mpr ⟨each, eachMore⟩) before
    _ = Lexer.scanFrom rules (.behind before run (more ++ rest)) := by
        rw [Cursor.behind_append]
        exact (dropped eachMore _).symm

/-- A text that is cut into tokens is scanned alike in front of a blank. -/
theorem scanFrom_append {tokens : List Token} {text run : List Char} (cut : Cut tokens text)
    (nonempty : run ≠ []) (each : ∀ c ∈ run, Text.isBlank c = true) (before further : List Char) :
    Lexer.scanFrom rules ⟨before, text ++ (run ++ further)⟩ =
      ⟨tokens ++ (Lexer.scanFrom rules (.behind before (text ++ run) further)).tokens,
        (Lexer.scanFrom rules (.behind before (text ++ run) further)).fault⟩ := by
  induction cut generalizing before with
  | nothing => exact scanFrom_blanks each before further
  | @token token tokens text visible spelled maximal rest ih =>
      -- Behind the lexeme comes what came there before, or else the blank.
      have maximal' : Maximal token.tag token.value.toList (text ++ (run ++ further)) := by
        cases text with
        | cons c text => exact maximal
        | nil =>
            have lexeme : IsLexeme token := ⟨visible, spelled⟩
            apply lexeme.maximal
            intro c c_head
            rcases List.exists_cons_of_ne_nil nonempty with ⟨blank, run, rfl⟩
            simp only [List.nil_append, List.cons_append, List.head?_cons,
              Option.mem_some_iff] at c_head
            subst c
            exact each blank (by simp)
      rw [List.append_assoc, scanFrom_of_spells spelled maximal' before, if_neg visible,
        Cursor.behind, ih]
      simp [Scan.cons, Cursor.behind]
  | @blanks blanks tokens text spelled maximal rest ih =>
      rw [List.append_assoc, scanFrom_blanks (isBlank_of_spells spelled) before, Cursor.behind, ih]
      simp [Cursor.behind]

/-- Behind a text that is scanned to its end and at least one blank, a further text gives the
tokens that it gives on its own, or stops at the same place of it. -/
theorem scan_append_blanks {first run second : String} {tokens : List Token}
    (succeeded : (Lexer.scan rules first).result = .ok tokens) (nonempty : run ≠ "")
    (each : ∀ c ∈ run.toList, Text.isBlank c = true) :
    (∀ others, (Lexer.scan rules second).result = .ok others →
        (Lexer.scan rules (first ++ run ++ second)).result = .ok (tokens ++ others)) ∧
      ∀ position, (Lexer.scan rules second).result = .error (.noRule position) →
        (Lexer.scan rules (first ++ run ++ second)).result =
          .error (.noRule (first.length + run.length + position)) := by
  have run_ne_nil : run.toList ≠ [] := by
    simpa using nonempty
  have whole := scanFrom_append (cut_of_scanned succeeded) run_ne_nil each [] second.toList
  rcases exists_scanned second.toList with ⟨found, front, rest, second_eq, scanned⟩
  have scan_second : Lexer.scan rules second =
      ⟨found, if rest = [] then none else some (.noRule (0 + front.length))⟩ := by
    rw [Lexer.scan, Cursor.start, second_eq]
    exact scanned.scan_eq []
  have scan_whole : Lexer.scan rules (first ++ run ++ second) =
      ⟨tokens ++ found, if rest = [] then none
        else some (.noRule (first.length + run.length + front.length))⟩ := by
    have position : ((first.toList ++ run.toList).reverse ++ []).length =
        first.length + run.length := by
      simp only [List.append_nil, List.length_reverse, List.length_append, String.length_toList]
    rw [Lexer.scan, Cursor.start, String.toList_append, String.toList_append, List.append_assoc,
      whole, Cursor.behind, second_eq, scanned.scan_eq, position]
  rw [scan_whole, scan_second]
  by_cases ended : rest = []
  · simp [ended, Scan.result]
  · simp [ended, Scan.result]

/-- The text `V1 <` with a tabulation behind it, then an em space, then `=2` or ` =2 .`, in which
the full stop is no lexeme. -/
theorem scan_append_blanks_shifted :
    let tokens : List Token := [⟨"V1", "VARIABLE"⟩, ⟨"<", "OPERATOR"⟩]
    let others : List Token := [⟨"=", "OPERATOR"⟩, ⟨"2", "NUMERIC"⟩]
    (Lexer.scan rules "V1 <\t").result = .ok tokens ∧
      (∀ c ∈ "\u2003".toList, Text.isBlank c = true) ∧
      (Lexer.scan rules "=2").result = .ok others ∧
      (Lexer.scan rules ("V1 <\t" ++ "\u2003" ++ "=2")).result = .ok (tokens ++ others) ∧
      (Lexer.scan rules " =2 .").result = .error (.noRule 4) ∧
      (Lexer.scan rules ("V1 <\t" ++ "\u2003" ++ " =2 .")).result = .error (.noRule 10) := by
  intro tokens others
  have scanned : (Lexer.scan rules "V1 <\t").result = .ok tokens := by decide +kernel
  have each : ∀ c ∈ "\u2003".toList, Text.isBlank c = true := by
    intro c c_mem
    have same : c = '\u2003' := List.mem_singleton.mp c_mem
    rw [same]
    decide
  have scannedToo : (Lexer.scan rules "=2").result = .ok others := by decide +kernel
  have stuck : (Lexer.scan rules " =2 .").result = .error (.noRule 4) := by decide +kernel
  exact ⟨scanned, each, scannedToo, (scan_append_blanks scanned (by decide) each).1 _ scannedToo,
    stuck, (scan_append_blanks scanned (by decide) each).2 _ stuck⟩

end Rpn.Reference
