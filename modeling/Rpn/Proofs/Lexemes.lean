import Mathlib.Data.List.Nodup
import Rpn.Proofs.Taking
import Rpn.Reference

/-!
# The lexemes of the reference grammar

`Reference.Spells` lists the texts that each reference rule recognizes. The rules are told apart
by the first character (`starts`), so at most one of them matches at a place, and the order in
which they are tried does not matter. A rule takes a lexeme as a whole unless the next character
makes it longer. `Reference.scanFrom_of_spells` is the step of a scan that follows from this.
-/

namespace Rpn

namespace Text.CodeRange

/-- No code point lies in both tables. -/
def Apart (first second : List CodeRange) : Prop :=
  ∀ range ∈ first, ∀ other ∈ second, range.2 < other.1 ∨ other.2 < range.1

instance (first second : List CodeRange) : Decidable (Apart first second) :=
  inferInstanceAs (Decidable (∀ range ∈ first, ∀ other ∈ second, _))

theorem Apart.not_covers {first second : List CodeRange} (apart : Apart first second)
    {code : Nat} (covered : covers first code = true) : covers second code = false := by
  rw [← Bool.not_eq_true]
  intro coveredToo
  rcases (covers_iff first code).mp covered with ⟨range, range_mem, above, below⟩
  rcases (covers_iff second code).mp coveredToo with ⟨other, other_mem, otherAbove, otherBelow⟩
  rcases apart range range_mem other other_mem with less | less <;> omega

end Text.CodeRange

namespace Reference

open Text (CodeRange)

/-- The ranges of single characters. -/
def codes (chars : List Char) : List CodeRange :=
  chars.map fun c => (c.toNat, c.toNat)

theorem covers_codes {chars : List Char} {c : Char} :
    CodeRange.covers (codes chars) c.toNat = true ↔ c ∈ chars := by
  simp only [CodeRange.covers_iff, codes, List.mem_map]
  constructor
  · rintro ⟨_, ⟨d, d_mem, rfl⟩, above, below⟩
    have code_eq : d.toNat = c.toNat := Nat.le_antisymm above below
    rwa [← Char.toNat_inj.mp code_eq]
  · intro c_mem
    exact ⟨_, ⟨c, c_mem, rfl⟩, Nat.le_refl _, Nat.le_refl _⟩

theorem accepts_oneOf {chars : List Char} {c : Char} :
    (oneOf chars).accepts c = true ↔ c ∈ chars := by
  rw [← covers_codes]
  simp [oneOf, codes, CharSet.accepts, CharSet.lists, CharItem.holds, CodeRange.covers,
    List.any_map, Function.comp_def]

/-- Small letters and the low line. -/
def nameLetters : List CodeRange :=
  [(0x61, 0x7A), (0x5F, 0x5F)]

/-- The ten ASCII digits. -/
def asciiDigits : List CodeRange :=
  [(0x30, 0x39)]

/-- What stands between the marks of a string: a character other than a mark and a backslash, or
one of these two behind a backslash. -/
inductive StringPiece : List Char → Prop where
  | plain {c : Char} (other : c ∉ ['"', '\\']) : StringPiece [c]
  | escaped {c : Char} (special : c ∈ ['"', '\\']) : StringPiece ['\\', c]

/-- The texts of each tag. -/
inductive Spells : String → List Char → Prop where
  | quoted {pieces : List (List Char)} (nonempty : pieces ≠ [])
      (each : ∀ piece ∈ pieces, StringPiece piece) :
      Spells "STRING" ('"' :: (pieces.flatten ++ ['"']))
  | numbered {digits : List Char} (nonempty : digits ≠ [])
      (each : ∀ c ∈ digits, Text.isDigit c = true) : Spells "VARIABLE" ('V' :: digits)
  | named {letters digits : List Char} (nonempty : letters ≠ [])
      (eachLetter : ∀ c ∈ letters, CodeRange.covers nameLetters c.toNat = true)
      (eachDigit : ∀ c ∈ digits, CodeRange.covers asciiDigits c.toNat = true) :
      Spells "FUNCTION" (letters ++ digits)
  | number {digits : List Char} (nonempty : digits ≠ [])
      (each : ∀ c ∈ digits, Text.isDigit c = true) : Spells "NUMERIC" digits
  | separator : Spells "PARAM_SEPARATOR" [',']
  | opening : Spells "OPEN_BRACKET" ['(']
  | closing : Spells "CLOSE_BRACKET" [')']
  | operator {text : String} (listed : text ∈ operators.map (·.1)) :
      Spells "OPERATOR" text.toList
  | blanks {run : List Char} (nonempty : run ≠ []) (each : ∀ c ∈ run, Text.isBlank c = true) :
      Spells "SPACE" run

/-- The characters of the operators. -/
def operatorSigns : List Char :=
  ['<', '>', '=', '~', '%', '+', '-', '*', '/', '^', '&']

/-- The characters with which the texts of each tag begin. -/
def starts : List (String × List CodeRange) :=
  [("STRING", codes ['"']), ("VARIABLE", codes ['V']), ("FUNCTION", nameLetters),
   ("NUMERIC", Text.decimalDigits), ("PARAM_SEPARATOR", codes [',']),
   ("OPEN_BRACKET", codes ['(']), ("CLOSE_BRACKET", codes [')']),
   ("OPERATOR", codes operatorSigns),
   ("SPACE", Text.blanks)]

/-- Whether the texts of the tag may begin with the character. -/
def StartsWith (tag : String) (c : Char) : Prop :=
  ∃ table, (tag, table) ∈ starts ∧ CodeRange.covers table c.toNat = true

theorem starts_apart : ∀ entry ∈ starts, ∀ other ∈ starts,
    entry.1 ≠ other.1 → CodeRange.Apart entry.2 other.2 := by
  decide +kernel

/-- The first character decides on the tag. -/
theorem StartsWith.tag_eq {tag other : String} {c : Char} (begins : StartsWith tag c)
    (beginsToo : StartsWith other c) : tag = other := by
  rcases begins with ⟨table, table_mem, covered⟩
  rcases beginsToo with ⟨otherTable, other_mem, otherCovered⟩
  by_contra ne
  have apart := starts_apart _ table_mem _ other_mem ne
  simp [apart.not_covers covered] at otherCovered

theorem startsWith_of_mem {tag : String} {c : Char} (chars : List Char)
    (listed : (tag, codes chars) ∈ starts) (c_mem : c ∈ chars) : StartsWith tag c :=
  ⟨codes chars, listed, covers_codes.mpr c_mem⟩

theorem Spells.startsWith {tag : String} {chars : List Char} (spelled : Spells tag chars) :
    ∃ c ∈ chars.head?, StartsWith tag c := by
  cases spelled with
  | quoted nonempty each =>
      exact ⟨'"', by simp, startsWith_of_mem ['"'] (by simp [starts]) (by simp)⟩
  | numbered nonempty each =>
      exact ⟨'V', by simp, startsWith_of_mem ['V'] (by simp [starts]) (by simp)⟩
  | @named letters digits nonempty eachLetter eachDigit =>
      rcases List.exists_cons_of_ne_nil nonempty with ⟨c, letters, rfl⟩
      exact ⟨c, by simp, nameLetters, by simp [starts], eachLetter c (by simp)⟩
  | number nonempty each =>
      rcases List.exists_cons_of_ne_nil nonempty with ⟨c, digits, rfl⟩
      exact ⟨c, by simp, Text.decimalDigits, by simp [starts], each c (by simp)⟩
  | separator => exact ⟨',', by simp, startsWith_of_mem [','] (by simp [starts]) (by simp)⟩
  | opening => exact ⟨'(', by simp, startsWith_of_mem ['('] (by simp [starts]) (by simp)⟩
  | closing => exact ⟨')', by simp, startsWith_of_mem [')'] (by simp [starts]) (by simp)⟩
  | @operator text listed =>
      have heads : ∀ text ∈ operators.map (·.1),
          text.toList.head?.any operatorSigns.contains = true := by
        decide
      rcases (Option.any_eq_true _ _).mp (heads text listed) with ⟨c, c_head, c_mem⟩
      exact ⟨c, c_head, startsWith_of_mem operatorSigns (by simp [starts]) (by simpa using c_mem)⟩
  | blanks nonempty each =>
      rcases List.exists_cons_of_ne_nil nonempty with ⟨c, run, rfl⟩
      exact ⟨c, by simp, Text.blanks, by simp [starts], each c (by simp)⟩

theorem Spells.ne_nil {tag : String} {chars : List Char} (spelled : Spells tag chars) :
    chars ≠ [] := by
  rcases spelled.startsWith with ⟨c, c_head, -⟩
  rintro rfl
  simp at c_head

/-- The characters behind the first one with which the texts of each tag may end. -/
def endings : List (String × List CodeRange) :=
  [("STRING", codes ['"']), ("VARIABLE", Text.decimalDigits),
   ("FUNCTION", nameLetters ++ asciiDigits), ("NUMERIC", Text.decimalDigits),
   ("OPERATOR", codes ['>', '=']), ("SPACE", Text.blanks)]

theorem Spells.ends {tag : String} {chars : List Char} {c : Char}
    (spelled : Spells tag (chars ++ [c])) (nonempty : chars ≠ []) :
    ∃ table, (tag, table) ∈ endings ∧ CodeRange.covers table c.toNat = true := by
  have last_eq : (chars ++ [c]).getLast? = some c := by simp
  have longer : 1 < (chars ++ [c]).length := by
    have positive := List.length_pos_iff.mpr nonempty
    simpa using positive
  generalize chars ++ [c] = text at spelled last_eq longer
  cases spelled with
  | quoted _ _ =>
      refine ⟨codes ['"'], by simp [endings], covers_codes.mpr ?_⟩
      rw [← List.cons_append, List.getLast?_concat, Option.some.injEq] at last_eq
      simpa using last_eq.symm
  | @numbered digits digits_ne_nil each =>
      rw [List.getLast?_cons_of_ne_nil digits_ne_nil] at last_eq
      exact ⟨Text.decimalDigits, by simp [endings], each c (List.mem_of_getLast? last_eq)⟩
  | @named letters digits _ eachLetter eachDigit =>
      refine ⟨nameLetters ++ asciiDigits, by simp [endings], ?_⟩
      have c_mem := List.mem_of_getLast? last_eq
      simp only [CodeRange.covers, List.any_append, Bool.or_eq_true]
      exact (List.mem_append.mp c_mem).imp (eachLetter c) (eachDigit c)
  | number _ each =>
      exact ⟨Text.decimalDigits, by simp [endings], each c (List.mem_of_getLast? last_eq)⟩
  | separator | opening | closing => simp at longer
  | @operator text listed =>
      have lasts : ∀ text ∈ operators.map (·.1), 1 < text.toList.length →
          text.toList.getLast?.all ['>', '='].contains = true := by
        decide
      have c_mem := (Option.all_eq_true _ _).mp (lasts text listed longer) c last_eq
      exact ⟨codes ['>', '='], by simp [endings], covers_codes.mpr (by simpa using c_mem)⟩
  | blanks _ each =>
      exact ⟨Text.blanks, by simp [endings], each c (List.mem_of_getLast? last_eq)⟩

/-- The set of a pattern accepts the characters of a table. -/
def Accepts (set : CharSet) (table : List CodeRange) : Prop :=
  ∀ c : Char, set.accepts c = CodeRange.covers table c.toNat

theorem accepts_single (c : Char) : Accepts (.single c.toNat false) (codes [c]) := by
  intro d
  simp [CharSet.single, CharSet.accepts, CharSet.lists, CharItem.holds, codes, CodeRange.covers]

theorem accepts_nameLetters :
    Accepts ⟨[.range 0x61 0x7A, .range 0x5F 0x5F], false, false⟩ nameLetters := by
  intro c
  simp [CharSet.accepts, CharSet.lists, CharItem.holds, nameLetters, CodeRange.covers]

theorem accepts_asciiDigits : Accepts ⟨[.range 0x30 0x39], false, false⟩ asciiDigits := by
  intro c
  simp [CharSet.accepts, CharSet.lists, CharItem.holds, asciiDigits, CodeRange.covers]

theorem accepts_digits : Accepts ⟨[.named .digit false false], false, false⟩ Text.decimalDigits := by
  intro c
  simp [CharSet.accepts, CharSet.lists, CharItem.holds, CharKind.holds, Text.isDigit]

theorem accepts_blanks : Accepts ⟨[.named .blank false false], false, false⟩ Text.blanks := by
  intro c
  simp [CharSet.accepts, CharSet.lists, CharItem.holds, CharKind.holds, Text.isBlank]

/-- The expression for the characters of a text, one after the other. -/
def word (chars : List Char) : Regex :=
  .ofList (chars.map char)

theorem takes_char (c : Char) (rest : List Char) : (char c).Takes [c] rest :=
  Regex.takes_one ((accepts_single c c).trans (covers_codes.mpr (by simp))) rest

theorem refuses_char {c : Char} {text : List Char} (other : ∀ d ∈ text.head?, d ≠ c) :
    (char c).Refuses text := by
  apply Regex.refuses_one
  intro d d_head
  rw [accepts_single c d, ← Bool.not_eq_true, covers_codes]
  simpa using other d d_head

theorem takes_word (chars rest : List Char) : (word chars).Takes chars rest := by
  induction chars with
  | nil => exact fun before groups => ⟨groups, fun goal found reached => reached⟩
  | cons c chars ih =>
      cases chars with
      | nil => exact takes_char c rest
      | cons d chars => exact (takes_char c _).sequence ih

theorem refuses_word {chars text : List Char} (absent : ¬ chars <+: text) :
    (word chars).Refuses text := by
  induction chars generalizing text with
  | nil => exact absurd List.nil_prefix absent
  | cons c chars ih =>
      have refuses_of_other (other : ∀ d ∈ text.head?, d ≠ c) : (word (c :: chars)).Refuses text := by
        cases chars with
        | nil => exact refuses_char other
        | cons d chars => exact (refuses_char other).sequence _
      cases text with
      | nil => exact refuses_of_other (by simp)
      | cons d text =>
          by_cases same : d = c
          · subst same
            rw [List.cons_prefix_cons] at absent
            cases chars with
            | nil => simp at absent
            | cons e chars => exact (ih (by simpa using absent)).behind_one _
          · exact refuses_of_other (by simpa using same)

/-- The operators in the order in which their pattern tries them. -/
def operatorTexts : List String :=
  ["<>", "~", "%", "+", "-", "*", "/", "^", ">=", "<=", ">", "<", "=", "&"]

theorem regex_operatorPattern :
    operatorPattern.regex = .capture 1 (.anyOf (operatorTexts.map fun text => word text.toList)) :=
  rfl

theorem mem_operatorTexts {text : String} :
    text ∈ operatorTexts ↔ text ∈ operators.map (·.1) := by
  have perm : operatorTexts.Perm (operators.map (·.1)) := by decide
  exact perm.mem_iff

theorem operator_length : ∀ text ∈ operators.map (·.1),
    1 ≤ text.toList.length ∧ text.toList.length ≤ 2 := by
  decide

/-- An operator is tried before each operator that it starts with. -/
theorem operatorTexts_longest_first :
    operatorTexts.Pairwise fun earlier later => ¬ earlier.toList <+: later.toList := by
  decide

theorem refuses_set {set : CharSet} {tag : String} {table : List CodeRange} {text : List Char}
    (accepts : Accepts set table) (listed : (tag, table) ∈ starts)
    (other : ∀ c ∈ text.head?, ¬ StartsWith tag c) : (Regex.one set).Refuses text := by
  apply Regex.refuses_one
  intro c c_head
  rw [accepts c, ← Bool.not_eq_true]
  exact fun covered => other c c_head ⟨table, listed, covered⟩

/-- A rule refuses where none of its texts begins. -/
theorem refuses_of_not_startsWith {rule : Rule} (rule_mem : rule ∈ rules) {text : List Char}
    (other : ∀ c ∈ text.head?, ¬ StartsWith rule.tag c) : rule.pattern.regex.Refuses text := by
  have refuses_char_of {tag : String} (c : Char) (listed : (tag, codes [c]) ∈ starts)
      (other : ∀ d ∈ text.head?, ¬ StartsWith tag d) : (char c).Refuses text :=
    refuses_set (accepts_single c) listed other
  simp only [rules, List.mem_cons, List.not_mem_nil, or_false] at rule_mem
  rcases rule_mem with rfl | rfl | rfl | rfl | rfl | rfl | rfl | rfl | rfl
  · exact (refuses_char_of '"' (by simp [starts]) other).sequence _
  · exact (refuses_char_of 'V' (by simp [starts]) other).sequence _
  · exact ((refuses_set accepts_nameLetters (by simp [starts]) other).repetition 0).sequence _
  · exact (refuses_set accepts_digits (by simp [starts]) other).repetition 0
  · exact refuses_char_of ',' (by simp [starts]) other
  · exact refuses_char_of '(' (by simp [starts]) other
  · exact refuses_char_of ')' (by simp [starts]) other
  · rw [show (Rule.mk operatorPattern "OPERATOR" none).pattern = operatorPattern from rfl,
      regex_operatorPattern]
    refine (Regex.refuses_anyOf (by simp [operatorTexts]) fun regex regex_mem => ?_).capture 1
    rcases List.mem_map.mp regex_mem with ⟨operator, operator_mem, rfl⟩
    apply refuses_word
    intro starts_text
    rcases (Spells.operator (mem_operatorTexts.mp operator_mem)).startsWith with
      ⟨c, c_head, begins⟩
    rcases starts_text with ⟨rest, rfl⟩
    exact other c (by simp [List.head?_append, Option.mem_def.mp c_head]) begins
  · exact (refuses_set accepts_blanks (by simp [starts]) other).repetition 0

/-- No character behind the text makes a longer lexeme of it. -/
def Maximal (tag : String) (chars rest : List Char) : Prop :=
  ∀ c ∈ rest.head?, ¬ Spells tag (chars ++ [c])

theorem takes_many {set : CharSet} {table : List CodeRange} {run rest : List Char}
    (accepts : Accepts set table) (nonempty : run ≠ [])
    (each : ∀ c ∈ run, CodeRange.covers table c.toNat = true)
    (stops : ∀ c ∈ rest.head?, CodeRange.covers table c.toNat = false) :
    (many (.one set)).Takes run rest := by
  rcases List.exists_cons_of_ne_nil nonempty with ⟨first, run, rfl⟩
  have accepted : ∀ c ∈ [first] ++ run, set.accepts c = true :=
    fun c c_mem => (accepts c).trans (each c c_mem)
  exact Regex.takes_run accepted fun c c_head => (accepts c).trans (stops c c_head)

theorem takes_any {set : CharSet} {table : List CodeRange} {run rest : List Char}
    (accepts : Accepts set table)
    (each : ∀ c ∈ run, CodeRange.covers table c.toNat = true)
    (stops : ∀ c ∈ rest.head?, CodeRange.covers table c.toNat = false) :
    (any (.one set)).Takes run rest := by
  have accepted : ∀ c ∈ [] ++ run, set.accepts c = true :=
    fun c c_mem => (accepts c).trans (each c c_mem)
  exact Regex.takes_run accepted fun c c_head => (accepts c).trans (stops c c_head)

/-- The expression for a piece of a string. -/
def stringPiece : Regex :=
  .choice (.one { oneOf ['"', '\\'] with negated := true })
    (.sequence (char '\\') (.one (oneOf ['"', '\\'])))

theorem accepts_not_oneOf {chars : List Char} {c : Char} :
    CharSet.accepts { oneOf chars with negated := true } c = true ↔ c ∉ chars := by
  rw [← accepts_oneOf]
  simp [CharSet.accepts, CharSet.lists, oneOf]

theorem takes_stringPiece {piece : List Char} (spelled : StringPiece piece) (rest : List Char) :
    stringPiece.Takes piece rest := by
  cases spelled with
  | plain other => exact (Regex.takes_one (accepts_not_oneOf.mpr other) rest).choice_first _
  | @escaped c special =>
      refine .choice_second (Regex.refuses_one fun d d_head => ?_) ?_
      · simp only [List.cons_append, List.head?_cons, Option.mem_some_iff] at d_head
        rw [← Bool.not_eq_true, accepts_not_oneOf]
        simp [← d_head]
      · exact (takes_char '\\' _).sequence (Regex.takes_one (accepts_oneOf.mpr special) rest)

theorem refuses_stringPiece (rest : List Char) : stringPiece.Refuses ('"' :: rest) := by
  refine (Regex.refuses_one fun c c_head => ?_).choice ((refuses_char ?_).sequence _)
  · simp only [List.head?_cons, Option.mem_some_iff] at c_head
    rw [← Bool.not_eq_true, accepts_not_oneOf]
    simp [← c_head]
  · simp

theorem takes_stringPattern {pieces : List (List Char)} (nonempty : pieces ≠ [])
    (each : ∀ piece ∈ pieces, StringPiece piece) (rest : List Char) :
    stringPattern.regex.Takes ('"' :: (pieces.flatten ++ ['"'])) rest := by
  rcases List.exists_cons_of_ne_nil nonempty with ⟨first, later, rfl⟩
  have eachTakes : ∀ piece ∈ [first] ++ later, ∀ rest, stringPiece.Takes piece rest :=
    fun piece piece_mem => takes_stringPiece (each piece piece_mem)
  have eachNonempty : ∀ piece ∈ later, piece ≠ [] := by
    intro piece piece_mem
    cases each piece (by simp [piece_mem]) with
    | plain _ | escaped _ => simp
  have takesPieces := Regex.takes_repetition eachTakes eachNonempty (refuses_stringPiece rest)
  simp only [List.flatten_cons, List.flatten_nil, List.append_nil] at takesPieces ⊢
  exact (takes_char '"' _).sequence (takesPieces.sequence (takes_char '"' rest))

theorem Maximal.stops {tag : String} {chars rest : List Char} {table : List CodeRange}
    (maximal : Maximal tag chars rest)
    (longer : ∀ c : Char, CodeRange.covers table c.toNat = true → Spells tag (chars ++ [c])) :
    ∀ c ∈ rest.head?, CodeRange.covers table c.toNat = false := by
  intro c c_head
  rw [← Bool.not_eq_true]
  exact fun covered => maximal c c_head (longer c covered)

theorem takes_functionPattern {letters digits rest : List Char} (nonempty : letters ≠ [])
    (eachLetter : ∀ c ∈ letters, CodeRange.covers nameLetters c.toNat = true)
    (eachDigit : ∀ c ∈ digits, CodeRange.covers asciiDigits c.toNat = true)
    (maximal : Maximal "FUNCTION" (letters ++ digits) rest) :
    functionPattern.regex.Takes (letters ++ digits) rest := by
  refine (takes_many accepts_nameLetters nonempty eachLetter ?_).sequence
    (takes_any accepts_asciiDigits eachDigit ?_)
  · cases digits with
    | nil =>
        apply maximal.stops
        intro c covered
        have longer : Spells "FUNCTION" ((letters ++ [c]) ++ []) :=
          .named (by simp) (List.forall_mem_append.mpr ⟨eachLetter, List.forall_mem_singleton.mpr covered⟩)
            (by simp)
        simpa using longer
    | cons digit digits =>
        intro c c_head
        simp only [List.cons_append, List.head?_cons, Option.mem_some_iff] at c_head
        subst c_head
        have apart : CodeRange.Apart asciiDigits nameLetters := by decide
        exact apart.not_covers (eachDigit digit (by simp))
  · refine maximal.stops fun c covered => ?_
    rw [List.append_assoc]
    exact .named nonempty eachLetter
      (List.forall_mem_append.mpr ⟨eachDigit, List.forall_mem_singleton.mpr covered⟩)

/-- An operator that does not start this one does not start the text with this one in front: it
would be this one with the next character behind it. -/
theorem not_prefix_of_maximal {text other : String} {rest : List Char}
    (listed : text ∈ operators.map (·.1)) (otherListed : other ∈ operators.map (·.1))
    (maximal : Maximal "OPERATOR" text.toList rest)
    (absent : ¬ other.toList <+: text.toList) : ¬ other.toList <+: text.toList ++ rest := by
  intro isPrefix
  rcases List.prefix_or_prefix_of_prefix isPrefix (List.prefix_append text.toList rest) with
    within | ⟨more, other_eq⟩
  · exact absent within
  · have longest := operator_length other otherListed
    have shortest := operator_length text listed
    rw [← other_eq, List.prefix_append_right_inj] at isPrefix
    rw [← other_eq, List.length_append] at longest
    -- No operator is two characters longer than another one.
    match more, other_eq with
    | [], other_eq => exact absent ⟨[], by simpa using other_eq.symm⟩
    | [c], other_eq =>
        apply maximal c
        · rcases isPrefix with ⟨later, rfl⟩
          simp
        · exact other_eq ▸ .operator otherListed
    | _ :: _ :: _, _ =>
        simp only [List.length_cons] at longest
        omega

theorem takes_operatorPattern {text : String} {rest : List Char}
    (listed : text ∈ operators.map (·.1)) (maximal : Maximal "OPERATOR" text.toList rest) :
    operatorPattern.regex.Takes text.toList rest := by
  rcases List.append_of_mem (mem_operatorTexts.mpr listed) with ⟨earlier, later, texts_eq⟩
  have longestFirst := operatorTexts_longest_first
  rw [texts_eq, List.pairwise_append] at longestFirst
  have refuses : ∀ regex ∈ earlier.map fun text => word text.toList,
      regex.Refuses (text.toList ++ rest) := by
    intro regex regex_mem
    rcases List.mem_map.mp regex_mem with ⟨other, other_mem, rfl⟩
    have otherListed := mem_operatorTexts.mp (texts_eq ▸ List.mem_append_left _ other_mem)
    have absent := longestFirst.2.2 other other_mem text (by simp)
    exact refuses_word (not_prefix_of_maximal listed otherListed maximal absent)
  rw [regex_operatorPattern, texts_eq, List.map_append, List.map_cons]
  exact (Regex.takes_anyOf refuses (takes_word _ rest)).capture 1

theorem takes_of_spells {tag : String} {chars rest : List Char} (spelled : Spells tag chars)
    (maximal : Maximal tag chars rest) :
    ∃ rule ∈ rules, rule.tag = tag ∧ rule.pattern.regex.Takes chars rest := by
  cases spelled with
  | quoted nonempty each =>
      exact ⟨⟨stringPattern, "STRING", none⟩, by simp [rules], rfl,
        takes_stringPattern nonempty each rest⟩
  | numbered nonempty each =>
      refine ⟨⟨variablePattern, "VARIABLE", none⟩, by simp [rules], rfl, ?_⟩
      refine (takes_char 'V' _).sequence (takes_many accepts_digits nonempty each ?_)
      exact maximal.stops fun c covered => .numbered (by simp)
        (List.forall_mem_append.mpr ⟨each, List.forall_mem_singleton.mpr covered⟩)
  | named nonempty eachLetter eachDigit =>
      exact ⟨⟨functionPattern, "FUNCTION", none⟩, by simp [rules], rfl,
        takes_functionPattern nonempty eachLetter eachDigit maximal⟩
  | number nonempty each =>
      refine ⟨⟨numericPattern, "NUMERIC", none⟩, by simp [rules], rfl, ?_⟩
      refine takes_many accepts_digits nonempty each ?_
      exact maximal.stops fun c covered => .number (by simp)
        (List.forall_mem_append.mpr ⟨each, List.forall_mem_singleton.mpr covered⟩)
  | separator =>
      exact ⟨⟨separatorPattern, "PARAM_SEPARATOR", none⟩, by simp [rules], rfl, takes_char ',' rest⟩
  | opening =>
      exact ⟨⟨openPattern, "OPEN_BRACKET", none⟩, by simp [rules], rfl, takes_char '(' rest⟩
  | closing =>
      exact ⟨⟨closePattern, "CLOSE_BRACKET", none⟩, by simp [rules], rfl, takes_char ')' rest⟩
  | operator listed =>
      exact ⟨⟨operatorPattern, "OPERATOR", none⟩, by simp [rules], rfl,
        takes_operatorPattern listed maximal⟩
  | blanks nonempty each =>
      refine ⟨⟨spacePattern, "SPACE", some Rule.discard⟩, by simp [rules], rfl, ?_⟩
      refine takes_many accepts_blanks nonempty each ?_
      exact maximal.stops fun c covered => .blanks (by simp)
        (List.forall_mem_append.mpr ⟨each, List.forall_mem_singleton.mpr covered⟩)

theorem tags_nodup : (rules.map (·.tag)).Nodup := by
  decide

/-- A rule of another tag refuses a lexeme. -/
theorem Spells.refuses {tag : String} {chars : List Char} (spelled : Spells tag chars)
    {rule : Rule} (rule_mem : rule ∈ rules) (other : rule.tag ≠ tag) (rest : List Char) :
    rule.pattern.regex.Refuses (chars ++ rest) := by
  rcases spelled.startsWith with ⟨c, c_head, begins⟩
  apply refuses_of_not_startsWith rule_mem
  intro d d_head beginsToo
  rw [List.head?_append, Option.mem_def.mp c_head, Option.some_or, Option.mem_some_iff] at d_head
  subst d_head
  exact other (beginsToo.tag_eq begins)

/-- In front of a lexeme that the next character does not make longer, the rule of its tag is the
first that matches, wherever it stands in the order, and its match is the lexeme. -/
theorem firstMatch?_of_spells {tag : String} {chars rest : List Char}
    (spelled : Spells tag chars) (maximal : Maximal tag chars rest) (before : List Char) :
    ∃ rule ∈ rules, rule.tag = tag ∧ ∃ found,
      Lexer.firstMatch? rules ⟨before, chars ++ rest⟩ = some (rule, found) ∧
        found.first = ⟨before, chars ++ rest⟩ ∧ found.last = .behind before chars rest := by
  rcases takes_of_spells spelled maximal with ⟨rule, rule_mem, rfl, takes⟩
  rcases Pattern.match?_of_takes takes before with ⟨found, matched, first_eq, last_eq⟩
  have consumes : found.consumes = true := by
    rw [Match.consumes, first_eq, last_eq]
    exact Cursor.isBefore_behind spelled.ne_nil before rest
  refine ⟨rule, rule_mem, rfl, found, ?_, first_eq, last_eq⟩
  rcases List.append_of_mem rule_mem with ⟨earlier, later, rules_eq⟩
  refine List.findSome?_eq_some_iff.mpr ⟨earlier, rule, later, rules_eq, ?_, ?_⟩
  · simp [Rule.match?, matched, consumes]
  · intro other other_mem
    have distinct := tags_nodup
    rw [rules_eq, List.map_append, List.map_cons, List.nodup_append] at distinct
    have tag_ne : other.tag ≠ rule.tag :=
      distinct.2.2 other.tag (List.mem_map_of_mem other_mem) rule.tag (by simp)
    have listed : other ∈ rules := rules_eq ▸ List.mem_append_left _ other_mem
    simp [Rule.match?, Pattern.match?_of_refuses (spelled.refuses listed tag_ne rest) before]

theorem apply_of_mem {rule : Rule} (rule_mem : rule ∈ rules) (found : Match) :
    rule.apply found = if rule.tag = "SPACE" then .dropped else .value found.text := by
  simp only [rules, List.mem_cons, List.not_mem_nil, or_false] at rule_mem
  rcases rule_mem with rfl | rfl | rfl | rfl | rfl | rfl | rfl | rfl | rfl <;> rfl

/-- A scan takes a lexeme as one token, or drops it if it is a run of blanks. -/
theorem scanFrom_of_spells {tag : String} {chars rest : List Char} (spelled : Spells tag chars)
    (maximal : Maximal tag chars rest) (before : List Char) :
    Lexer.scanFrom rules ⟨before, chars ++ rest⟩ =
      if tag = "SPACE" then Lexer.scanFrom rules (.behind before chars rest)
      else .cons ⟨String.ofList chars, tag⟩
        (Lexer.scanFrom rules (.behind before chars rest)) := by
  rcases firstMatch?_of_spells spelled maximal before with
    ⟨rule, rule_mem, rfl, found, first, first_eq, last_eq⟩
  have more : chars ++ rest ≠ [] := by
    simp [spelled.ne_nil]
  have text_eq : found.text = String.ofList chars := by
    rw [Match.text, Match.chars, first_eq, last_eq, Cursor.textUntil_behind]
  rw [Lexer.scanFrom_of_ne_nil rules more, first]
  simp only [apply_of_mem rule_mem, text_eq, last_eq]
  by_cases blank : rule.tag = "SPACE" <;> simp [blank]

/-- The tokens into which a text is cut: lexemes that the next character does not make longer, the
runs of blanks among them being left out. -/
inductive Cut : List Token → List Char → Prop where
  | nothing : Cut [] []
  | token {token : Token} {tokens : List Token} {text : List Char} (visible : token.tag ≠ "SPACE")
      (spelled : Spells token.tag token.value.toList)
      (maximal : Maximal token.tag token.value.toList text) (rest : Cut tokens text) :
      Cut (token :: tokens) (token.value.toList ++ text)
  | blanks {run : List Char} {tokens : List Token} {text : List Char}
      (spelled : Spells "SPACE" run) (maximal : Maximal "SPACE" run text)
      (rest : Cut tokens text) : Cut tokens (run ++ text)

/-- A scan finds the tokens into which the text is cut. -/
theorem scanFrom_of_cut {tokens : List Token} {text : List Char} (cut : Cut tokens text)
    (before : List Char) : Lexer.scanFrom rules ⟨before, text⟩ = ⟨tokens, none⟩ := by
  induction cut generalizing before with
  | nothing => simp [Lexer.scanFrom, Scan.complete]
  | token visible spelled maximal rest ih =>
      rw [scanFrom_of_spells spelled maximal before, if_neg visible, Cursor.behind, ih]
      simp [Scan.cons]
  | blanks spelled maximal rest ih =>
      rw [scanFrom_of_spells spelled maximal before, if_pos rfl, Cursor.behind, ih]

end Reference

end Rpn
