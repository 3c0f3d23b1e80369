import Rpn.Proofs.NormalForm

/-!
# Which lines are comments

A line that starts with the comment mark is a comment. A reader looks for the mark in what trimming
leaves of the line, so it sees a comment only if trimming leaves the mark as it is. It does so on
every line if the mark has no blanks at its ends. A mark with a blank in front is never found, and
one with a blank behind is lost on the lines that hold nothing else. `Escapes` lists these two ways,
and `expression?_marked_eq_none_iff` says that there are no others.
-/

namespace Rpn

/-- Elements that are filtered out are not missed just if nothing comes of them. -/
theorem filterMap_eq_filterMap_filter_iff {α β : Type} {test : α → Bool} {make : α → Option β}
    {list : List α} :
    list.filterMap make = (list.filter test).filterMap make ↔
      ∀ a ∈ list, test a = false → make a = none := by
  constructor
  · intro same a a_mem fails
    by_contra made
    rcases Option.ne_none_iff_exists'.mp made with ⟨b, made⟩
    rcases List.append_of_mem a_mem with ⟨front, back, rfl⟩
    have front_le := (List.filter_sublist (p := test) (l := front)).filterMap make |>.length_le
    have back_le := (List.filter_sublist (p := test) (l := back)).filterMap make |>.length_le
    have lengths := congrArg List.length same
    simp only [List.filter_append, List.filter_cons_of_neg (ne_true_of_eq_false fails),
      List.filterMap_append, List.filterMap_cons_some made, List.length_append,
      List.length_cons] at lengths
    omega
  · intro unmade
    rw [List.filterMap_filter]
    apply List.filterMap_congr
    intro a a_mem
    cases passes : test a with
    | true => rfl
    | false => exact unmade a a_mem passes

namespace Text

theorem trim_eq_nil_iff {line : List Char} : trim line = [] ↔ ∀ c ∈ line, isBlank c = true := by
  rcases exists_trim line with ⟨front, back, line_eq, frontBlank, backBlank, trimmed⟩
  constructor
  · intro empty
    rw [line_eq, empty, List.nil_append]
    exact List.forall_mem_append.mpr ⟨frontBlank, backBlank⟩
  · intro blank
    by_contra nonempty
    have first_mem := List.head_mem nonempty
    have visible := trimmed.1 _ (List.head?_eq_some_head nonempty)
    have hidden := blank _ ((trimOff_sublist isBlank line).subset first_mem)
    rw [hidden] at visible
    contradiction

/-- A mark with a blank in front stands in front of nothing that was trimmed. -/
theorem not_marks_trim {mark line : List Char} {c : Char} (first : c ∈ mark.head?)
    (blank : isBlank c = true) : ¬ mark <+: trim line := by
  rintro ⟨rest, trim_eq⟩
  rcases exists_trim line with ⟨-, -, -, -, -, trimmed⟩
  have nonempty : mark ≠ [] := List.ne_nil_of_mem (List.mem_of_head? first)
  have first_trim : c ∈ (trim line).head? := by
    rwa [← trim_eq, List.head?_append_of_ne_nil _ nonempty]
  rw [trimmed.1 c first_trim] at blank
  contradiction

/-- Trimming takes nothing from the front of a line that starts with no blank. -/
theorem exists_trim_of_visible {line : List Char}
    (visible : ∀ c ∈ line.head?, isBlank c = false) :
    ∃ back, line = trim line ++ back ∧ (∀ c ∈ back, isBlank c = true) ∧ Trimmed (trim line) := by
  rcases exists_trim line with ⟨front, back, line_eq, frontBlank, backBlank, trimmed⟩
  cases front with
  | nil => exact ⟨back, line_eq, backBlank, trimmed⟩
  | cons c front =>
      have hidden := frontBlank c (by simp)
      rw [visible c (by rw [line_eq]; simp)] at hidden
      contradiction

theorem Trimmed.eq_nil_of_blank {front back : List Char} (trimmed : Trimmed (front ++ back))
    (blank : ∀ c ∈ back, isBlank c = true) : back = [] := by
  rcases List.eq_nil_or_concat back with empty | ⟨inner, c, rfl⟩
  · exact empty
  · have hidden := blank c (by simp)
    rw [trimmed.2 c (by simp [← List.append_assoc])] at hidden
    contradiction

/-- A mark with no blank in front is lost just if it ends with one and only blanks follow it. -/
theorem marks_trim_iff {mark rest : List Char} (visible : ∀ c ∈ mark.head?, isBlank c = false) :
    mark <+: trim (mark ++ rest) ↔
      ¬ ((∃ c ∈ mark.getLast?, isBlank c = true) ∧ ∀ c ∈ rest, isBlank c = true) := by
  by_cases empty : mark = []
  · simp [empty]
  have starts : ∀ c ∈ (mark ++ rest).head?, isBlank c = false := by
    rwa [List.head?_append_of_ne_nil _ empty]
  rcases exists_trim_of_visible starts with ⟨back, line_eq, backBlank, trimmed⟩
  generalize trim (mark ++ rest) = inner at line_eq trimmed ⊢
  constructor
  · rintro ⟨more, rfl⟩ ⟨⟨c, c_last, blank⟩, restBlank⟩
    rw [List.append_assoc] at line_eq
    rw [List.append_cancel_left line_eq] at restBlank
    have none_left := trimmed.eq_nil_of_blank (List.forall_mem_append.mp restBlank).1
    rw [none_left, List.append_nil] at trimmed
    rw [trimmed.2 c c_last] at blank
    contradiction
  · intro kept
    by_contra lost
    apply kept
    -- Both are fronts of the line, so what is left of it is a front of the mark.
    rcases List.prefix_or_prefix_of_prefix (List.prefix_append mark rest) ⟨back, line_eq.symm⟩
      with longer | ⟨cut, rfl⟩
    · exact absurd longer lost
    rw [List.append_assoc] at line_eq
    have back_eq := List.append_cancel_left line_eq
    have cutBlank : ∀ c ∈ cut ++ rest, isBlank c = true := by
      rwa [back_eq]
    rcases List.eq_nil_or_concat cut with rfl | ⟨front, d, rfl⟩
    · exact absurd (by simp) lost
    · refine ⟨⟨d, by simp [← List.append_assoc], cutBlank d (by simp)⟩, ?_⟩
      intro c c_mem
      exact cutBlank c (List.mem_append_right _ c_mem)

end Text

namespace Reader

open Text (Unbroken Trimmed isBlank)

/-- The expressions on the lines that do not start with the comment mark. -/
def uncommented (reader : Reader) (text : List Char) : List String :=
  ((Text.lines text).filter fun line => !reader.commentMark.toList.isPrefixOf line).filterMap
    reader.expression?

/-- The ways in which a line that starts with a comment mark is read as an expression: trimming
takes away the front of the mark, or its end together with all that follows it. -/
inductive Escapes (mark rest : List Char) : Prop where
  | front {c : Char} (first : c ∈ mark.head?) (blank : isBlank c = true)
      (shown : ∃ c ∈ mark ++ rest, isBlank c = false)
  | back {c : Char} (first : ∀ c ∈ mark.head?, isBlank c = false) (last : c ∈ mark.getLast?)
      (blank : isBlank c = true) (hidden : ∀ c ∈ rest, isBlank c = true)

variable {reader : Reader}

theorem expression?_eq_none_iff {line : List Char} :
    reader.expression? line = none ↔
      Text.trim line = [] ∨ reader.commentMark.toList <+: Text.trim line := by
  simp [expression?, Classical.or_iff_not_imp_left]

/-- A line that starts with the comment mark is passed over, unless it escapes. -/
theorem expression?_marked_eq_none_iff {rest : List Char} :
    reader.expression? (reader.commentMark.toList ++ rest) = none ↔
      ¬ Escapes reader.commentMark.toList rest := by
  generalize mark_eq : reader.commentMark.toList = mark
  rw [expression?_eq_none_iff, mark_eq]
  by_cases blankFront : ∃ c ∈ mark.head?, isBlank c = true
  · rcases blankFront with ⟨c, first, blank⟩
    rw [or_iff_left (Text.not_marks_trim first blank), Text.trim_eq_nil_iff]
    constructor
    · rintro allBlank (⟨-, -, d, d_mem, shown⟩ | ⟨visible, -, -, -⟩)
      · rw [allBlank d d_mem] at shown
        contradiction
      · rw [visible c first] at blank
        contradiction
    · intro caught c c_mem
      by_contra shown
      exact caught (.front first blank ⟨c, c_mem, by simpa using shown⟩)
  · have visible : ∀ c ∈ mark.head?, isBlank c = false := by
      simpa using blankFront
    have kept_of_nil : Text.trim (mark ++ rest) = [] → mark <+: Text.trim (mark ++ rest) := by
      intro empty
      cases mark with
      | nil => exact List.nil_prefix
      | cons c mark =>
          have blank := Text.trim_eq_nil_iff.mp empty c (by simp)
          rw [visible c (by simp)] at blank
          contradiction
    rw [or_iff_right_of_imp kept_of_nil, Text.marks_trim_iff visible, not_iff_not]
    constructor
    · rintro ⟨⟨c, last, blank⟩, hidden⟩
      exact .back visible last blank hidden
    · rintro (⟨first, blank, -⟩ | ⟨-, last, blank, hidden⟩)
      · exact absurd ⟨_, first, blank⟩ blankFront
      · exact ⟨⟨_, last, blank⟩, hidden⟩

theorem not_escapes_of_trimmed {mark rest : List Char} (trimmed : Trimmed mark) :
    ¬ Escapes mark rest := by
  rintro (⟨first, blank, -⟩ | ⟨-, last, blank, -⟩)
  · rw [trimmed.1 _ first] at blank
    contradiction
  · rw [trimmed.2 _ last] at blank
    contradiction

/-- A mark with a blank at one of its ends loses a line: itself, or itself with a letter behind. -/
theorem exists_escapes_of_not_trimmed {mark : List Char} (untrimmed : ¬ Trimmed mark) :
    ∃ rest, Unbroken rest ∧ mark ++ rest ≠ [] ∧ Escapes mark rest := by
  by_cases blankFront : ∃ c ∈ mark.head?, isBlank c = true
  · rcases blankFront with ⟨c, first, blank⟩
    exact ⟨['x'], by decide, by simp, .front first blank ⟨'x', by simp, by decide⟩⟩
  · have visible : ∀ c ∈ mark.head?, isBlank c = false := by
      simpa using blankFront
    have blankBack : ∃ c ∈ mark.getLast?, isBlank c = true := by
      by_contra none
      exact untrimmed ⟨visible, by simpa using none⟩
    rcases blankBack with ⟨c, last, blank⟩
    have nonempty : mark ≠ [] := List.ne_nil_of_mem (List.mem_of_getLast? last)
    exact ⟨[], by decide, by simpa using nonempty, .back visible last blank (by simp)⟩

theorem expressions_eq_iff_not_escapes {text : List Char} :
    reader.expressions text = reader.uncommented text ↔
      ∀ rest, reader.commentMark.toList ++ rest ∈ Text.lines text →
        ¬ Escapes reader.commentMark.toList rest := by
  rw [expressions, uncommented, filterMap_eq_filterMap_filter_iff]
  constructor
  · intro passed rest line_mem
    exact expression?_marked_eq_none_iff.mp (passed _ line_mem (by simp))
  · intro caught line line_mem marked
    have marked : reader.commentMark.toList <+: line := by
      simpa using marked
    rcases marked with ⟨rest, rfl⟩
    exact expression?_marked_eq_none_iff.mpr (caught rest line_mem)

theorem exists_text_of_readFirst {view : FileView} {path : Path} {count : Nat}
    {found : List String} (read : reader.readFirst count view path = .ok found) :
    ∃ text fault, reader.decodingAt view path = .ok ⟨text, fault⟩ ∧
      (found = (reader.expressions text).take count ∨
        found = (reader.expressions (Text.upToLastEnding text)).take count) := by
  unfold readFirst at read
  generalize reader.decodingAt view path = decoded at read ⊢
  rcases decoded with error | ⟨text, _ | error⟩
  · contradiction
  · exact ⟨text, none, rfl, .inl (Except.ok.inj read).symm⟩
  · simp only [Bool.and_eq_true, decide_eq_true_eq] at read
    split at read
    · exact ⟨text, error, rfl, .inr (Except.ok.inj read).symm⟩
    · contradiction

/-- No line that starts with the comment mark is read as an expression just if none of them escapes.
The marks for which none does, whatever the text, are those without blanks at their ends; with such
a mark all that is ever read, of a whole file or of its front, stands on other lines. -/
theorem expressions_eq_uncommented_iff (reader : Reader) :
    let mark := reader.commentMark.toList
    (∀ text, reader.expressions text = reader.uncommented text ↔
        ∀ rest, mark ++ rest ∈ Text.lines text → ¬ Escapes mark rest) ∧
      (Unbroken mark →
        ((∀ text, reader.expressions text = reader.uncommented text) ↔ Trimmed mark)) ∧
      (Trimmed mark → ∀ view path,
        (∀ expressions, reader.read view path = .ok expressions →
          ∃ text, reader.decodingAt view path = .ok ⟨text, none⟩ ∧
            expressions = reader.uncommented text) ∧
        ∀ count found, reader.readFirst count view path = .ok found →
          ∃ text fault, reader.decodingAt view path = .ok ⟨text, fault⟩ ∧
            (found = (reader.uncommented text).take count ∨
              found = (reader.uncommented (Text.upToLastEnding text)).take count)) := by
  intro mark
  have all_of_trimmed (trimmed : Trimmed mark) (text : List Char) :
      reader.expressions text = reader.uncommented text :=
    expressions_eq_iff_not_escapes.mpr fun _ _ => not_escapes_of_trimmed trimmed
  refine ⟨fun text => expressions_eq_iff_not_escapes, ?_, ?_⟩
  · intro unbroken
    refine ⟨?_, all_of_trimmed⟩
    intro all
    by_contra untrimmed
    rcases exists_escapes_of_not_trimmed untrimmed with ⟨rest, inside, nonempty, escapes⟩
    have lines_eq := Text.lines_of_unbroken (Text.unbroken_append.mpr ⟨unbroken, inside⟩) nonempty
    exact expressions_eq_iff_not_escapes.mp (all (mark ++ rest)) rest (by simp [lines_eq, mark])
      escapes
  · intro trimmed view path
    constructor
    · intro expressions read
      rcases read_eq_ok_iff.mp read with ⟨text, decoded, rfl⟩
      exact ⟨text, decoded, all_of_trimmed trimmed text⟩
    · intro count found read
      rcases exists_text_of_readFirst read with ⟨text, fault, decoded, whole | front⟩
      · exact ⟨text, fault, decoded, .inl (by rw [whole, all_of_trimmed trimmed])⟩
      · exact ⟨text, fault, decoded, .inr (by rw [front, all_of_trimmed trimmed])⟩

/-- A mark of two visible characters, in front of lines with blanks of several kinds. -/
theorem expressions_eq_uncommented_slashes :
    let reader : Reader := ⟨"utf-8", "//"⟩
    let text := "// 1\r\n//\u2003\n  // 2\n3 / 4 // 5\n"
    Unbroken "//".toList ∧ Trimmed "//".toList ∧
      reader.expressions text.toList = reader.uncommented text.toList ∧
      reader.read (fun _ => .ok (.file (.plain (Text.utf8Bytes text)))) (Path.ofString "in.txt") =
        .ok ["3 / 4 // 5"] := by
  intro reader text
  have unbroken : Unbroken reader.commentMark.toList := by decide
  have trimmed : Trimmed reader.commentMark.toList := by
    constructor <;> simp [reader] <;> decide
  have all := ((expressions_eq_uncommented_iff reader).2.1 unbroken).mpr trimmed
  refine ⟨unbroken, trimmed, all text.toList, ?_⟩
  have held : reader.expressions text.toList = ["3 / 4 // 5"] := by decide
  rw [← held]
  exact read_of_utf8 (by decide) (by decide) rfl

/-- The mark ends with a blank, so the line that holds nothing else is read as an expression. -/
theorem read_line_of_blank_mark :
    let reader : Reader := ⟨"utf-8", "# "⟩
    let text := "# \n1 + 2\n"
    "# ".toList ∈ Text.lines text.toList ∧ reader.commentMark.toList <+: "# ".toList ∧
      reader.uncommented text.toList = ["1 + 2"] ∧
      reader.read (fun _ => .ok (.file (.plain (Text.utf8Bytes text)))) (Path.ofString "in.txt") =
        .ok ["#", "1 + 2"] := by
  intro reader text
  refine ⟨by decide, by decide, by decide, ?_⟩
  have held : reader.expressions text.toList = ["#", "1 + 2"] := by decide
  rw [← held]
  exact read_of_utf8 (by decide) (by decide) rfl

end Reader

end Rpn
