import Mathlib.Data.List.Basic
import Rpn.Proofs.Lines
import Rpn.Proofs.Moves

/-!
# What is read does not depend on how it is written

A list of lines is written with any of the three endings behind each line, any blanks around it,
blank lines anywhere, and with or without an ending behind the last line. Whichever of these is
chosen, a reader finds the same expressions, because it drops the blanks and passes over the blank
lines, those included that appear or disappear where a carriage return meets a line feed.

Expressions are lines themselves, and they have no blanks around them and no comment mark in front.
So a text in which they are written holds the same expressions again.
-/

namespace Rpn

namespace Text

/-- What can end a line. -/
inductive Ending where
  | lineFeed
  | carriageReturn
  | both
  deriving DecidableEq, Repr

/-- The characters of an ending. -/
def Ending.chars : Ending → List Char
  | lineFeed => ['\n']
  | carriageReturn => ['\r']
  | both => ['\r', '\n']

/-- The characters are blanks that end no line. -/
def Padding (run : List Char) : Prop :=
  (∀ c ∈ run, isBlank c = true) ∧ Unbroken run

/-- The texts in which lines are written. -/
inductive Writes : List (List Char) → List Char → Prop where
  | nothing {run : List Char} (padding : Padding run) : Writes [] run
  | last {before line after : List Char} (front : Padding before) (unbroken : Unbroken line)
      (back : Padding after) : Writes [line] (before ++ (line ++ after))
  | line {before line after text : List Char} {lines : List (List Char)}
      (front : Padding before) (unbroken : Unbroken line) (back : Padding after)
      (ending : Ending) (rest : Writes lines text) :
      Writes (line :: lines) (before ++ (line ++ after) ++ (ending.chars ++ text))
  | blankLine {run text : List Char} {lines : List (List Char)} (padding : Padding run)
      (ending : Ending) (rest : Writes lines text) : Writes lines (run ++ (ending.chars ++ text))

instance (run : List Char) : Decidable (Padding run) :=
  decidable_of_iff (run.all isBlank = true ∧ Unbroken run) (by simp [Padding])

theorem padding_nil : Padding [] := by
  simp [Padding, Unbroken]

theorem unbroken_padded {before line after : List Char} (front : Padding before)
    (unbroken : Unbroken line) (back : Padding after) : Unbroken (before ++ (line ++ after)) :=
  unbroken_append.mpr ⟨front.2, unbroken_append.mpr ⟨unbroken, back.2⟩⟩

/-- A line and an ending behind it, without blanks around the line. -/
theorem Writes.ended {line text : List Char} {lines : List (List Char)} (unbroken : Unbroken line)
    (ending : Ending) (rest : Writes lines text) :
    Writes (line :: lines) (line ++ (ending.chars ++ text)) := by
  have written := Writes.line padding_nil unbroken padding_nil ending rest
  rwa [List.nil_append, List.append_nil] at written

theorem writes_linesAfter {current : List Char} (unbroken : Unbroken current) (text : List Char) :
    Writes (linesAfter current text) (current.reverse ++ text) := by
  have nothing : Unbroken [] := padding_nil.2
  fun_induction linesAfter current text with
  | case1 current empty =>
      rw [List.isEmpty_iff.mp empty]
      exact .nothing padding_nil
  | case2 current nonempty => exact .last padding_nil unbroken.reverse padding_nil
  | case3 current rest ih => exact .ended unbroken.reverse .both (ih nothing)
  | case4 current c rest other ending ih =>
      rcases ending with rfl | rfl
      · exact .ended unbroken.reverse .lineFeed (ih nothing)
      · exact .ended unbroken.reverse .carriageReturn (ih nothing)
  | case5 current c rest other inside ih =>
      have written := ih (unbroken_cons.mpr ⟨not_or.mp inside, unbroken⟩)
      rwa [List.reverse_cons, List.append_assoc, List.singleton_append] at written

/-- A text is one of those in which its lines are written. -/
theorem writes_lines (text : List Char) : Writes (lines text) text :=
  writes_linesAfter padding_nil.2 text

/-- An ending ends the line in front of it. Where it meets a line feed that was to end an empty
line, that line is lost. -/
theorem lines_append_ending {line : List Char} (unbroken : Unbroken line) (ending : Ending)
    (text : List Char) :
    ∃ rest, lines (line ++ (ending.chars ++ text)) = line :: rest ∧
      (lines text = rest ∨ lines text = [] :: rest) := by
  have begun : lines (line ++ (ending.chars ++ text)) =
      linesAfter line.reverse (ending.chars ++ text) := by
    rw [lines, linesAfter_append unbroken, List.append_nil]
  rw [begun]
  cases ending with
  | lineFeed => exact ⟨lines text, by simp [Ending.chars, linesAfter, lines], .inl rfl⟩
  | both => exact ⟨lines text, by simp [Ending.chars, linesAfter, lines], .inl rfl⟩
  | carriageReturn =>
      by_cases meets : ∃ rest, text = '\n' :: rest
      · rcases meets with ⟨rest, rfl⟩
        refine ⟨lines rest, by simp [Ending.chars, linesAfter, lines], .inr ?_⟩
        simp [lines, linesAfter]
      · refine ⟨lines text, ?_, .inl rfl⟩
        rw [Ending.chars, List.singleton_append, linesAfter]
        · simp [lines]
        · rintro rest - rfl
          exact meets ⟨rest, rfl⟩

/-- No blank stands at the ends. -/
def Trimmed (inner : List Char) : Prop :=
  (∀ c ∈ inner.head?, isBlank c = false) ∧ ∀ c ∈ inner.getLast?, isBlank c = false

/-- Blanks around a trimmed line are all that trimming drops. -/
theorem trim_eq {front inner back : List Char} (frontBlank : ∀ c ∈ front, isBlank c = true)
    (backBlank : ∀ c ∈ back, isBlank c = true) (trimmed : Trimmed inner) :
    trim (front ++ (inner ++ back)) = inner := by
  rw [trim, trimOff]
  by_cases empty : inner = []
  · have allBlank : (front ++ back).dropWhile isBlank = [] :=
      List.dropWhile_eq_nil_iff.mpr (List.forall_mem_append.mpr ⟨frontBlank, backBlank⟩)
    simp [empty, allBlank]
  · have frontStops : ∀ c ∈ (inner ++ back).head?, isBlank c = false := by
      rw [List.head?_append_of_ne_nil _ empty]
      exact trimmed.1
    have backStops : ∀ c ∈ inner.reverse.head?, isBlank c = false := by
      rw [List.head?_reverse]
      exact trimmed.2
    rw [dropWhile_append_eq frontBlank frontStops, List.reverse_append,
      dropWhile_append_eq (by simpa using backBlank) backStops, List.reverse_reverse]

theorem Trimmed.trim_eq {inner : List Char} (trimmed : Trimmed inner) : trim inner = inner := by
  have no_blank : ∀ c ∈ [], isBlank c = true := by simp
  have trim_eq := Text.trim_eq no_blank no_blank trimmed
  rwa [List.nil_append, List.append_nil] at trim_eq

/-- Every line is what trimming leaves, with blanks around it. -/
theorem exists_trim (line : List Char) :
    ∃ front back, line = front ++ (trim line ++ back) ∧ (∀ c ∈ front, isBlank c = true) ∧
      (∀ c ∈ back, isBlank c = true) ∧ Trimmed (trim line) := by
  rcases exists_split isBlank line with ⟨front, rest, line_eq, frontBlank, frontStops⟩
  rcases exists_split isBlank rest.reverse with ⟨back, inner, rest_eq, backBlank, backStops⟩
  have rest_eq : rest = inner.reverse ++ back.reverse := by
    rw [← List.reverse_append, ← rest_eq, List.reverse_reverse]
  subst rest line
  have backBlank : ∀ c ∈ back.reverse, isBlank c = true := by
    simpa using backBlank
  have trimmed : Trimmed inner.reverse := by
    constructor
    · intro c c_head
      have nonempty : inner.reverse ≠ [] := List.ne_nil_of_mem (List.mem_of_head? c_head)
      rw [List.head?_append_of_ne_nil _ nonempty] at frontStops
      exact frontStops c c_head
    · rwa [List.getLast?_reverse]
  rw [trim_eq frontBlank backBlank trimmed]
  exact ⟨front, back.reverse, rfl, frontBlank, backBlank, trimmed⟩

/-- More blanks around a line change nothing in what trimming leaves. -/
theorem trim_padded {before line after : List Char} (front : Padding before)
    (back : Padding after) : trim (before ++ (line ++ after)) = trim line := by
  rcases exists_trim line with ⟨lead, trail, line_eq, leadBlank, trailBlank, trimmed⟩
  have around : before ++ (line ++ after) =
      (before ++ lead) ++ (trim line ++ (trail ++ after)) := by
    conv_lhs => rw [line_eq]
    simp
  rw [around]
  exact trim_eq (List.forall_mem_append.mpr ⟨front.1, leadBlank⟩)
    (List.forall_mem_append.mpr ⟨trailBlank, back.1⟩) trimmed

/-- Texts on lines of their own, with a line feed behind the last one or without. -/
theorem writes_intercalate {texts : List String} (unbroken : ∀ text ∈ texts, Unbroken text.toList)
    {finish : String} (finished : finish ∈ ["", "\n"]) :
    Writes (texts.map String.toList) ("\n".intercalate texts ++ finish).toList := by
  have feed : "\n".toList = ['\n'] := by decide
  rw [String.toList_append]
  induction texts with
  | nil =>
      rcases List.mem_pair.mp finished with rfl | rfl
      · exact .nothing padding_nil
      · exact .blankLine padding_nil .lineFeed (.nothing padding_nil)
  | cons text texts ih =>
      rcases List.forall_mem_cons.mp unbroken with ⟨inside, unbroken⟩
      cases texts with
      | nil =>
          rw [String.intercalate_singleton]
          rcases List.mem_pair.mp finished with rfl | rfl
          · exact .last padding_nil inside padding_nil
          · exact .ended inside .lineFeed (.nothing padding_nil)
      | cons next texts =>
          rw [String.intercalate_cons_cons, String.toList_append, String.toList_append, feed,
            List.append_assoc, List.append_assoc]
          exact .ended inside .lineFeed (ih unbroken)

end Text

namespace Reader

open Text (Unbroken Padding Ending Writes Trimmed)

variable {reader : Reader}

/-- What a reader makes of a line that it does not pass over, by its comment mark. -/
structure IsNormal (mark : String) (expression : String) : Prop where
  nonempty : expression ≠ ""
  trimmed : Trimmed expression.toList
  unbroken : Unbroken expression.toList
  unmarked : ¬ mark.toList <+: expression.toList

/-- What is found in a text depends on the comment mark, and not on the encoding. -/
theorem expressions_congr {again : Reader} (same : again.commentMark = reader.commentMark) :
    again.expressions = reader.expressions := by
  funext text
  rw [expressions, expressions]
  congr 1
  funext line
  rw [expression?, expression?, same]

theorem isNormal_of_expression? {line : List Char} {expression : String}
    (unbroken : Unbroken line) (held : reader.expression? line = some expression) :
    IsNormal reader.commentMark expression := by
  rcases expression?_eq_some_iff.mp held with ⟨trim_eq, nonempty, unmarked⟩
  rcases Text.exists_trim line with ⟨-, -, -, -, -, trimmed⟩
  exact ⟨nonempty, trim_eq ▸ trimmed, unbroken_of_expression? unbroken held, unmarked⟩

theorem IsNormal.expression?_eq {expression : String}
    (normal : IsNormal reader.commentMark expression) :
    reader.expression? expression.toList = some expression :=
  expression?_eq_some_iff.mpr ⟨normal.trimmed.trim_eq, normal.nonempty, normal.unmarked⟩

theorem expression?_padded {before line after : List Char} (front : Padding before)
    (back : Padding after) :
    reader.expression? (before ++ (line ++ after)) = reader.expression? line := by
  rw [expression?, expression?, Text.trim_padded front back]

theorem expression?_padding {run : List Char} (padding : Padding run) :
    reader.expression? run = none := by
  have trim_eq : Text.trim (run ++ ([] ++ [])) = [] :=
    Text.trim_eq padding.1 (by simp) (by simp [Trimmed])
  rw [List.append_nil, List.append_nil] at trim_eq
  simp [expression?, trim_eq]

theorem expressions_of_unbroken {line : List Char} (unbroken : Unbroken line) :
    reader.expressions line = (reader.expression? line).toList := by
  by_cases empty : line = []
  · rw [empty, expression?_padding Text.padding_nil]
    rfl
  · rw [expressions, Text.lines_of_unbroken unbroken empty, List.filterMap_eq_flatMap_toList,
      List.flatMap_singleton]

theorem expressions_append_ending {line : List Char} (unbroken : Unbroken line) (ending : Ending)
    (text : List Char) :
    reader.expressions (line ++ (ending.chars ++ text)) =
      (reader.expression? line).toList ++ reader.expressions text := by
  rcases Text.lines_append_ending unbroken ending text with ⟨rest, lines_eq, kept | lost⟩
  · rw [expressions, lines_eq, expressions, kept]
    simp only [List.filterMap_eq_flatMap_toList, List.flatMap_cons]
  · rw [expressions, lines_eq, expressions, lost]
    simp only [List.filterMap_eq_flatMap_toList, List.flatMap_cons,
      expression?_padding Text.padding_nil, Option.toList_none, List.nil_append]

/-- Whatever way of writing the lines is chosen, their expressions are found. -/
theorem expressions_of_writes {lines : List (List Char)} {text : List Char}
    (writes : Writes lines text) :
    reader.expressions text = lines.filterMap reader.expression? := by
  rw [List.filterMap_eq_flatMap_toList]
  induction writes with
  | nothing padding =>
      rw [expressions_of_unbroken padding.2, expression?_padding padding]
      rfl
  | last front unbroken back =>
      rw [expressions_of_unbroken (Text.unbroken_padded front unbroken back),
        expression?_padded front back, List.flatMap_singleton]
  | line front unbroken back ending rest ih =>
      rw [expressions_append_ending (Text.unbroken_padded front unbroken back),
        expression?_padded front back, ih, List.flatMap_cons]
  | blankLine padding ending rest ih =>
      rw [expressions_append_ending padding.2, expression?_padding padding, ih]
      rfl

/-- The expressions are what trimming leaves of the lines, in their order. -/
theorem expressions_eq (reader : Reader) (text : List Char) :
    (reader.expressions text).map String.toList =
      ((Text.lines text).map Text.trim).filter fun inner =>
        !(inner.isEmpty || reader.commentMark.toList.isPrefixOf inner) := by
  rw [expressions]
  induction Text.lines text with
  | nil => rfl
  | cons line lines ih =>
      rw [List.filterMap_cons, List.map_cons, List.filter_cons, ← ih, expression?]
      by_cases dropped : ((Text.trim line).isEmpty ||
        reader.commentMark.toList.isPrefixOf (Text.trim line)) = true
      · simp [dropped]
      · simp [dropped]

/-- Expressions that are written on lines are found again. -/
theorem expressions_of_writes_normal {expressions : List String}
    (normal : ∀ expression ∈ expressions, IsNormal reader.commentMark expression) {text : List Char}
    (writes : Writes (expressions.map String.toList) text) :
    reader.expressions text = expressions := by
  have each : ∀ expression ∈ expressions,
      (reader.expression? ∘ String.toList) expression = some expression := by
    intro expression expression_mem
    exact (normal expression expression_mem).expression?_eq
  rw [expressions_of_writes writes, List.filterMap_map, List.filterMap_congr each,
    List.filterMap_some]

/-- Reading brings a text into a normal form: the expressions are trimmed, unbroken and no
comments, and stand in the order of the file. They depend only on what its lines hold, and not on
how the lines are written; and a file in which they are written themselves holds them again. -/
theorem read_normal_form {view : FileView} {path : Path} {text : List Char}
    (decoded : reader.decodingAt view path = .ok ⟨text, none⟩) :
    ∃ expressions, reader.read view path = .ok expressions ∧
      (∀ expression ∈ expressions, IsNormal reader.commentMark expression) ∧
      expressions.map String.toList = (((Text.lines text).map Text.trim).filter fun inner =>
        !(inner.isEmpty || reader.commentMark.toList.isPrefixOf inner)) ∧
      Writes (Text.lines text) text ∧
      ∀ again : Reader, again.commentMark = reader.commentMark →
        ∀ (otherView : FileView) (otherPath : Path),
          (∀ lines other, Writes lines text → Writes lines other →
            again.decodingAt otherView otherPath = .ok ⟨other, none⟩ →
              again.read otherView otherPath = .ok expressions) ∧
          ∀ finish ∈ ["", "\n"], Text.Encoding.ofName? again.encoding = some .utf8 →
            InputKind.ofFormat? otherPath.inputFormat = some .text →
              otherView.content otherPath =
                  .ok (.plain (Text.utf8Bytes ("\n".intercalate expressions ++ finish))) →
                again.read otherView otherPath = .ok expressions := by
  have normal : ∀ expression ∈ reader.expressions text, IsNormal reader.commentMark expression := by
    intro expression expression_mem
    rcases List.mem_filterMap.mp expression_mem with ⟨line, line_mem, held⟩
    exact isNormal_of_expression? (Text.unbroken_of_mem_lines line_mem) held
  refine ⟨reader.expressions text, read_eq_ok_iff.mpr ⟨text, decoded, rfl⟩, normal,
    reader.expressions_eq text, Text.writes_lines text, ?_⟩
  intro again same otherView otherPath
  constructor
  · intro lines other writes otherWrites otherDecoded
    refine read_eq_ok_iff.mpr ⟨other, otherDecoded, ?_⟩
    rw [expressions_congr same, expressions_of_writes writes, expressions_of_writes otherWrites]
  · intro finish finished named plain written
    have unbroken : ∀ expression ∈ reader.expressions text, Unbroken expression.toList :=
      fun expression expression_mem => (normal expression expression_mem).unbroken
    have writes := Text.writes_intercalate unbroken finished
    rw [read_of_utf8 named plain written, expressions_congr same,
      expressions_of_writes_normal normal writes]

/-- A text with all three endings, and blanks of other scripts that end no line. -/
theorem read_normal_form_mixed :
    let text := "\t1 + 2\r\n\r# none\r\u00853\u2028"
    let other := "1 + 2\n \n\n# none\r\n\x0C3 \r"
    let view (text : String) : FileView := fun _ => .ok (.file (.plain (Text.utf8Bytes text)))
    let path := Path.ofString "in.txt"
    let lines := ["1 + 2".toList, "# none".toList, "3".toList]
    standard.decodingAt (view text) path = .ok ⟨text.toList, none⟩ ∧
      Writes lines text.toList ∧ Writes lines other.toList ∧
      standard.read (view text) path = .ok ["1 + 2", "3"] ∧
      standard.read (view other) path = .ok ["1 + 2", "3"] ∧
      standard.read (view "1 + 2\n3\n") path = .ok ["1 + 2", "3"] := by
  intro text other view path lines
  have sum : Unbroken "1 + 2".toList := by decide
  have comment : Unbroken "# none".toList := by decide
  have three : Unbroken "3".toList := by decide
  have nothing : Padding [] := Text.padding_nil
  have space : Padding [' '] := by decide
  have tab : Padding ['\t'] := by decide
  have formFeed : Padding ['\x0C'] := by decide
  have nextLine : Padding ['\u0085'] := by decide
  have separator : Padding ['\u2028'] := by decide
  have writes : Writes lines text.toList := by
    have written : Writes lines _ :=
      .line tab sum nothing .both (.blankLine nothing .carriageReturn
        (.ended comment .carriageReturn (.last nextLine three separator)))
    refine (congrArg (Writes lines) ?_).mpr written
    decide
  have otherWrites : Writes lines other.toList := by
    have written : Writes lines _ :=
      .ended sum .lineFeed (.blankLine space .lineFeed (.blankLine nothing .lineFeed
        (.ended comment .both (.line formFeed three space .carriageReturn (.nothing nothing)))))
    refine (congrArg (Writes lines) ?_).mpr written
    decide
  have decoded (text : String) : standard.decodingAt (view text) path = .ok ⟨text.toList, none⟩ :=
    decodingAt_of_utf8 (by decide) (by decide) rfl
  have read : standard.read (view text) path = .ok ["1 + 2", "3"] :=
    read_eq_ok_iff.mpr ⟨text.toList, decoded text, by decide⟩
  rcases read_normal_form (decoded text) with ⟨expressions, found, -, -, -, again⟩
  rw [read, Except.ok.injEq] at found
  subst expressions
  rcases again standard rfl (view other) path with ⟨invariant, -⟩
  rcases again standard rfl (view "1 + 2\n3\n") path with ⟨-, restored⟩
  exact ⟨decoded text, writes, otherWrites, read,
    invariant lines other.toList writes otherWrites (decoded other),
    restored "\n" (by simp) (by decide) (by decide) rfl⟩

end Reader

end Rpn
