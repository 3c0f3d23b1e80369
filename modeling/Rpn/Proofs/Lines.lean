import Rpn.Proofs.Decoding
import Rpn.Reader

/-!
# Lines and their endings

A line that holds no ending of its own is unbroken. The lines of every text are unbroken, and so is
what is left of a line when blanks are dropped, so no expression that is read holds a line ending.
Conversely, unbroken lines that are written with a line feed behind each of them are the lines of
what is written.
-/

namespace Rpn

namespace Text

/-- No character of the line ends one. -/
def Unbroken (line : List Char) : Prop :=
  ∀ c ∈ line, c ≠ '\n' ∧ c ≠ '\r'

instance (line : List Char) : Decidable (Unbroken line) :=
  decidable_of_iff (line.all fun c => c != '\n' && c != '\r') (by simp [Unbroken])

theorem unbroken_append {first second : List Char} :
    Unbroken (first ++ second) ↔ Unbroken first ∧ Unbroken second :=
  List.forall_mem_append

theorem unbroken_cons {c : Char} {line : List Char} :
    Unbroken (c :: line) ↔ (c ≠ '\n' ∧ c ≠ '\r') ∧ Unbroken line :=
  List.forall_mem_cons

theorem Unbroken.subset {line other : List Char} (unbroken : Unbroken line)
    (within : other ⊆ line) : Unbroken other :=
  fun c c_mem => unbroken c (within c_mem)

theorem Unbroken.reverse {line : List Char} (unbroken : Unbroken line) : Unbroken line.reverse :=
  unbroken.subset (List.reverse_subset.mpr (List.Subset.refl line))

theorem linesAfter_unbroken {current : List Char} (unbroken : Unbroken current)
    (text : List Char) : ∀ line ∈ linesAfter current text, Unbroken line := by
  have nothing : Unbroken [] := by simp [Unbroken]
  fun_induction linesAfter current text with
  | case1 current empty => simp
  | case2 current nonempty => simpa using unbroken.reverse
  | case3 current rest ih => exact List.forall_mem_cons.mpr ⟨unbroken.reverse, ih nothing⟩
  | case4 current c rest other ending ih =>
      exact List.forall_mem_cons.mpr ⟨unbroken.reverse, ih nothing⟩
  | case5 current c rest other inside ih =>
      exact ih (unbroken_cons.mpr ⟨not_or.mp inside, unbroken⟩)

theorem unbroken_of_mem_lines {text line : List Char} (line_mem : line ∈ lines text) :
    Unbroken line :=
  linesAfter_unbroken (by simp [Unbroken]) text line line_mem

/-- Characters that end no line go to the line that has begun. -/
theorem linesAfter_append {line : List Char} (unbroken : Unbroken line)
    (current rest : List Char) :
    linesAfter current (line ++ rest) = linesAfter (line.reverse ++ current) rest := by
  induction line generalizing current with
  | nil => rfl
  | cons c line ih =>
      rcases unbroken_cons.mp unbroken with ⟨inside, unbroken⟩
      have step : linesAfter current (c :: (line ++ rest)) =
          linesAfter (c :: current) (line ++ rest) := by
        rw [linesAfter]
        · simp [inside]
        · rintro rest' rfl
          exact absurd rfl inside.2
      rw [List.cons_append, step, ih unbroken]
      simp

/-- A text without an ending is one line. -/
theorem lines_of_unbroken {line : List Char} (unbroken : Unbroken line) (nonempty : line ≠ []) :
    lines line = [line] := by
  have begun := linesAfter_append unbroken [] []
  rw [List.append_nil, List.append_nil, ← lines] at begun
  simp [begun, linesAfter, nonempty]

theorem toList_intercalate_cons (separator piece : String) (back : List String) :
    (separator.intercalate (piece :: back)).toList =
      piece.toList ++ back.flatMap fun other => separator.toList ++ other.toList := by
  induction back generalizing piece with
  | nil => simp
  | cons next back ih =>
      rw [String.intercalate_cons_cons, String.toList_append, ih]
      simp

theorem toList_intercalate (separator : String) (front : List String) (piece : String)
    (back : List String) :
    (separator.intercalate (front ++ piece :: back)).toList =
      front.flatMap (fun other => other.toList ++ separator.toList) ++
        (piece.toList ++ back.flatMap fun other => separator.toList ++ other.toList) := by
  induction front with
  | nil => exact toList_intercalate_cons separator piece back
  | cons first front ih =>
      have more : front ++ piece :: back ≠ [] := by simp
      rw [List.cons_append, String.intercalate_cons_of_ne_nil more, String.toList_append, ih]
      simp

theorem trimOff_sublist (drops : Char → Bool) (chars : List Char) :
    (trimOff drops chars).Sublist chars := by
  have back := List.dropWhile_sublist (l := (chars.dropWhile drops).reverse) drops
  have front := List.dropWhile_sublist (l := chars) drops
  rw [← List.reverse_sublist, List.reverse_reverse] at back
  exact back.trans front

end Text

namespace Reader

open Text (Unbroken)

/-- A line holds what trimming leaves of it, unless that is nothing or a comment. -/
theorem expression?_eq_some_iff {reader : Reader} {line : List Char} {expression : String} :
    reader.expression? line = some expression ↔
      Text.trim line = expression.toList ∧ expression ≠ "" ∧
        ¬ reader.commentMark.toList <+: expression.toList := by
  have held_iff : reader.expression? line = some expression ↔
      (Text.trim line ≠ [] ∧ ¬ reader.commentMark.toList <+: Text.trim line) ∧
        String.ofList (Text.trim line) = expression := by
    simp [expression?]
  rw [held_iff, ← String.toList_inj, String.toList_ofList, and_comm]
  apply and_congr_right
  intro inner_eq
  rw [inner_eq, ne_eq, String.toList_eq_nil_iff]

theorem unbroken_of_expression? {reader : Reader} {line : List Char} {expression : String}
    (unbroken : Unbroken line) (held : reader.expression? line = some expression) :
    Unbroken expression.toList := by
  rw [← (expression?_eq_some_iff.mp held).1]
  exact unbroken.subset (Text.trimOff_sublist Text.isBlank line).subset

/-- A file is read just if all of it stands for a text. -/
theorem read_eq_ok_iff {reader : Reader} {view : FileView} {path : Path}
    {expressions : List String} :
    reader.read view path = .ok expressions ↔
      ∃ text, reader.decodingAt view path = .ok ⟨text, none⟩ ∧
        reader.expressions text = expressions := by
  unfold read
  generalize reader.decodingAt view path = decoded
  rcases decoded with error | ⟨text, _ | error⟩ <;> simp

/-- A text file that was written in UTF-8 stands for its text. -/
theorem decodingAt_of_utf8 {reader : Reader} {view : FileView} {path : Path} {text : String}
    (named : Text.Encoding.ofName? reader.encoding = some .utf8)
    (plain : InputKind.ofFormat? path.inputFormat = some .text)
    (written : view.content path = .ok (.plain (Text.utf8Bytes text))) :
    reader.decodingAt view path = .ok ⟨text.toList, none⟩ := by
  have bytes_eq : bytesAt view path = .ok (Text.utf8Bytes text) := by
    unfold bytesAt
    simp [plain, written, source]
  unfold decodingAt
  simp [bytes_eq, named, Text.Encoding.decoding_utf8Bytes]

/-- A text file that was written in UTF-8 holds the expressions of its text. -/
theorem read_of_utf8 {reader : Reader} {view : FileView} {path : Path} {text : String}
    (named : Text.Encoding.ofName? reader.encoding = some .utf8)
    (plain : InputKind.ofFormat? path.inputFormat = some .text)
    (written : view.content path = .ok (.plain (Text.utf8Bytes text))) :
    reader.read view path = .ok (reader.expressions text.toList) :=
  read_eq_ok_iff.mpr ⟨text.toList, decodingAt_of_utf8 named plain written, rfl⟩

end Reader

end Rpn
