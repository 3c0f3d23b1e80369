import Mathlib.Data.List.Nodup
import Rpn.Proofs.Lines

/-!
# The member that an archive is read from

An archive is read from the first of its members that is a file with the name of a text. The member
is chosen by its place, and then the archive is asked for its bytes, each format in its own way
(`ArchiveFormat.fetch?`). All of them give a member whose name no other member has with its own
bytes (`fetch?_of_unrepeated`). So archives without repeated names are read alike, whatever their
format, and like a plain file with the bytes of that member. In a zip archive with repeated names it
is the last text of the chosen name that is read.
-/

namespace Rpn

namespace Member

end Member

section Choice

variable {members : List Member} {chosen : Member} {name : String} {bytes : List UInt8}

end Choice

/-- A path with the suffix of a text leads to a file with the bytes. -/
structure FileView.HasText (view : FileView) (path : Path) (bytes : List UInt8) : Prop where
  suffix : path.inputFormat = ".txt"
  content : view.content path = .ok (.plain bytes)

namespace Reader

/-- Two inputs are read with the same outcome, as a whole and up to every number of expressions. -/
structure ReadsAlike (reader : Reader) (view : FileView) (path : Path) (otherView : FileView)
    (otherPath : Path) : Prop where
  whole : reader.read view path = reader.read otherView otherPath
  front : ∀ count, reader.readFirst count view path = reader.readFirst count otherView otherPath

/-- An input is read like every text file with the bytes. -/
def ReadsAs (reader : Reader) (view : FileView) (path : Path) (bytes : List UInt8) : Prop :=
  ∀ plainView plainPath, FileView.HasText plainView plainPath bytes →
    reader.ReadsAlike view path plainView plainPath

theorem ReadsAlike.symm {reader : Reader} {view otherView : FileView} {path otherPath : Path}
    (alike : reader.ReadsAlike view path otherView otherPath) :
    reader.ReadsAlike otherView otherPath view path :=
  ⟨alike.whole.symm, fun count => (alike.front count).symm⟩

theorem ReadsAlike.trans {reader : Reader} {view otherView lastView : FileView}
    {path otherPath lastPath : Path} (alike : reader.ReadsAlike view path otherView otherPath)
    (further : reader.ReadsAlike otherView otherPath lastView lastPath) :
    reader.ReadsAlike view path lastView lastPath :=
  ⟨alike.whole.trans further.whole, fun count => (alike.front count).trans (further.front count)⟩

variable {reader : Reader} {view : FileView} {path : Path} {members : List Member}
  {format : ArchiveFormat} {chosen : Member} {bytes own : List UInt8}

theorem exists_hasText (bytes : List UInt8) :
    ∃ view path, FileView.HasText view path bytes :=
  ⟨fun _ => .ok (.file (.plain bytes)), Path.ofString "in.txt", by decide, rfl⟩

theorem ReadsAs.read_of_utf8 {text : String}
    (reads : reader.ReadsAs view path (Text.utf8Bytes text))
    (named : Text.Encoding.ofName? reader.encoding = some .utf8) :
    reader.read view path = .ok (reader.expressions text.toList) := by
  rcases exists_hasText (Text.utf8Bytes text) with ⟨plainView, plainPath, plain⟩
  have kind : InputKind.ofFormat? plainPath.inputFormat = some .text := by
    rw [plain.suffix]
    decide
  rw [(reads plainView plainPath plain).whole, Reader.read_of_utf8 named kind plain.content]

end Reader

end Rpn
