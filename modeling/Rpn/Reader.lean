import Rpn.Field
import Rpn.Files
import Rpn.Text.Encoding
import Rpn.Text.Lines

/-!
# Reading expressions

Expressions are read from a text file, one on each line, or from the first text member of an
archive. Blanks around a line are dropped; a line is passed over if nothing is left of it, or if
what is left starts with the comment mark.
-/

namespace Rpn

/-- The kinds of input that can be read. -/
inductive InputKind where
  | text
  | archive (format : ArchiveFormat)
  deriving DecidableEq, Repr

/-- The suffix that tells the kind of an input: the last one, or the last two of a packed tape
archive. -/
def Path.inputFormat (path : Path) : String :=
  let suffixes := path.suffixes
  if suffixes.drop (suffixes.length - 2) = [".tar", ".xz"] then ".tar.xz" else path.lastSuffix

/-- The kind of input that a suffix tells. -/
def InputKind.ofFormat? (format : String) : Option InputKind :=
  [(".txt", text), (".zip", archive .zip), (".tar.xz", archive .tarXz),
   (".7z", archive .sevenZip)].lookup format

/-- Why no expressions can be read from a path. -/
inductive ReadError where
  /-- The suffix tells no kind of input. -/
  | unsupported (path : Path)
  | file (error : FileError)
  /-- The file is no archive of the format that its suffix tells. -/
  | notArchive (format : ArchiveFormat)
  /-- No member of the archive is a text file. -/
  | noTextMember (path : Path)
  | unknownEncoding (name : String)
  | undecodable (error : Text.DecodeError)
  deriving DecidableEq, Repr

namespace ReadError

/-- The error in words, where it has any: those that have are complaints about the input, and the
others are failures of the system around it. -/
def message? : ReadError → Option String
  | .unsupported path =>
      let format := path.inputFormat
      some ("Unsupported input format: " ++ if format = "" then path.name else format)
  | .noTextMember path => some ("No .txt member in " ++ path.name)
  | .undecodable error => some error.message
  | .file _ => none
  | .notArchive _ => none
  | .unknownEncoding _ => none

end ReadError

namespace Member

/-- The bytes of a member that is a file with the name of a text. -/
def text? (member : Member) : Option (List UInt8) :=
  match member.kind with
  | .file bytes => if member.name.endsWith ".txt" then some bytes else none
  | _ => none

end Member

/-- The bytes of the last member with the name of the first text member. Members are looked up in a
zip archive by their names, and of equal names the last one counts. -/
def lastOfFirstName? (members : List Member) : Option (List UInt8) := do
  let chosen ← members.find? fun member => member.text?.isSome
  members.reverse.findSome? fun member =>
    if member.name = chosen.name then member.text? else none

/-- The bytes of the text member that an archive is read from. -/
def ArchiveFormat.textMember? (format : ArchiveFormat) (members : List Member) :
    Option (List UInt8) :=
  match format with
  | .zip => lastOfFirstName? members
  | .tarXz => members.findSome? Member.text?
  | .sevenZip => members.findSome? Member.text?

/-- How expressions are read. -/
structure Reader where
  encoding : String
  commentMark : String
  deriving DecidableEq, Repr

namespace Reader

/-- A reader of UTF-8 whose comments start with a number sign. -/
def standard : Reader :=
  ⟨"utf-8", "#"⟩

/-- A reader from its fields. -/
def ofFields (fields : Fields) : Checked Reader :=
  .ok Reader.mk
    |> Checked.give (fields.withDefault "encoding" standard.encoding Field.asText)
    |> Checked.give (fields.withDefault "comment_prefix" standard.commentMark Field.asNonemptyText)

/-- The expression on a line, if it holds one. -/
def expression? (reader : Reader) (line : List Char) : Option String :=
  let inner := Text.trim line
  if inner.isEmpty || reader.commentMark.toList.isPrefixOf inner then none
  else some (String.ofList inner)

/-- The expressions of a text. -/
def expressions (reader : Reader) (text : List Char) : List String :=
  (Text.lines text).filterMap reader.expression?

/-- The bytes that an input of a kind is read from. -/
def source (kind : InputKind) (path : Path) (content : FileContent) :
    Except ReadError (List UInt8) :=
  match kind, content with
  | .text, .plain bytes => .ok bytes
  | .text, .archive _ _ => .error (.noTextMember path)
  | .archive format, .plain _ => .error (.notArchive format)
  | .archive format, .archive actual members =>
      if format = actual then
        match format.textMember? members with
        | some bytes => .ok bytes
        | none => .error (.noTextMember path)
      else .error (.notArchive format)

/-- The bytes that expressions are read from at a path. -/
def bytesAt (view : FileView) (path : Path) : Except ReadError (List UInt8) :=
  match InputKind.ofFormat? path.inputFormat with
  | none => .error (.unsupported path)
  | some kind =>
      match view.content path with
      | .error error => .error (.file error)
      | .ok content => source kind path content

/-- What the file that a path leads to stands for. -/
def decodingAt (reader : Reader) (view : FileView) (path : Path) :
    Except ReadError Text.Decoding :=
  match bytesAt view path with
  | .error error => .error error
  | .ok bytes =>
      match Text.Encoding.ofName? reader.encoding with
      | none => .error (.unknownEncoding reader.encoding)
      | some encoding => .ok (encoding.decoding bytes)

/-- The expressions of the file that a path leads to. -/
def read (reader : Reader) (view : FileView) (path : Path) : Except ReadError (List String) :=
  match reader.decodingAt view path with
  | .error error => .error error
  | .ok ⟨text, none⟩ => .ok (reader.expressions text)
  | .ok ⟨_, some error⟩ => .error (.undecodable error)

/-- The first expressions of the file that a path leads to, up to a number. A character that the end
of the file cuts short does no harm if the full lines in front of it hold that many. -/
def readFirst (reader : Reader) (count : Nat) (view : FileView) (path : Path) :
    Except ReadError (List String) :=
  match reader.decodingAt view path with
  | .error error => .error error
  | .ok ⟨text, none⟩ => .ok ((reader.expressions text).take count)
  | .ok ⟨text, some error⟩ =>
      let found := reader.expressions (Text.upToLastEnding text)
      if error.reason.isCutShort && count ≤ found.length then .ok (found.take count)
      else .error (.undecodable error)

end Reader

end Rpn
