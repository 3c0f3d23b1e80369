import Rpn.Text.Quoted

/-!
# Encodings

How bytes stand for text. `Encoding.ofName?` finds an encoding by one of its names, and
`Encoding.decoding` turns the bytes of a source into characters and tells where they stop to make
sense; `Encoding.decode` asks for all of them to make sense.
-/

namespace Rpn.Text

/-- An encoding of text. -/
inductive Encoding where
  | ascii
  | latin1
  | utf8
  /-- UTF-8 in which one leading byte order mark is dropped. -/
  | utf8Signed
  | utf16Little
  | utf16Big
  deriving DecidableEq, Repr

/-- Why bytes stand for no character. -/
inductive DecodeReason where
  | notAscii
  | badStart
  | badContinuation
  /-- The front of a surrogate in UTF-8, with nothing behind it. -/
  | cutSurrogate
  | unexpectedEnd
  | truncated
  | badSurrogate
  deriving DecidableEq, Repr

/-- The reason in words. -/
def DecodeReason.message : DecodeReason → String
  | .notAscii => "ordinal not in range(128)"
  | .badStart => "invalid start byte"
  | .badContinuation => "invalid continuation byte"
  | .cutSurrogate => "invalid continuation byte"
  | .unexpectedEnd => "unexpected end of data"
  | .truncated => "truncated data"
  | .badSurrogate => "illegal encoding"

/-- Whether bytes that the end of the source cuts short are at fault. -/
def DecodeReason.isCutShort : DecodeReason → Bool
  | .cutSurrogate => true
  | .unexpectedEnd => true
  | .truncated => true
  | _ => false

/-- Bytes that stand for no character: where they start, how they go, and why. Bytes that are cut
short are what is left when all else is decoded, and start what is left. -/
structure DecodeError where
  encoding : Encoding
  position : Nat
  bytes : List UInt8
  reason : DecodeReason
  deriving DecidableEq, Repr

/-- The characters that bytes stand for, up to the first bytes that stand for none. -/
structure Decoding where
  chars : List Char
  error : Option DecodeError
  deriving DecidableEq, Repr

/-- The characters, unless some bytes stand for none. -/
def Decoding.result (decoding : Decoding) : Except DecodeError (List Char) :=
  match decoding.error with
  | none => .ok decoding.chars
  | some error => .error error

namespace Encoding

/-- The name of an encoding in messages. -/
def name : Encoding → String
  | .ascii => "ascii"
  | .latin1 => "latin-1"
  | .utf8 => "utf-8"
  | .utf8Signed => "utf-8"
  | .utf16Little => "utf-16-le"
  | .utf16Big => "utf-16-be"

/-- A name in small letters, with a low line for each run of other characters than ASCII letters,
digits and full stops inside it. -/
def normalize (name : String) : String :=
  let step := fun (found, gap) c =>
    if c.isAlphanum || c == '.' then
      (c.toLower :: (if gap && !found.isEmpty then '_' :: found else found), false)
    else (found, true)
  String.ofList (name.toList.foldl step (([] : List Char), false)).1.reverse

/-- The proper name of an encoding, as `normalize` leaves it. -/
def properName : Encoding → String
  | .ascii => "ascii"
  | .latin1 => "latin_1"
  | .utf8 => "utf_8"
  | .utf8Signed => "utf_8_sig"
  | .utf16Little => "utf_16_le"
  | .utf16Big => "utf_16_be"

/-- The further names of an encoding, as `normalize` leaves them. -/
def aliases : Encoding → List String
  | .ascii =>
      ["646", "ansi_x3.4_1968", "ansi_x3_4_1968", "ansi_x3.4_1986", "cp367", "csascii", "ibm367",
       "iso646_us", "iso_646.irv_1991", "iso_ir_6", "us", "us_ascii"]
  | .latin1 =>
      ["8859", "cp819", "csisolatin1", "ibm819", "iso8859", "iso8859_1", "iso_8859_1",
       "iso_8859_1_1987", "iso_ir_100", "l1", "latin", "latin1"]
  | .utf8 => ["u8", "utf", "utf8", "utf8_ucs2", "utf8_ucs4", "cp65001"]
  | .utf8Signed => []
  | .utf16Little => ["unicodelittleunmarked", "utf_16le"]
  | .utf16Big => ["unicodebigunmarked", "utf_16be"]

/-- Whether a name, as `normalize` leaves it, is one of the encoding. In the further names a full
stop may stand for a low line. -/
def isNamed (encoding : Encoding) (name : String) : Bool :=
  let plain := String.ofList (name.toList.map fun c => if c = '.' then '_' else c)
  name == encoding.properName || encoding.aliases.contains name || encoding.aliases.contains plain

/-- The encoding of a name. The name `locale` is that of the surroundings, which use UTF-8. -/
def ofName? (name : String) : Option Encoding :=
  if name = "locale" then some utf8
  else
    [ascii, latin1, utf8, utf8Signed, utf16Little, utf16Big].find? fun encoding =>
      encoding.isNamed (normalize name)

end Encoding

/-- The decoded front of some bytes: a character and the bytes it took, or what is wrong, with the
number of bytes that are at fault. -/
inductive Decoded where
  | char (c : Char) (size : Nat)
  | wrong (reason : DecodeReason) (size : Nat)

namespace Utf8

/-- A byte that continues a character. -/
def isContinuation (byte : UInt8) : Bool :=
  0x80 ≤ byte && byte ≤ 0xBF

/-- The six bits that a continuation carries. -/
def payload (byte : UInt8) : Nat :=
  byte.toNat % 0x40

/-- The bounds of the second byte after a first one; they exclude needlessly long forms,
surrogates, and code points beyond the last. -/
def secondBounds (first : UInt8) : UInt8 × UInt8 :=
  if first = 0xE0 then (0xA0, 0xBF)
  else if first = 0xED then (0x80, 0x9F)
  else if first = 0xF0 then (0x90, 0xBF)
  else if first = 0xF4 then (0x80, 0x8F)
  else (0x80, 0xBF)

/-- Whether a second byte may follow a first one. -/
def isSecond (first second : UInt8) : Bool :=
  (secondBounds first).1 ≤ second && second ≤ (secondBounds first).2

/-- The first character of some bytes, the first of which is given apart. -/
def next (first : UInt8) (rest : List UInt8) : Decoded :=
  let start := first.toNat
  if start < 0x80 then .char (Char.ofNat start) 1
  else if start < 0xC2 then .wrong .badStart 1
  else if start < 0xE0 then
    match rest with
    | [] => .wrong .unexpectedEnd 1
    | second :: _ =>
        if isSecond first second then
          .char (Char.ofNat ((start - 0xC0) * 0x40 + payload second)) 2
        else .wrong .badContinuation 1
  else if start < 0xF0 then
    match rest with
    | [] => .wrong .unexpectedEnd 1
    | [second] =>
        if isSecond first second then .wrong .unexpectedEnd 2
        else if first = 0xED ∧ isContinuation second then .wrong .cutSurrogate 1
        else .wrong .badContinuation 1
    | second :: third :: _ =>
        if !isSecond first second then .wrong .badContinuation 1
        else if !isContinuation third then .wrong .badContinuation 2
        else
          .char (Char.ofNat ((start - 0xE0) * 0x1000 + payload second * 0x40 + payload third)) 3
  else if start < 0xF5 then
    match rest with
    | [] => .wrong .unexpectedEnd 1
    | [second] =>
        if isSecond first second then .wrong .unexpectedEnd 2 else .wrong .badContinuation 1
    | [second, third] =>
        if !isSecond first second then .wrong .badContinuation 1
        else if !isContinuation third then .wrong .badContinuation 2
        else .wrong .unexpectedEnd 3
    | second :: third :: fourth :: _ =>
        if !isSecond first second then .wrong .badContinuation 1
        else if !isContinuation third then .wrong .badContinuation 2
        else if !isContinuation fourth then .wrong .badContinuation 3
        else
          .char (Char.ofNat ((start - 0xF0) * 0x40000 + payload second * 0x1000 +
            payload third * 0x40 + payload fourth)) 4
  else .wrong .badStart 1

end Utf8

namespace Utf16

/-- The first character of some code units, the first of which is given apart. Its size is in
bytes. -/
def next (first : Nat) (second : Option Nat) : Decoded :=
  if first < 0xD800 ∨ 0xDFFF < first then .char (Char.ofNat first) 2
  else if 0xDC00 ≤ first then .wrong .badSurrogate 2
  else
    match second with
    | none => .wrong .unexpectedEnd 2
    | some second =>
        if 0xDC00 ≤ second ∧ second ≤ 0xDFFF then
          .char (Char.ofNat (0x10000 + (first - 0xD800) * 0x400 + (second - 0xDC00))) 4
        else .wrong .badSurrogate 2

/-- A code unit of two bytes, given in the order in which they stand. -/
def unit (little : Bool) (first second : UInt8) : Nat :=
  if little then second.toNat * 0x100 + first.toNat else first.toNat * 0x100 + second.toNat

/-- The first character of some bytes, the first of which is given apart. -/
def nextOfBytes (little : Bool) (first : UInt8) (rest : List UInt8) : Decoded :=
  match rest with
  | [] => .wrong .truncated 1
  | second :: third :: fourth :: _ =>
      next (unit little first second) (some (unit little third fourth))
  | second :: _ => next (unit little first second) none

end Utf16

namespace Encoding

/-- The first character of some bytes, the first of which is given apart. -/
def next (encoding : Encoding) (first : UInt8) (rest : List UInt8) : Decoded :=
  match encoding with
  | .ascii => if first < 0x80 then .char (Char.ofNat first.toNat) 1 else .wrong .notAscii 1
  | .latin1 => .char (Char.ofNat first.toNat) 1
  | .utf8 => Utf8.next first rest
  | .utf8Signed => Utf8.next first rest
  | .utf16Little => Utf16.nextOfBytes true first rest
  | .utf16Big => Utf16.nextOfBytes false first rest

/-- The characters of the bytes from a position on, the ones in front being given in reverse. -/
def decodingFrom (encoding : Encoding) (position : Nat) (found : List Char) :
    List UInt8 → Decoding
  | [] => ⟨found.reverse, none⟩
  | first :: rest =>
      match encoding.next first rest with
      | .char c size =>
          decodingFrom encoding (position + size) (c :: found) (rest.drop (size - 1))
      | .wrong reason size =>
          let position := if reason.isCutShort then 0 else position
          ⟨found.reverse, some ⟨encoding, position, (first :: rest).take size, reason⟩⟩
termination_by bytes => bytes.length

/-- The byte order mark in UTF-8. -/
def byteOrderMark : List UInt8 :=
  [0xEF, 0xBB, 0xBF]

/-- The bytes without what the encoding drops in front of them: the mark, also if it is cut short
and nothing else is there. -/
def withoutMark (encoding : Encoding) (bytes : List UInt8) : List UInt8 :=
  match encoding with
  | .utf8Signed =>
      if bytes.isPrefixOf byteOrderMark then []
      else if byteOrderMark.isPrefixOf bytes then bytes.drop byteOrderMark.length
      else bytes
  | _ => bytes

/-- What bytes stand for. -/
def decoding (encoding : Encoding) (bytes : List UInt8) : Decoding :=
  encoding.decodingFrom 0 [] (encoding.withoutMark bytes)

/-- The characters that all of the bytes stand for. -/
def decode (encoding : Encoding) (bytes : List UInt8) : Except DecodeError (List Char) :=
  (encoding.decoding bytes).result

end Encoding

/-- The bytes that stand for a text in UTF-8. -/
def utf8Bytes (text : String) : List UInt8 :=
  text.toList.flatMap String.utf8EncodeChar

/-- The fault in words. -/
def DecodeError.message (error : DecodeError) : String :=
  let codec := "'" ++ error.encoding.name ++ "' codec can't decode "
  let place :=
    match error.bytes with
    | [byte] =>
        "byte 0x" ++ String.ofList (hexadecimal 2 byte.toNat) ++ " in position " ++
          toString error.position
    | bytes =>
        "bytes in position " ++ toString error.position ++ "-" ++
          toString (error.position + bytes.length - 1)
  codec ++ place ++ ": " ++ error.reason.message

end Rpn.Text
