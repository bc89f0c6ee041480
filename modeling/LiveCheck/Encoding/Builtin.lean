import LiveCheck.Encoding.Codec
import LiveCheck.Encoding.Utf8
import LiveCheck.Encoding.Utf16

namespace LiveCheck.Encoding

/-! ### The encodings that come with the program

Three encodings give every character one byte and cover few characters; the others cover all of
them. An encoding with a mark writes the mark in front of every text, also of an empty one. -/

/-- An encoding that comes with the program. -/
inductive Builtin where
  | utf8
  /-- UTF-8 with a mark in front, which may be missing when a text is read. -/
  | utf8Marked
  /-- UTF-16 with a mark in front; low bytes first when a text is written. -/
  | utf16Marked
  /-- UTF-16 with a fixed order of bytes, without a mark. -/
  | utf16 (order : Utf16.Order)
  | ascii
  | latin1
  | windows1252
deriving DecidableEq, Repr

namespace Builtin

/-- The encodings with their names in normal form. -/
def names : List (Builtin × List String) :=
  [(utf8, ["utf_8", "utf8", "u8", "utf", "cp65001"]),
   (utf8Marked, ["utf_8_sig"]),
   (utf16Marked, ["utf_16", "utf16", "u16"]),
   (utf16 .little, ["utf_16_le", "utf_16le", "unicodelittleunmarked"]),
   (utf16 .big, ["utf_16_be", "utf_16be", "unicodebigunmarked"]),
   (ascii, ["ascii", "us_ascii", "us", "646", "cp367", "iso_ir_6"]),
   (latin1, ["latin_1", "latin1", "latin", "l1", "iso_8859_1", "iso8859_1", "iso8859", "cp819",
      "iso_ir_100", "8859"]),
   (windows1252, ["cp1252", "windows_1252", "1252"])]

/-- The normal form of a name: small letters, and one low line for all that stands between two
words. -/
def normalName (name : String) : String :=
  String.ofList (go none (name.toList.map Char.toLower))
where
  /-- The normal form of a text after the last letter or digit `before`, and whether a low line is
  still to be written. -/
  go : (pending : Option Bool) → List Char → List Char
  | _, [] => []
  | pending, c :: rest =>
    if c.isAlphanum || c = '.' then
      if pending = some true then '_' :: c :: go (some false) rest else c :: go (some false) rest
    else go (pending.map fun _ => true) rest

/-- The encoding of this name. -/
def ofName? (name : String) : Option Builtin :=
  (names.find? fun entry => entry.2.contains (normalName name)).map (·.1)

/-! ### One byte for a character -/

/-- The code points of the bytes `80`–`9F`, where they differ from the bytes; zero where the byte
stands for nothing. -/
def windowsPoints : List Nat :=
  [0x20AC, 0, 0x201A, 0x0192, 0x201E, 0x2026, 0x2020, 0x2021, 0x02C6, 0x2030, 0x0160, 0x2039,
   0x0152, 0, 0x017D, 0, 0, 0x2018, 0x2019, 0x201C, 0x201D, 0x2022, 0x2013, 0x2014, 0x02DC,
   0x2122, 0x0161, 0x203A, 0x0153, 0, 0x017E, 0x0178]

/-- The character of a byte. -/
def windowsChar? (b : UInt8) : Option Char :=
  let n := b.toNat
  if 0x80 ≤ n ∧ n ≤ 0x9F then
    match windowsPoints.getD (n - 0x80) 0 with
    | 0 => none
    | point => some (Char.ofNat point)
  else some (Char.ofNat n)

/-- The byte of a character. -/
def windowsByte? (c : Char) : Option UInt8 :=
  let n := c.toNat
  if n < 0x80 ∨ (0xA0 ≤ n ∧ n ≤ 0xFF) then some (UInt8.ofNat n)
  else (windowsPoints.findIdx? fun p => p ≠ 0 ∧ p = n).map fun i => UInt8.ofNat (0x80 + i)

/-- A code of one byte for each character: its name in reports, why something is not in it, and
the characters of the bytes. -/
structure ByteCode where
  codec : String
  reason : String
  char? : UInt8 → Option Char
  byte? : Char → Option UInt8

/-- The code of the first `size` code points. -/
def ByteCode.first (codec : String) (size : Nat) : ByteCode where
  codec := codec
  reason := "ordinal not in range(" ++ Text.natString size ++ ")"
  char? b := if b.toNat < size then some (Char.ofNat b.toNat) else none
  byte? c := if c.toNat < size then some (UInt8.ofNat c.toNat) else none

/-- The code of Windows for western Europe. -/
def ByteCode.windows : ByteCode where
  codec := "charmap"
  reason := "character maps to <undefined>"
  char? := windowsChar?
  byte? := windowsByte?

/-- The text of bytes from `position` on. -/
def ByteCode.decodeFrom (code : ByteCode) (position : Nat) :
    List UInt8 → Except Undecodable (List Char)
  | [] => .ok []
  | b :: rest =>
    match code.char? b with
    | some c => (code.decodeFrom (position + 1) rest).map (c :: ·)
    | none =>
      .error { codec := code.codec, byte := b, start := position, length := 1,
               reason := code.reason }

/-- The bytes of a text from `position` on. All characters in a row that have no byte are reported
together. -/
def ByteCode.encodeFrom (code : ByteCode) (position : Nat) :
    List Char → Except Unencodable (List UInt8)
  | [] => .ok []
  | c :: rest =>
    match code.byte? c with
    | some b => (code.encodeFrom (position + 1) rest).map (b :: ·)
    | none =>
      let more := rest.takeWhile fun c => (code.byte? c).isNone
      .error { codec := code.codec, char := c, start := position, length := 1 + more.length,
               reason := code.reason }

/-! ### Reading and writing -/

/-- The mark in front of a text in UTF-8. -/
def mark8 : List UInt8 := [0xEF, 0xBB, 0xBF]

/-- The text of bytes in UTF-8 whose mark may be missing, or be cut short when nothing follows. -/
def decodeMarked8 (bytes : List UInt8) : Except Undecodable (List Char) :=
  if bytes.isPrefixOf mark8 then .ok []
  else if mark8.isPrefixOf bytes then Utf8.decode (bytes.drop mark8.length)
  else Utf8.decode bytes

/-- The text of bytes. -/
def chars (builtin : Builtin) (bytes : List UInt8) : Except Mistake (List Char) :=
  match builtin with
  | utf8 => (Utf8.decode bytes).mapError Undecodable.mistake
  | utf8Marked => (decodeMarked8 bytes).mapError Undecodable.mistake
  | utf16Marked => Utf16.decodeMarked bytes
  | utf16 order => (Utf16.decode order bytes).mapError Undecodable.mistake
  | ascii => ((ByteCode.first "ascii" 128).decodeFrom 0 bytes).mapError Undecodable.mistake
  | latin1 => ((ByteCode.first "latin-1" 256).decodeFrom 0 bytes).mapError Undecodable.mistake
  | windows1252 => (ByteCode.windows.decodeFrom 0 bytes).mapError Undecodable.mistake

/-- The bytes of a text. -/
def bytes (builtin : Builtin) (s : List Char) : Except Mistake (List UInt8) :=
  match builtin with
  | utf8 => .ok (Utf8.encode s)
  | utf8Marked => .ok (mark8 ++ Utf8.encode s)
  | utf16Marked => .ok (Utf16.mark .little ++ Utf16.encode .little s)
  | utf16 order => .ok (Utf16.encode order s)
  | ascii => ((ByteCode.first "ascii" 128).encodeFrom 0 s).mapError Unencodable.mistake
  | latin1 => ((ByteCode.first "latin-1" 256).encodeFrom 0 s).mapError Unencodable.mistake
  | windows1252 => (ByteCode.windows.encodeFrom 0 s).mapError Unencodable.mistake

/-- The encoding. -/
def codec (builtin : Builtin) : Codec where
  chars := builtin.chars
  bytes := builtin.bytes

end Builtin

/-- The encodings that come with the program, under all their names. -/
def Codecs.builtin : Codecs where
  ofName? name := (Builtin.ofName? name).map Builtin.codec

end LiveCheck.Encoding
