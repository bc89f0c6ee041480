import LiveCheck.Encoding.Mistake

namespace LiveCheck.Encoding

/-! ### Encodings

A file declares its encoding by name. What encodings there are, and under which names, is not
settled here: any table of encodings will do, and nothing is asked of an encoding but that it
reports what it cannot decode or encode as a mistake. -/

/-- An encoding. -/
structure Codec where
  /-- The text that bytes stand for. -/
  chars : List UInt8 → Except Mistake (List Char)
  /-- The bytes of a text. -/
  bytes : List Char → Except Mistake (List UInt8)

namespace Codec

/-- The text of bytes, or the fault of bytes that stand for none. -/
def decode (codec : Codec) (bytes : List UInt8) : Except Fault (List Char) :=
  (codec.chars bytes).mapError Mistake.fault

/-- The bytes of a text, or the fault of a text that has none. -/
def encode (codec : Codec) (s : List Char) : Except Fault (List UInt8) :=
  (codec.bytes s).mapError Mistake.fault

end Codec

/-- The encodings that there are. -/
structure Codecs where
  /-- The encoding of this name. -/
  ofName? : String → Option Codec
  /-- What is said of a name that no encoding has. -/
  complaint : String → String := fun name => "unknown encoding: " ++ name

/-- The fault of a name with a null character. Such a name is refused before a file is opened, and
an unknown one only afterwards. -/
def checkName (name : String) : Except Fault Unit :=
  if '\x00' ∈ name.toList then .error (.badValue "embedded null character") else .ok ()

namespace Codecs

/-- The fault of a name that no encoding has. -/
def unknown (codecs : Codecs) (name : String) : Fault := .unknownName (codecs.complaint name)

/-- The encoding of a name, or the fault of a name that no encoding has. -/
def find (codecs : Codecs) (name : String) : Except Fault Codec := do
  checkName name
  match codecs.ofName? name with
  | some codec => .ok codec
  | none => .error (codecs.unknown name)

end Codecs

end LiveCheck.Encoding
