import LiveCheck.Fault
import LiveCheck.Text.Numeral

namespace LiveCheck.Encoding

/-! ### What cannot be decoded or encoded

A stretch of bytes that stands for no text, or a stretch of text that an encoding has no bytes
for. It is reported with its place, counted in bytes or in characters from zero, and with the
reason; a stretch of one is shown itself. -/

/-- What an encoding reports: the class of the error, which is one of those for texts, and its
message. -/
structure Mistake where
  name : String
  message : String
deriving DecidableEq, Repr

/-- The fault of a mistake. -/
def Mistake.fault (m : Mistake) : Fault := .raised .unicode m.name m.message

/-- Bytes that stand for no text: `length` of them from `start` on, `byte` the first. -/
structure Undecodable where
  codec : String
  byte : UInt8
  start : Nat
  length : Nat
  reason : String
deriving DecidableEq, Repr

/-- Characters without bytes: `length` of them from `start` on, `char` the first. -/
structure Unencodable where
  codec : String
  char : Char
  start : Nat
  length : Nat
  reason : String
deriving DecidableEq, Repr

/-- A stretch of several places. -/
def placesText (start length : Nat) : String :=
  " in position " ++ Text.natString start ++ "-" ++ Text.natString (start + length - 1)

/-- The report of bytes that stand for no text. -/
def Undecodable.mistake (u : Undecodable) : Mistake :=
  let what :=
    if u.length ≤ 1 then
      "byte 0x" ++ String.ofList (Text.hexDigits 2 u.byte.toNat) ++ " in position " ++
        Text.natString u.start
    else "bytes" ++ placesText u.start u.length
  { name := "UnicodeDecodeError"
    message := "\x27" ++ u.codec ++ "\x27 codec can\x27t decode " ++ what ++ ": " ++ u.reason }

/-- The report of characters without bytes. -/
def Unencodable.mistake (u : Unencodable) : Mistake :=
  let what :=
    if u.length ≤ 1 then
      "character \x27" ++ String.ofList (Text.codeEscape u.char) ++ "\x27 in position " ++
        Text.natString u.start
    else "characters" ++ placesText u.start u.length
  { name := "UnicodeEncodeError"
    message := "\x27" ++ u.codec ++ "\x27 codec can\x27t encode " ++ what ++ ": " ++ u.reason }

end LiveCheck.Encoding
