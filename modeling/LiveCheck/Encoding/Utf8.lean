import LiveCheck.Encoding.Mistake

namespace LiveCheck.Encoding.Utf8

/-! ### UTF-8

A character takes one to four bytes; the first says how many, and the others lie in `80`–`BF`.
Four lead bytes narrow the range of the byte after them, so that no character has two spellings
and none is a surrogate or too large. Bytes that stand for no text are taken in the longest
stretches that could have begun a character. -/

/-- The bytes of one character. -/
def charBytes (c : Char) : List UInt8 :=
  let n := c.toNat
  let tail (scale : Nat) : UInt8 := UInt8.ofNat (0x80 + n / scale % 0x40)
  if n < 0x80 then [UInt8.ofNat n]
  else if n < 0x800 then [UInt8.ofNat (0xC0 + n / 0x40), tail 1]
  else if n < 0x10000 then [UInt8.ofNat (0xE0 + n / 0x1000), tail 0x40, tail 1]
  else [UInt8.ofNat (0xF0 + n / 0x40000), tail 0x1000, tail 0x40, tail 1]

/-- The bytes of a text. -/
def encode (s : List Char) : List UInt8 := s.flatMap charBytes

/-- What a stretch of bytes is. -/
inductive Stretch where
  /-- A character of this many bytes. -/
  | char (c : Char) (length : Nat)
  /-- This many bytes that stand for nothing, and why. -/
  | broken (length : Nat) (reason : String)
deriving DecidableEq, Repr

/-- The number of bytes that follow a lead byte, and the range of the first of them. -/
def following? (b : Nat) : Option (Nat × Nat × Nat) :=
  if 0xC2 ≤ b ∧ b ≤ 0xDF then some (1, 0x80, 0xBF)
  else if b = 0xE0 then some (2, 0xA0, 0xBF)
  else if b = 0xED then some (2, 0x80, 0x9F)
  else if 0xE1 ≤ b ∧ b ≤ 0xEF then some (2, 0x80, 0xBF)
  else if b = 0xF0 then some (3, 0x90, 0xBF)
  else if 0xF1 ≤ b ∧ b ≤ 0xF3 then some (3, 0x80, 0xBF)
  else if b = 0xF4 then some (3, 0x80, 0x8F)
  else none

/-- Read the `missing` bytes that a character of code `code` so far still needs, the first of them
in the given range; `taken` bytes are read. -/
def continueWith (code taken : Nat) (low high : Nat) : (missing : Nat) → List UInt8 → Stretch
  | 0, _ => .char (Char.ofNat code) taken
  | _ + 1, [] => .broken taken "unexpected end of data"
  | missing + 1, b :: rest =>
    if low ≤ b.toNat ∧ b.toNat ≤ high then
      continueWith (code * 0x40 + b.toNat % 0x40) (taken + 1) 0x80 0xBF missing rest
    else .broken taken "invalid continuation byte"

/-- The stretch at the start of a text whose first byte is `b`. -/
def stretch (b : UInt8) (rest : List UInt8) : Stretch :=
  if b.toNat < 0x80 then .char (Char.ofNat b.toNat) 1
  else match following? b.toNat with
    | none => .broken 1 "invalid start byte"
    | some (missing, low, high) =>
      let code := b.toNat % (if missing = 1 then 0x20 else if missing = 2 then 0x10 else 0x08)
      continueWith code 1 low high missing rest

/-- The text of bytes from `position` on, after `skip` bytes that are already read. -/
def decodeFrom (position : Nat) : (skip : Nat) → List UInt8 → Except Undecodable (List Char)
  | _, [] => .ok []
  | skip + 1, _ :: rest => decodeFrom (position + 1) skip rest
  | 0, b :: rest =>
    match stretch b rest with
    | .char c length => (decodeFrom (position + 1) (length - 1) rest).map (c :: ·)
    | .broken length reason =>
      .error { codec := "utf-8", byte := b, start := position, length, reason }

/-- The text of bytes. -/
def decode (bytes : List UInt8) : Except Undecodable (List Char) := decodeFrom 0 0 bytes

/-- The text of bytes after `skip` bytes that are already read, with the replacement character for
every stretch that stands for nothing. -/
def decodeReplacingFrom : (skip : Nat) → List UInt8 → List Char
  | _, [] => []
  | skip + 1, _ :: rest => decodeReplacingFrom skip rest
  | 0, b :: rest =>
    match stretch b rest with
    | .char c length => c :: decodeReplacingFrom (length - 1) rest
    | .broken length _ => '\ufffd' :: decodeReplacingFrom (length - 1) rest

/-- The text of bytes, with the replacement character for every stretch that stands for nothing. -/
def decodeReplacing (bytes : List UInt8) : List Char := decodeReplacingFrom 0 bytes

end LiveCheck.Encoding.Utf8
