import LiveCheck.Encoding.Mistake

namespace LiveCheck.Encoding.Utf16

/-! ### UTF-16

A character of the basic plane is one unit of two bytes; any other is a pair of surrogates, the
high one first. The order of the two bytes is fixed, or told by a byte order mark in front. -/

/-- Which byte of a unit comes first. -/
inductive Order where
  | little
  | big
deriving DecidableEq, Repr

/-- The name of the encoding with this order. -/
def Order.codec : Order → String
  | little => "utf-16-le"
  | big => "utf-16-be"

/-- The unit of two bytes. -/
def Order.unit (order : Order) (first second : UInt8) : Nat :=
  match order with
  | little => first.toNat + 0x100 * second.toNat
  | big => 0x100 * first.toNat + second.toNat

/-- The bytes of a unit. -/
def Order.bytes (order : Order) (unit : Nat) : List UInt8 :=
  let low := UInt8.ofNat (unit % 0x100)
  let high := UInt8.ofNat (unit / 0x100)
  match order with
  | little => [low, high]
  | big => [high, low]

/-- The bytes of a character. -/
def charBytes (order : Order) (c : Char) : List UInt8 :=
  if c.toNat < 0x10000 then order.bytes c.toNat
  else
    let n := c.toNat - 0x10000
    order.bytes (0xD800 + n / 0x400) ++ order.bytes (0xDC00 + n % 0x400)

/-- The bytes of a text, without a mark. -/
def encode (order : Order) (s : List Char) : List UInt8 := s.flatMap (charBytes order)

/-- The mark that tells the order. -/
def mark (order : Order) : List UInt8 := order.bytes 0xFEFF

/-- The text of bytes from `position` on. -/
def decodeFrom (order : Order) (position : Nat) : List UInt8 → Except Undecodable (List Char)
  | [] => .ok []
  | [b] => broken b 1 "truncated data"
  | b :: b' :: rest =>
    let unit := order.unit b b'
    if unit < 0xD800 ∨ 0xDFFF < unit then
      (decodeFrom order (position + 2) rest).map (Char.ofNat unit :: ·)
    else if 0xDC00 ≤ unit then broken b 2 "illegal encoding"
    else match rest with
      | c :: c' :: rest =>
        let low := order.unit c c'
        if 0xDC00 ≤ low ∧ low ≤ 0xDFFF then
          let code := 0x10000 + 0x400 * (unit - 0xD800) + (low - 0xDC00)
          (decodeFrom order (position + 4) rest).map (Char.ofNat code :: ·)
        else broken b 2 "illegal UTF-16 surrogate"
      | rest => broken b (2 + rest.length) "unexpected end of data"
where
  /-- A stretch that stands for no text. -/
  broken (b : UInt8) (length : Nat) (reason : String) : Except Undecodable (List Char) :=
    .error { codec := order.codec, byte := b, start := position, length, reason }

/-- The text of bytes in a fixed order; a mark in front belongs to the text. -/
def decode (order : Order) (bytes : List UInt8) : Except Undecodable (List Char) :=
  decodeFrom order 0 bytes

/-- The text of bytes with a mark in front. Bytes without a mark are refused, unless there are
none; where they cannot be decoded, low bytes first, that is what is reported. -/
def decodeMarked : List UInt8 → Except Mistake (List Char)
  | 0xFF :: 0xFE :: rest => (decodeFrom .little 2 rest).mapError Undecodable.mistake
  | 0xFE :: 0xFF :: rest => (decodeFrom .big 2 rest).mapError Undecodable.mistake
  | bytes => do
    let text ← (decode .little bytes).mapError Undecodable.mistake
    if text = [] then .ok []
    else .error { name := "UnicodeError", message := "UTF-16 stream does not start with BOM" }

end LiveCheck.Encoding.Utf16
