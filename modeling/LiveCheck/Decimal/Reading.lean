import LiveCheck.Text.Numeral

namespace LiveCheck.Decimal

/-! ### Reading a decimal

A decimal is a sign, digits with or without a point, at least one of them, and possibly an
exponent; infinity and not-a-number are written as words, in any case. Only ASCII digits count.
The double that is read is the nearest one. -/

/-- Is the character an ASCII digit? -/
def isAsciiDigit (c : Char) : Bool := '0' ≤ c && c ≤ '9'

/-- The exponent after the digits: nothing, or `e`, a sign and digits to the end. -/
def readExponent? : List Char → Option Int
  | [] => some 0
  | c :: rest =>
    if c = 'e' ∨ c = 'E' then
      let (negative, digits) := Text.splitSign rest
      if digits ≠ [] ∧ digits.all isAsciiDigit then
        some (Text.signed negative (Text.numeralValue digits))
      else none
    else none

/-- The double `digits · 10 ^ exponent`, an infinity if it is too large. -/
def scaled (digits : Nat) (exponent : Int) : Float :=
  if digits = 0 then 0
  else if exponent > 400 then 1 / 0
  else if exponent < -(400 + (Text.natChars digits).length : Int) then 0
  else Float.ofScientific digits (exponent < 0) exponent.natAbs

/-- The double that an unsigned decimal stands for. -/
def readUnsigned? (s : List Char) : Option Float :=
  let word := s.map Char.toLower
  if word = "inf".toList ∨ word = "infinity".toList then some (1 / 0)
  else if word = "nan".toList then some (0 / 0)
  else
    let (whole, rest) := s.span isAsciiDigit
    let (places, rest) := match rest with
      | '.' :: rest => rest.span isAsciiDigit
      | _ => ([], rest)
    if whole ++ places = [] then none
    else (readExponent? rest).map fun e =>
      scaled (Text.numeralValue (whole ++ places)) (e - places.length)

/-- The double that a decimal stands for. -/
def readFloat? (s : List Char) : Option Float :=
  let (negative, rest) := Text.splitSign s
  (readUnsigned? rest).map fun x => if negative then -x else x

end LiveCheck.Decimal
