import LiveCheck.Text.Blank
import LiveCheck.Text.Digit

namespace LiveCheck.Text

/-! ### Decimal numerals

Numbers are written with ASCII digits and read with the digits of any script, also mixed. A
numeral of more than `maxDigits` digits is refused wherever the user's numerals are read; leading
zeros count. -/

/-- The longest numeral that is read has this many digits. -/
def maxDigits : Nat := 4300

/-- A natural number in decimal notation. -/
def natChars (n : Nat) : List Char := Nat.toDigits 10 n

/-- An integer in decimal notation, with a minus sign if it is negative. -/
def intChars (n : Int) : List Char :=
  if n < 0 then '-' :: natChars n.natAbs else natChars n.natAbs

/-- A natural number in decimal notation. -/
def natString (n : Nat) : String := String.ofList (natChars n)

/-- An integer in decimal notation. -/
def intString (n : Int) : String := String.ofList (intChars n)

/-- The number that digits of any script stand for; the other characters count as zeros. -/
def numeralValue (digits : List Char) : Nat :=
  digits.foldl (fun n c => 10 * n + (digitValue? c).getD 0) 0

/-- Digits with at most one low line between each two of them, and the digits without those. -/
def groupedDigits (isDigit : Char → Bool) : List Char → Option (List Char)
  | [] => none
  | [c] => if isDigit c then some [c] else none
  | c :: d :: rest =>
    if !isDigit c then none
    else if d = '_' then (groupedDigits isDigit rest).map (c :: ·)
    else (groupedDigits isDigit (d :: rest)).map (c :: ·)

/-- A text without its sign, and whether the sign is a minus. -/
def splitSign : List Char → Bool × List Char
  | '-' :: rest => (true, rest)
  | '+' :: rest => (false, rest)
  | s => (false, s)

/-- The number with this sign. -/
def signed (negative : Bool) (n : Nat) : Int := if negative then -(n : Int) else n

/-- An integer between blanks: a sign, then digits of any script, grouped by single low lines. -/
def readInt? (s : List Char) : Option Int :=
  let (negative, rest) := splitSign (trim s)
  match groupedDigits isDigit rest with
  | some digits =>
    if digits.length ≤ maxDigits then some (signed negative (numeralValue digits)) else none
  | none => none

end LiveCheck.Text
