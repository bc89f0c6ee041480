import LiveCheck.Decimal.Reading
import LiveCheck.Fault
import LiveCheck.Settings.Value

namespace LiveCheck

/-! ### Reading values

A value for a setting has to be read as what the setting holds: as a text, an integer, a logical
value or a number. How this is done is not settled here. A reader may take and refuse any value and
complain in any words; but it reads one value at a time, so what it makes of a value hangs on
nothing else. -/

/-- What is wrong with a value: a short name for it, and a text. -/
structure Complaint where
  code : String
  message : String
deriving DecidableEq, Repr

/-- How values are read as what settings hold. -/
structure Reader where
  text : Value → Except Complaint String
  integer : Value → Except Complaint Int
  bool : Value → Except Complaint Bool
  number : Value → Except Complaint Float

/-! #### The usual reader

An integer may be given as a text, a number as an integer, and a logical value as zero or one, as
long as nothing is lost. -/

namespace Complaint

/-- A value that is no text. -/
def notText : Complaint := ⟨"string_type", "Input should be a valid string"⟩

/-- A value that is no number. -/
def notInteger : Complaint := ⟨"int_type", "Input should be a valid integer"⟩

/-- A text that is no integer. -/
def unreadableInteger : Complaint :=
  ⟨"int_parsing", "Input should be a valid integer, unable to parse string as an integer"⟩

/-- An integer that is too long or too large. -/
def hugeInteger : Complaint :=
  ⟨"int_parsing_size", "Unable to parse input string as an integer, exceeded maximum size"⟩

/-- A number with a fraction. -/
def fractionalInteger : Complaint :=
  ⟨"int_from_float", "Input should be a valid integer, got a number with a fractional part"⟩

/-- A number that is infinite, or not a number. -/
def notFinite : Complaint := ⟨"finite_number", "Input should be a finite number"⟩

/-- A value that is no logical value. -/
def notBool : Complaint := ⟨"bool_type", "Input should be a valid boolean"⟩

/-- A number that is no logical value. -/
def unreadableBool : Complaint :=
  ⟨"bool_parsing", "Input should be a valid boolean, unable to interpret input"⟩

/-- A value that is no number, or too large a one. -/
def notNumber : Complaint := ⟨"float_type", "Input should be a valid number"⟩

/-- A text that is no number. -/
def unreadableNumber : Complaint :=
  ⟨"float_parsing", "Input should be a valid number, unable to parse string as a number"⟩

end Complaint

namespace Reader

/-- A text. -/
def readText : Value → Except Complaint String
  | .text s => .ok s
  | _ => .error .notText

/-- The blanks around a number: those with the property `White_Space`. -/
def isNumberSpace (c : Char) : Bool := Text.isBlank c && !(28 ≤ c.toNat && c.toNat ≤ 31)

/-- A number without the blanks around it. -/
def trimNumber (s : List Char) : List Char :=
  ((s.dropWhile isNumberSpace).reverse.dropWhile isNumberSpace).reverse

/-- A numeral without the single low lines inside it. -/
def ungrouped (s : List Char) : List Char :=
  let pairs := s.zip s.tail
  if s.head? = some '_' ∨ s.getLast? = some '_' ∨ ('_', '_') ∈ pairs then s
  else s.filter (· ≠ '_')

/-- An integer from a text: ASCII digits with a sign, grouped by single low lines, possibly with a
point and zeros after it. -/
def readIntegerText (s : List Char) : Except Complaint Int :=
  let (negative, rest) := Text.splitSign (trimNumber s)
  let (whole, places) := rest.span (· ≠ '.')
  match Text.groupedDigits Decimal.isAsciiDigit whole with
  | none => .error .unreadableInteger
  | some digits =>
    if !(places.drop 1).all (· = '0') then .error .unreadableInteger
    else if digits.length > Text.maxDigits then .error .hugeInteger
    else .ok (Text.signed negative (Text.numeralValue digits))

/-- The integer that a double is, if it has no fraction and fits into 64 bits. -/
def integerOfFloat (x : Float) : Except Complaint Int :=
  if x.isNaN || x.isInf then .error .notFinite
  else if x.floor != x then .error .fractionalInteger
  else if x ≤ -9223372036854775808 || x ≥ 9223372036854775808 then .error .hugeInteger
  else .ok x.toInt64.toInt

/-- An integer. -/
def readInteger : Value → Except Complaint Int
  | .int n => .ok n
  | .bool b => .ok (if b then 1 else 0)
  | .float x => integerOfFloat x
  | .text s => readIntegerText s.toList
  | _ => .error .notInteger

/-- Does the integer fit into 64 bits? -/
def fitsWord (n : Int) : Bool := -9223372036854775808 ≤ n && n < 9223372036854775808

/-- A logical value: a number has to be zero or one. -/
def readBool : Value → Except Complaint Bool
  | .bool b => .ok b
  | .int n => if fitsWord n then ofInteger n else .error .notBool
  | .float x =>
    match integerOfFloat x with
    | .ok n => ofInteger n
    | .error _ => .error .notBool
  | _ => .error .notBool
where
  /-- A number as a logical value. -/
  ofInteger (n : Int) : Except Complaint Bool :=
    if n = 0 then .ok false else if n = 1 then .ok true else .error .unreadableBool

/-- A number. -/
def readNumber : Value → Except Complaint Float
  | .float x => .ok x
  | .int n =>
    let x := Decimal.scaled n.natAbs 0
    if x.isInf then .error .notNumber else .ok (if n < 0 then -x else x)
  | .bool b => .ok (if b then 1 else 0)
  | .text s =>
    let s := trimNumber s.toList
    match (Decimal.readFloat? s).or (Decimal.readFloat? (ungrouped s)) with
    | some x => .ok x
    | none => .error .unreadableNumber
  | _ => .error .notNumber

/-- The reader for all these values. -/
def usual : Reader where
  text := readText
  integer := readInteger
  bool := readBool
  number := readNumber

end Reader

end LiveCheck
