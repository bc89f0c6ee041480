import LiveCheck.Text.Numeral

namespace LiveCheck.Decimal

/-! ### The shortest decimal of a double

A double is a natural number times a power of two, and it stands for all reals that round to it:
an interval whose ends belong to it when that number is even. Its shortest decimal has the fewest
digits of all decimals in the interval, and among those it is the nearest to the double, the even
one of two. It is found by trying grids of one, two, … seventeen digits: if a point of a grid lies
in the interval, so does one of the two that are next to the double. All arithmetic is exact. -/

/-- A positive rational `mid / den` with the ends of the interval that rounds to it, over the same
denominator. -/
structure Rounding where
  low : Nat
  mid : Nat
  high : Nat
  den : Nat
  /-- Do the ends round to the double? -/
  closed : Bool
deriving Repr

/-- The interval around `significand · 2 ^ exponent`. Below a power of two the doubles are twice as
dense, unless it is the least of them. -/
def Rounding.ofBinary (significand : Nat) (exponent : Int) (denseBelow : Bool) : Rounding :=
  let up := Nat.pow 2 (exponent - 2).toNat
  { low := (4 * significand - if denseBelow then 1 else 2) * up
    mid := 4 * significand * up
    high := (4 * significand + 2) * up
    den := Nat.pow 2 (2 - exponent).toNat
    closed := significand % 2 = 0 }

/-- A decimal `digits · 10 ^ exponent`. -/
structure Scaled where
  digits : Nat
  exponent : Int
deriving DecidableEq, Repr

/-- The number of places that a number below one has before its first digit, at most `fuel`. -/
def leadingPlaces (num den : Nat) : (fuel : Nat) → Nat
  | 0 => 0
  | fuel + 1 => if num ≥ den then 0 else leadingPlaces (10 * num) den fuel + 1

/-- The exponent `e` with `10 ^ (e - 1) ≤ num / den < 10 ^ e`. No double is below `10 ^ -400`. -/
def magnitude (num den : Nat) : Int :=
  if num ≥ den then (Text.natChars (num / den)).length else 1 - leadingPlaces num den 400

/-- The point of the grid of step `10 ^ exponent` that the interval holds and that is nearest to
the double, if there is one. -/
def Rounding.onGrid (r : Rounding) (exponent : Int) : Option Scaled :=
  let step := Nat.pow 10 exponent.toNat * r.den
  let scale := Nat.pow 10 (-exponent).toNat
  let inside (c : Nat) : Bool :=
    if r.closed then r.low * scale ≤ c * step && c * step ≤ r.high * scale
    else r.low * scale < c * step && c * step < r.high * scale
  let below := r.mid * scale / step
  let above := below + 1
  let lower := r.mid * scale - below * step
  let upper := above * step - r.mid * scale
  let chosen (c : Nat) : Option Scaled := some { digits := c, exponent }
  if inside below && inside above then
    if lower < upper || (lower = upper && below % 2 = 0) then chosen below else chosen above
  else if inside below then chosen below
  else if inside above then chosen above
  else none

/-- The shortest decimal in the interval, searched from grids of `count` digits on. -/
def Rounding.shortestFrom (r : Rounding) (e : Int) (count : Nat) : (fuel : Nat) → Scaled
  | 0 => { digits := r.mid / r.den, exponent := 0 }
  | fuel + 1 =>
    match r.onGrid (e - count) with
    | some found => found
    | none => r.shortestFrom e (count + 1) fuel

/-- The shortest decimal in the interval. Seventeen digits always suffice. -/
def Rounding.shortest (r : Rounding) : Scaled := r.shortestFrom (magnitude r.mid r.den) 1 17

/-- The text of a decimal: positional with at least one place after the point when the first digit
stands for at least `10 ^ -4` and less than `10 ^ 16`, and else with an exponent of at least two
digits that has a sign. -/
def Scaled.chars (d : Scaled) : List Char :=
  let all := Text.natChars d.digits
  let shown := (all.reverse.dropWhile (· = '0')).reverse
  let shown := if shown = [] then ['0'] else shown
  let point : Int := all.length + d.exponent
  if point > 16 ∨ point < -3 then
    let e := point - 1
    let exponent := Text.natChars e.natAbs
    let exponent := if exponent.length < 2 then '0' :: exponent else exponent
    let mantissa := if shown.length ≤ 1 then shown else shown.take 1 ++ '.' :: shown.drop 1
    mantissa ++ 'e' :: (if e < 0 then '-' else '+') :: exponent
  else if point ≤ 0 then
    '0' :: '.' :: List.replicate (-point).toNat '0' ++ shown
  else if shown.length ≤ point.toNat then
    shown ++ List.replicate (point.toNat - shown.length) '0' ++ ['.', '0']
  else shown.take point.toNat ++ '.' :: shown.drop point.toNat

/-- The text of a double that is read back as the same double. -/
def floatString (x : Float) : String :=
  let bits : Nat := x.toBits.toNat
  let sign := if bits / Nat.pow 2 63 = 1 then "-" else ""
  let exponent : Nat := bits / Nat.pow 2 52 % Nat.pow 2 11
  let fraction := bits % Nat.pow 2 52
  if exponent = 2047 then
    if fraction = 0 then sign ++ "inf" else "nan"
  else if exponent = 0 ∧ fraction = 0 then sign ++ "0.0"
  else
    let r := if exponent = 0 then Rounding.ofBinary fraction (-1074) false
      else Rounding.ofBinary (Nat.pow 2 52 + fraction) ((exponent : Int) - 1075)
          (fraction = 0 && exponent > 1)
    sign ++ String.ofList r.shortest.chars

end LiveCheck.Decimal
