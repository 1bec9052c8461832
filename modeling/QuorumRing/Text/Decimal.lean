/-!
# Decimal text of floating-point numbers

The digits of a number are the fewest that read back as the same number, and among those the ones
closest to it. They are found by trying coarse decimal grids first: if any point of a grid lies in
the interval of reals that round to the number, so does one of the two points next to the number.

`plain` writes the digits without an exponent, `compact?` uses one for very large and small numbers.
-/

namespace QuorumRing.Decimal

/-- A positive number as a quotient, with the ends of the interval of reals that round to it. All
have the common denominator `denominator`. -/
structure Neighbourhood where
  /-- The number. -/
  value : Nat
  /-- The lower end. -/
  low : Nat
  /-- The upper end. -/
  high : Nat
  /-- The denominator, which is positive. -/
  denominator : Nat
  /-- Whether the ends belong to the interval. -/
  closed : Bool
deriving Repr

/-- The neighbourhood of the double with the given biased exponent and fraction bits. -/
def neighbourhood (exponent fraction : Nat) : Neighbourhood :=
  let significand := if exponent = 0 then fraction else Nat.pow 2 52 + fraction
  -- The number is `significand * 2 ^ (shift - 1074)`. Below a power of two the gap is half as wide.
  let shift := exponent - 1
  let narrow := fraction = 0 && 1 < exponent
  let scale := Nat.pow 2 shift
  { value := 4 * significand * scale
    low := (4 * significand - if narrow then 1 else 2) * scale
    high := (4 * significand + 2) * scale
    denominator := 4 * Nat.pow 2 1074
    closed := significand % 2 = 0 }

/-- Whether `digits * up / down` lies in the interval. -/
def Neighbourhood.contains (n : Neighbourhood) (digits up down : Nat) : Bool :=
  let point := digits * up * n.denominator
  if n.closed then n.low * down ≤ point && point ≤ n.high * down
  else n.low * down < point && point < n.high * down

/-- The point next to the number that reads back, on the grid with the step `up / down`; the nearer
one if both do. -/
def Neighbourhood.onGrid? (n : Neighbourhood) (up down : Nat) : Option Nat :=
  let below := n.value * down / (up * n.denominator)
  let above := below + 1
  match n.contains below up down, n.contains above up down with
  | true, true =>
    if 2 * n.value * down ≤ (below + above) * up * n.denominator then some below else some above
  | true, false => some below
  | false, true => some above
  | false, false => none

/-- The number of decimal digits in front of the point, or, for a number below one, minus the number
of zeros behind it, up to one. -/
def Neighbourhood.magnitude (n : Neighbourhood) : Int :=
  if n.denominator ≤ n.value then (Nat.toDigits 10 (n.value / n.denominator)).length
  else 1 - (Nat.toDigits 10 (n.denominator / n.value)).length

/-- The shortest digits of a positive number, as a whole number and a power of ten. -/
def Neighbourhood.shortest (n : Neighbourhood) : Nat × Int :=
  let grids := (List.range 20).map fun (count : Nat) => n.magnitude + 1 - (count : Int)
  (grids.findSome? fun power =>
    (n.onGrid? (Nat.pow 10 power.toNat) (Nat.pow 10 (-power).toNat)).map (·, power)).getD (0, 0)

/-- Writes a whole number times a power of ten without an exponent, and without a point if the
number is whole. -/
def positional (digits : Nat) (power : Int) : String :=
  let text := toString digits
  if 0 ≤ power then text ++ "".pushn '0' power.toNat
  else
    let places := (-power).toNat
    let padded := ("".pushn '0' (places + 1 - text.length) ++ text).toList
    let whole := padded.take (padded.length - places)
    String.ofList (whole ++ '.' :: padded.drop (padded.length - places))

/-- Writes a whole number of so many digits times a power of ten with a single digit in front of the
point and the exponent behind. -/
def scientific (digits : Nat) (power : Int) : String :=
  let text := (toString digits).toList
  let exponent := "e" ++ toString (power + text.length - 1)
  match text with
  | [digit] => digit.toString ++ exponent
  | text => String.ofList (text.take 1 ++ '.' :: text.drop 1) ++ exponent

/-- What a floating-point number is. -/
inductive Magnitude where
  /-- No number. -/
  | nan
  /-- Infinity. -/
  | infinite
  /-- The shortest digits that read back, and a power of ten. -/
  | finite (digits : Nat) (power : Int)
deriving DecidableEq, Repr

/-- Whether the sign bit is set, and the number without it. -/
def parts (x : Float) : Bool × Magnitude :=
  let bits := x.toBits.toNat
  let exponent := bits / Nat.pow 2 52 % Nat.pow 2 11
  let fraction := bits % Nat.pow 2 52
  let magnitude :=
    if exponent = 2047 then if fraction = 0 then .infinite else .nan
    else if exponent = 0 && fraction = 0 then .finite 0 0
    else
      let (digits, power) := (neighbourhood exponent fraction).shortest
      .finite digits power
  (bits / Nat.pow 2 63 = 1, magnitude)

/-- The number without an exponent, and without a point if it is whole. -/
def plain (x : Float) : String :=
  match parts x with
  | (_, .nan) => "NaN"
  | (negative, .infinite) => (if negative then "-" else "") ++ "inf"
  | (negative, .finite digits power) => (if negative then "-" else "") ++ positional digits power

/-- The number with a point or an exponent. There is an exponent below `1e-5` and from `1e16` on. A
number that is not finite has no such text. -/
def compact? (x : Float) : Option String :=
  match parts x with
  | (negative, .finite digits power) =>
    -- The number lies between `10 ^ (size - 1)` and `10 ^ size`.
    let size := power + (toString digits).length
    let text :=
      if 0 ≤ power && size ≤ 16 then positional digits power ++ ".0"
      else if -5 < size && size ≤ 16 then positional digits power
      else scientific digits power
    some ((if negative then "-" else "") ++ text)
  | _ => none

end QuorumRing.Decimal
