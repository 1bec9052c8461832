import QuorumRing.Text.Numeral

/-!
# Decimal numbers with a point and an exponent

`DecimalNumber.toFloat` is the double that such a number stands for. `floatOfText?` reads a text
that is one: a sign, digits with at most one point among or around them, and an exponent, where only
the digits have to be there; or a sign and one of the words `inf`, `infinity` and `nan` in any case.
-/

namespace QuorumRing

/-- A number as it was written: `±digits * 10 ^ (exponent - places)`. -/
structure DecimalNumber where
  /-- Whether there is a minus sign. -/
  minus : Bool := false
  /-- The digits before and after the point. -/
  digits : Nat
  /-- The number of digits after the point. -/
  places : Nat := 0
  /-- The exponent. -/
  exponent : Int := 0
deriving DecidableEq, Repr

namespace DecimalNumber

/-- The nearest double, and infinity if the number is too large. The largest double is below
`10 ^ 309`, and the smallest positive one rounds from above `10 ^ (-324)`, so that a number of
another size need not be looked at closely. -/
def toFloat (d : DecimalNumber) : Float :=
  let power := d.exponent - d.places
  let size := (Nat.toDigits 10 d.digits).length
  let magnitude :=
    if d.digits = 0 || power + size < -330 then 0.0
    else if 310 < power + size then 1.0 / 0.0
    else Float.ofScientific d.digits (power < 0) power.natAbs
  if d.minus then -magnitude else magnitude

/-- The exponent that a text is, if there is one. -/
def exponent? : List Char → Option Int
  | [] => some 0
  | mark :: s =>
    let (minus, digits) :=
      match s with
      | '-' :: s => (true, s)
      | '+' :: s => (false, s)
      | s => (false, s)
    let n := Numeral.ofDigits 10 digits
    if (mark = 'e' || mark = 'E') && !digits.isEmpty && digits.all Char.isDigit then
      some (if minus then -n else n)
    else none

/-- The number that a text without a sign is. -/
def unsigned? (minus : Bool) (s : List Char) : Option DecimalNumber :=
  let whole := s.takeWhile Char.isDigit
  let rest := s.dropWhile Char.isDigit
  let (places, rest) :=
    match rest with
    | '.' :: rest => (rest.takeWhile Char.isDigit, rest.dropWhile Char.isDigit)
    | rest => ([], rest)
  let digits := whole ++ places
  if digits.isEmpty then none
  else
    (exponent? rest).map fun exponent =>
      { minus, digits := Numeral.ofDigits 10 digits, places := places.length, exponent }

end DecimalNumber

/-- The floating-point number that a text is. -/
def floatOfText? (text : String) : Option Float :=
  let (minus, s) :=
    match text.toList with
    | '-' :: s => (true, s)
    | '+' :: s => (false, s)
    | s => (false, s)
  let word := String.ofList (s.map Char.toLower)
  if word = "inf" || word = "infinity" then some (if minus then -1.0 / 0.0 else 1.0 / 0.0)
  else if word = "nan" then some (0.0 / 0.0)
  else (DecimalNumber.unsigned? minus s).map (·.toFloat)

end QuorumRing
