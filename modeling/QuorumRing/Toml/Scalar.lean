import QuorumRing.Text.DecimalNumber
import QuorumRing.Toml.Moment
import QuorumRing.Toml.Text
import QuorumRing.Tree.Basic

/-!
# Values without parts in TOML

Truth values, numbers, dates and times are words: runs of certain characters. A number may have
single underscores between its digits. A date or time becomes a text.
-/

namespace QuorumRing.Toml

/-- Whether a character may stand in a word. -/
def isWordChar (c : Char) : Bool :=
  c.isAlphanum || c = '_' || c = '-' || c = '+' || c = '.' || c = ':'

/-- The digits without the underscores between them, if there is at least one digit and all are
digits of the base. -/
def digits? (base : Nat) (s : List Char) : Option (List Char) :=
  let digits := s.filter (· != '_')
  let isDigit (c : Char) : Bool := (Numeral.digit? base c).isSome
  let separated := (s.zip s.tail).all fun (a, b) => a != '_' || b != '_'
  if digits.all isDigit && separated && s.head?.any isDigit && s.getLast?.any isDigit then
    some digits
  else none

/-- The sign at the front, and what stands behind it. -/
def splitSign : List Char → Option Char × List Char
  | '+' :: s => (some '+', s)
  | '-' :: s => (some '-', s)
  | s => (none, s)

/-- The digits of a whole number without a needless zero in front. -/
def wholeDigits? (s : List Char) : Option (List Char) := do
  let digits ← digits? 10 s
  if digits.length = 1 || digits.head? != some '0' then some digits else none

/-- A whole number of 64 bits. -/
def int? (s : List Char) : Option Int := do
  let (sign, magnitude) := splitSign s
  let n : Nat ←
    match sign, magnitude with
    | none, '0' :: 'x' :: s => (digits? 16 s).map (Numeral.ofDigits 16)
    | none, '0' :: 'o' :: s => (digits? 8 s).map (Numeral.ofDigits 8)
    | none, '0' :: 'b' :: s => (digits? 2 s).map (Numeral.ofDigits 2)
    | _, s => (wholeDigits? s).map (Numeral.ofDigits 10)
  let n : Int := if sign = some '-' then -n else n
  if -Numeral.signedBound ≤ n ∧ n < Numeral.signedBound then some n else none

/-- The exponent behind a number, if there is one. -/
def exponent? : List Char → Option Int
  | [] => some 0
  | mark :: s => do
    let (sign, magnitude) := splitSign s
    let n := Numeral.ofDigits 10 (← digits? 10 magnitude)
    if mark = 'e' || mark = 'E' then some (if sign = some '-' then -n else n) else none

/-- A floating-point number. One that is too large is refused. -/
def float? (s : List Char) : Option Float := do
  let (sign, magnitude) := splitSign s
  let minus := sign = some '-'
  if magnitude = ['i', 'n', 'f'] then return if minus then -1.0 / 0.0 else 1.0 / 0.0
  if magnitude = ['n', 'a', 'n'] then return 0.0 / 0.0
  let (number, exponent) := magnitude.span fun c => c != 'e' && c != 'E'
  let (whole, fraction) := number.span (· != '.')
  if fraction = [] && exponent = [] then none
  let whole ← wholeDigits? whole
  let places ← if fraction = [] then some [] else digits? 10 (fraction.drop 1)
  let x := DecimalNumber.toFloat
    { minus, digits := Numeral.ofDigits 10 (whole ++ places), places := places.length,
      exponent := ← exponent? exponent }
  if x.isInf then none else some x

/-- The value that a word is. -/
def word? (s : List Char) : Option Tree :=
  if s = ['t', 'r', 'u', 'e'] then some (.bool true)
  else if s = ['f', 'a', 'l', 's', 'e'] then some (.bool false)
  else
    (int? s).map .int <|> (float? s).map .float <|> (Moment.parse? s).map .text

/-- Takes a word. A date goes on behind a blank if a digit follows. -/
def takeWord (s : List Char) : List Char × List Char :=
  let word := s.takeWhile isWordChar
  let rest := s.dropWhile isWordChar
  match Moment.takeDate? word, rest with
  | some (_, []), ' ' :: c :: more =>
    if c.isDigit then
      (word ++ ' ' :: (c :: more).takeWhile isWordChar, (c :: more).dropWhile isWordChar)
    else (word, rest)
  | _, _ => (word, rest)

/-- Takes a value without parts. -/
def takeScalar? (s : List Char) : Option (Tree × List Char) :=
  match takeText? s with
  | some (text, rest) => some (.text (String.ofList text), rest)
  | none =>
    let (word, rest) := takeWord s
    (word? word).map (·, rest)

end QuorumRing.Toml
