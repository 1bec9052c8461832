/-!
# Whole numbers in decimal

A numeral is one or more decimal digits, with an optional sign in front. Its value has to stay below
a bound, which stands for the width of the type that holds it. A text is read from the left, and the
first character that is wrong decides how it is refused.

The functions on texts at the end take something from the front of a text, digits for the most part,
and give it back together with the rest.
-/

namespace QuorumRing.Numeral

/-- The bound of the whole numbers that a signed number of 64 bits may be. -/
def signedBound : Nat := UInt64.size / 2

/-- Why a text is no numeral. -/
inductive Problem where
  /-- There is no character. -/
  | empty
  /-- A character is no digit, or the sign stands alone. -/
  | invalidDigit
  /-- The number is too large. -/
  | tooLarge
  /-- The number is too small. -/
  | tooSmall
deriving DecidableEq, Repr

/-- The problem in words. -/
def Problem.message : Problem → String
  | empty => "cannot parse integer from empty string"
  | invalidDigit => "invalid digit found in string"
  | tooLarge => "number too large to fit in target type"
  | tooSmall => "number too small to fit in target type"

/-- The value of a digit in a base of at most 36. Letters of either case follow the nine. -/
def digit? (base : Nat) (c : Char) : Option Nat :=
  let value :=
    if '0' ≤ c && c ≤ '9' then c.toNat - '0'.toNat
    else if 'a' ≤ c && c ≤ 'z' then c.toNat - 'a'.toNat + 10
    else if 'A' ≤ c && c ≤ 'Z' then c.toNat - 'A'.toNat + 10
    else base
  if value < base then some value else none

/-- The number that digits in a base stand for. Other characters count as zero. -/
def ofDigits (base : Nat) (digits : List Char) : Nat :=
  digits.foldl (fun n c => base * n + (digit? base c).getD 0) 0

/-- The value of the digits that follow those of the number `n`, if it stays below the bound. -/
def readDigits (bound : Nat) (n : Nat) : List Char → Except Problem Nat
  | [] => .ok n
  | c :: rest =>
    match digit? 10 c with
    | none => .error .invalidDigit
    | some d => if 10 * n + d < bound then readDigits bound (10 * n + d) rest else .error .tooLarge

/-- The value of one or more digits, if it stays below the bound. -/
def readAll (bound : Nat) : List Char → Except Problem Nat
  | [] => .error .invalidDigit
  | digits => readDigits bound 0 digits

/-- The value of a numeral without a sign or with a plus sign. -/
def natural (bound : Nat) : List Char → Except Problem Nat
  | [] => .error .empty
  | '+' :: digits => readAll bound digits
  | digits => readAll bound digits

/-- The value of a numeral with an optional sign, from `-bound` up to `bound - 1`. -/
def signed (bound : Nat) : List Char → Except Problem Int
  | '-' :: digits =>
    match readAll (bound + 1) digits with
    | .ok n => .ok (-n)
    | .error .tooLarge => .error .tooSmall
    | .error problem => .error problem
  | text => (natural bound text).map (fun (n : Nat) => (n : Int))

end QuorumRing.Numeral

namespace QuorumRing.Text

/-- Takes a certain character. -/
def takeChar? (c : Char) : List Char → Option (List Char)
  | first :: rest => if first = c then some rest else none
  | [] => none

/-- Takes as many digits of a base as there are, at least one, and gives them and their value. -/
def takeNumber? (base : Nat) (s : List Char) : Option (List Char × Nat × List Char) :=
  let digits := s.takeWhile fun c => (Numeral.digit? base c).isSome
  if digits = [] then none
  else some (digits, Numeral.ofDigits base digits, s.drop digits.length)

/-- Takes exactly so many decimal digits, and gives their value. -/
def takeDigits? (count : Nat) (s : List Char) : Option (Nat × List Char) :=
  let digits := s.take count
  if digits.length = count && digits.all Char.isDigit then
    some (Numeral.ofDigits 10 digits, s.drop count)
  else none

end QuorumRing.Text
