import QuorumRing.Json.Basic
import QuorumRing.Text.DecimalNumber
import QuorumRing.Text.Numeral

/-!
# Reading the tokens of JSON

A text is cut into tokens. Where it cannot be read on, the list ends with `Token.invalid`.

Two things are left open by a token, since they matter only if its value is asked for: a text may
hold half of a surrogate pair, and a number may be too large.
-/

namespace QuorumRing.Json

/-- A number as it was written. -/
structure Literal extends DecimalNumber where
  /-- Whether there is neither a point nor an exponent. -/
  whole : Bool

/-- A piece of JSON. -/
inductive Token where
  /-- The start of an object. -/
  | openObject
  /-- The end of an object. -/
  | closeObject
  /-- The start of an array. -/
  | openArray
  /-- The end of an array. -/
  | closeArray
  /-- What separates two items or members. -/
  | comma
  /-- What separates a key from its value. -/
  | colon
  /-- The null value. -/
  | null
  /-- A truth value. -/
  | bool (b : Bool)
  /-- A number. -/
  | number (literal : Literal)
  /-- A text, unless half of a surrogate pair stands in it. -/
  | string (s : Option String)
  /-- The point from which on the text cannot be read. -/
  | invalid

/-! ## Numbers -/

/-- The nearest double; `none` if the number is too large. -/
def Literal.toFloat? (l : Literal) : Option Float :=
  let x := l.toDecimalNumber.toFloat
  if x.isInf then none else some x

/-- The number; `none` if it is too large. -/
def Literal.value? (l : Literal) : Option Number :=
  if l.whole && !l.minus && l.digits < UInt64.size then some (.natural l.digits)
  else if l.whole && l.minus && 0 < l.digits && l.digits ≤ Numeral.signedBound then
    some (.negative l.digits)
  else l.toFloat?.map .float

/-- Splits off the decimal digits at the front. -/
def spanDigits (cs : List Char) : List Char × List Char :=
  (cs.takeWhile Char.isDigit, cs.dropWhile Char.isDigit)

/-- Splits off the digits of a whole number: a zero, or digits that do not begin with one. -/
def whole? : List Char → Option (List Char × List Char)
  | '0' :: c :: rest => if c.isDigit then none else some (['0'], c :: rest)
  | cs =>
    let (digits, rest) := spanDigits cs
    if digits.isEmpty then none else some (digits, rest)

/-- Splits off the digits behind a point, if there is one. -/
def fraction? : List Char → Option (List Char × List Char)
  | '.' :: cs =>
    let (digits, rest) := spanDigits cs
    if digits.isEmpty then none else some (digits, rest)
  | cs => some ([], cs)

/-- Splits off an exponent, if there is one. -/
def exponent? : List Char → Option (Option Int × List Char)
  | c :: cs =>
    if c = 'e' || c = 'E' then
      let (sign, cs) :=
        match cs with
        | '+' :: cs => (1, cs)
        | '-' :: cs => (-1, cs)
        | cs => ((1 : Int), cs)
      let (digits, rest) := spanDigits cs
      if digits.isEmpty then none else some (some (sign * Numeral.ofDigits 10 digits), rest)
    else some (none, c :: cs)
  | [] => some (none, [])

/-- Splits off a number. -/
def number? (cs : List Char) : Option (Literal × List Char) := do
  let (minus, cs) :=
    match cs with
    | '-' :: cs => (true, cs)
    | cs => (false, cs)
  let (digits, cs) ← whole? cs
  let (places, cs) ← fraction? cs
  let (exponent, cs) ← exponent? cs
  return ({ minus, digits := Numeral.ofDigits 10 (digits ++ places), places := places.length,
            exponent := exponent.getD 0, whole := places.isEmpty && exponent.isNone }, cs)

/-! ## Texts -/

/-- The value of four hexadecimal digits. -/
def hexValue4? (a b c d : Char) : Option Nat :=
  let digits := [a, b, c, d]
  if digits.all fun c => (Numeral.digit? 16 c).isSome then some (Numeral.ofDigits 16 digits)
  else none

/-- What stands between two quotation marks, one character or 16-bit unit at a time. -/
inductive Piece where
  /-- A character. -/
  | char (c : Char)
  /-- An escaped 16-bit unit. -/
  | unit (n : Nat)

/-- The character that a one-letter escape stands for. -/
def shortEscape? : Char → Option Char
  | '"' => some '"'
  | '\\' => some '\\'
  | '/' => some '/'
  | 'b' => some '\x08'
  | 'f' => some '\x0c'
  | 'n' => some '\n'
  | 'r' => some '\r'
  | 't' => some '\t'
  | _ => none

/-- Splits off the pieces up to the closing quotation mark. -/
def pieces? : List Char → Option (List Piece × List Char)
  | [] => none
  | '"' :: rest => some ([], rest)
  | '\\' :: 'u' :: a :: b :: c :: d :: rest => do
    let n ← hexValue4? a b c d
    let (pieces, rest) ← pieces? rest
    return (.unit n :: pieces, rest)
  | '\\' :: c :: rest => do
    let c ← shortEscape? c
    let (pieces, rest) ← pieces? rest
    return (.char c :: pieces, rest)
  | c :: rest =>
    if c = '\\' || c.toNat < 32 then none
    else do
      let (pieces, rest) ← pieces? rest
      return (.char c :: pieces, rest)

/-- Whether a 16-bit unit is the first half of a surrogate pair. -/
def isHighSurrogate (n : Nat) : Bool := 0xD800 ≤ n && n < 0xDC00

/-- Whether a 16-bit unit is the second half of a surrogate pair. -/
def isLowSurrogate (n : Nat) : Bool := 0xDC00 ≤ n && n < 0xE000

/-- The characters of the pieces; `none` if half of a surrogate pair stands among them. -/
def joinPieces? : List Piece → Option (List Char)
  | [] => some []
  | .char c :: rest => (joinPieces? rest).map (c :: ·)
  | .unit n :: .unit m :: rest =>
    if isHighSurrogate n then
      if isLowSurrogate m then
        let c := Char.ofNat (0x10000 + 1024 * (n - 0xD800) + (m - 0xDC00))
        (joinPieces? rest).map (c :: ·)
      else none
    else if isLowSurrogate n then none
    else (joinPieces? (.unit m :: rest)).map (Char.ofNat n :: ·)
  | .unit n :: rest =>
    if isHighSurrogate n || isLowSurrogate n then none
    else (joinPieces? rest).map (Char.ofNat n :: ·)

/-! ## Tokens -/

/-- Whether a character may stand between two tokens. -/
def isBlank (c : Char) : Bool := c = ' ' || c = '\n' || c = '\t' || c = '\r'

/-- Splits a word off the front. -/
def word? (word : List Char) (token : Token) (cs : List Char) : Option (Token × List Char) :=
  if word.isPrefixOf cs then some (token, cs.drop word.length) else none

/-- Splits a token off a text that does not begin with a blank. -/
def token? : List Char → Option (Token × List Char)
  | [] => none
  | '\x7b' :: rest => some (.openObject, rest)
  | '\x7d' :: rest => some (.closeObject, rest)
  | '[' :: rest => some (.openArray, rest)
  | ']' :: rest => some (.closeArray, rest)
  | ',' :: rest => some (.comma, rest)
  | ':' :: rest => some (.colon, rest)
  | '"' :: rest =>
    (pieces? rest).map fun (pieces, rest) =>
      (.string ((joinPieces? pieces).map String.ofList), rest)
  | c :: rest =>
    if c = 'n' then word? ['n', 'u', 'l', 'l'] .null (c :: rest)
    else if c = 't' then word? ['t', 'r', 'u', 'e'] (.bool true) (c :: rest)
    else if c = 'f' then word? ['f', 'a', 'l', 's', 'e'] (.bool false) (c :: rest)
    else (number? (c :: rest)).map fun (literal, rest) => (.number literal, rest)

/-- The tokens of a text of at most `size` characters. -/
def tokensWithin : (size : Nat) → List Char → List Token
  | 0, _ => []
  | size + 1, cs =>
    match cs.dropWhile isBlank with
    | [] => []
    | c :: rest =>
      match token? (c :: rest) with
      | some (token, rest) => token :: tokensWithin size rest
      | none => [.invalid]

/-- The tokens of a text. -/
def tokens (s : String) : List Token := tokensWithin s.length s.toList

end QuorumRing.Json
