import QuorumRing.Error
import QuorumRing.Text.Numeral

/-!
# Durations

A span of time in whole seconds and nanoseconds. It is written as a whole number and a unit with
nothing in between: `ms`, `s`, `m` or `h`. White space around it is ignored: the characters with the
Unicode property `White_Space`.
-/

namespace QuorumRing

namespace Text

/-- Whether a character is white space. -/
def isBlank (c : Char) : Bool :=
  let n := c.toNat
  (0x9 ≤ n && n ≤ 0xd) || n = 0x20 || n = 0x85 || n = 0xa0 || n = 0x1680 ||
    (0x2000 ≤ n && n ≤ 0x200a) || n = 0x2028 || n = 0x2029 || n = 0x202f || n = 0x205f || n = 0x3000

/-- The text without the white space at its end. -/
def trimEnd (s : List Char) : List Char := (s.reverse.dropWhile isBlank).reverse

/-- The text without the white space at its ends. -/
def trim (s : List Char) : List Char := trimEnd (s.dropWhile isBlank)

end Text

/-- A span of time. -/
structure Duration where
  /-- The whole seconds. -/
  seconds : UInt64 := 0
  /-- The rest, in nanoseconds: less than a second. -/
  nanos : UInt32 := 0
deriving DecidableEq, Repr

namespace Duration

/-- A number of milliseconds. -/
def ofMillis (n : UInt64) : Duration :=
  { seconds := n / 1000, nanos := (n % 1000).toUInt32 * 1000000 }

/-- A number of seconds. -/
def ofSeconds (n : UInt64) : Duration := { seconds := n }

/-- The whole milliseconds. -/
def millis (d : Duration) : Nat := d.seconds.toNat * 1000 + d.nanos.toNat / 1000000

/-- The milliseconds as a floating-point number. The seconds are added up first. -/
def millisFloat (d : Duration) : Float :=
  (d.seconds.toFloat + d.nanos.toFloat / 1e9) * 1000.0

/-- Why a text is no duration. -/
inductive Problem where
  /-- There is nothing but white space. -/
  | empty
  /-- What stands before the unit is no whole number of at most 64 bits. -/
  | invalid (text : String)
  /-- There is no such unit. -/
  | unknownUnit (unit : String)
deriving DecidableEq, Repr

/-- The problem in words. -/
def Problem.message : Problem → String
  | empty => "empty duration"
  | invalid text => "invalid duration: " ++ text
  | unknownUnit unit => "unknown duration unit: " ++ unit

/-- The number and the unit: the unit is `ms` or else the last character. -/
def splitUnit (text : List Char) : List Char × List Char :=
  if ['m', 's'] <:+ text then (text.take (text.length - 2), ['m', 's'])
  else (text.take (text.length - 1), text.drop (text.length - 1))

/-- So many of a unit. Minutes and hours are counted in seconds modulo `2 ^ 64`. -/
def ofUnit? (n : UInt64) : List Char → Option Duration
  | ['m', 's'] => some (ofMillis n)
  | ['s'] => some (ofSeconds n)
  | ['m'] => some (ofSeconds (n * 60))
  | ['h'] => some (ofSeconds (n * 3600))
  | _ => none

/-- The duration that a text without white space around it stands for. -/
def ofTrimmed (text : List Char) : Except Problem Duration :=
  if text = [] then .error .empty
  else
    let (number, unit) := splitUnit text
    match Numeral.natural UInt64.size number with
    | .error _ => .error (.invalid (String.ofList text))
    | .ok n =>
      match ofUnit? n.toUInt64 unit with
      | some duration => .ok duration
      | none => .error (.unknownUnit (String.ofList unit))

/-- The duration that a text stands for. -/
def parse (text : String) : Except Error Duration :=
  (ofTrimmed (Text.trim text.toList)).mapError fun problem => .invalidConfig problem.message

end Duration

end QuorumRing
