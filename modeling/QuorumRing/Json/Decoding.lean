import QuorumRing.Decoding
import QuorumRing.Json.Printer
import QuorumRing.Text.Printable

/-!
# Decoding JSON

What a JSON value has to look like to stand for a value of another type. Nothing is converted: a
number is no text, and a number with a point is no whole number.
-/

namespace QuorumRing.Json

/-- Why a value has not the expected form. -/
inductive Mismatch where
  /-- The value is of another kind. -/
  | wrongType (found expected : String)
  /-- The value is of the right kind but not in the range. -/
  | wrongValue (found expected : String)
  /-- An array has not the right number of items. -/
  | wrongLength (length : Nat) (expected : String)
  /-- A member is missing. -/
  | missingField (name : String)
  /-- A text does not stand for a value of the expected type. -/
  | unreadable (reason : String)
deriving DecidableEq, Repr

/-- The mismatch in words. -/
def Mismatch.message : Mismatch → String
  | wrongType found expected => s!"invalid type: {found}, expected {expected}"
  | wrongValue found expected => s!"invalid value: {found}, expected {expected}"
  | wrongLength length expected => s!"invalid length {length}, expected {expected}"
  | missingField name => "missing field `" ++ name ++ "`"
  | unreadable reason => reason

/-- What a value is, in words. -/
def describe : Json → String
  | null => "null"
  | bool b => "boolean `" ++ toString b ++ "`"
  | number (.float x) => "floating point `" ++ (Number.float x).text ++ "`"
  | number n => "integer `" ++ n.text ++ "`"
  | string s => "string " ++ Text.quoted s
  | array _ => "sequence"
  | object _ => "map"

/-- What a value is made of. -/
def shape : Json → Shape Json
  | array items => .list items
  | object members => .members members
  | _ => .scalar

/-- The text that a value is. -/
def asText (expected : String) : Json → Except Mismatch String
  | string s => .ok s
  | value => .error (.wrongType value.describe expected)

/-- The whole number below a bound that a value is. -/
def asNatural (bound : Nat) (expected : String) : Json → Except Mismatch Nat
  | number (.natural n) =>
    if n < bound then .ok n else .error (.wrongValue (number (.natural n)).describe expected)
  | number (.negative n) => .error (.wrongValue (number (.negative n)).describe expected)
  | value => .error (.wrongType value.describe expected)

/-- JSON as a format of data. A mismatch does not tell the place where it was found. -/
def dataFormat : DataFormat Json Mismatch where
  shape := shape
  text := asText
  natural := asNatural
  wrongShape expected value := .wrongType value.describe expected
  wrongLength := .wrongLength
  missing := .missingField
  unreadable := .unreadable
  inMember _ mismatch := mismatch
  inItem _ mismatch := mismatch
  allowsSurplus := false

end QuorumRing.Json
