import QuorumRing.Decoding
import QuorumRing.Error
import QuorumRing.Text.Decimal
import QuorumRing.Text.Numeral
import QuorumRing.Tree.Basic

/-!
# Decoding trees

A value of a tree is converted if it can be. Numbers and truth values are texts; texts, truth values
and floating-point numbers are whole numbers. A floating-point number is rounded to the nearest one,
halves away from zero, and if it is out of range the nearest end of the range is taken.
-/

namespace QuorumRing

/-- Puts a name in front of the path of a problem. -/
def LoadProblem.inMember (name : String) (problem : LoadProblem) : LoadProblem :=
  let extended (path : String) : String :=
    if path.isEmpty || path.startsWith "[" then name ++ path else name ++ "." ++ path
  match problem with
  | missingField path => missingField (extended path)
  | wrongType path => wrongType (extended path)
  | wrongShape path => wrongShape (extended path)
  | problem => problem

/-- Puts an index in front of the path of a problem. -/
def LoadProblem.inItem (index : Nat) (problem : LoadProblem) : LoadProblem :=
  let extended (path : String) : String := "[" ++ toString index ++ "]" ++ path
  match problem with
  | missingField path => missingField (extended path)
  | wrongType path => wrongType (extended path)
  | wrongShape path => wrongShape (extended path)
  | problem => problem

namespace Tree

/-- What a value is made of. -/
def shape : Tree → Shape Tree
  | list items => .list items
  | table members => .members members
  | _ => .scalar

/-- The value as a text. -/
def asText : Tree → Except LoadProblem String
  | text s => .ok s
  | bool b => .ok (toString b)
  | int n => .ok (toString n)
  | float x => .ok (Decimal.plain x)
  | nil | list _ | table _ => .error (.wrongType "")

/-- The whole number of at most 64 bits that a text stands for. Some words stand for one or zero. -/
def wordOfText (s : String) : Except LoadProblem Nat :=
  let lower := s.map Char.toLower
  if lower ∈ ["true", "on", "yes"] then .ok 1
  else if lower ∈ ["false", "off", "no"] then .ok 0
  else (Numeral.natural UInt64.size s.toList).mapError fun _ => .wrongType ""

/-- The value as a whole number of at most 64 bits. -/
def asWord : Tree → Except LoadProblem Nat
  | text s => wordOfText s
  | bool b => .ok b.toNat
  | int n => if 0 ≤ n ∧ n < UInt64.size then .ok n.toNat else .error (.wrongType "")
  | float x => .ok x.round.toUInt64.toNat
  | nil | list _ | table _ => .error (.wrongType "")

/-- The value as a whole number below a bound of at most 64 bits. -/
def asNatural (bound : Nat) (value : Tree) : Except LoadProblem Nat := do
  let n ← value.asWord
  if n < bound then .ok n else .error (.wrongType "")

/-- Trees as a format of data. The path of a problem leads to the value it was found at. -/
def dataFormat : DataFormat Tree LoadProblem where
  shape := shape
  text _ := asText
  natural bound _ := asNatural bound
  wrongShape _ _ := .wrongShape ""
  wrongLength _ _ := .wrongShape ""
  missing := .missingField
  unreadable _ := .wrongShape ""
  inMember := .inMember
  inItem := .inItem
  allowsSurplus := true

end Tree

end QuorumRing
