import QuorumRing.Settings.Basic
import QuorumRing.Text.Numeral

/-!
# Units in words

A unit is written `id@host:port`. The id ends at the first `@`, and the port begins behind the last
colon, so that the host may hold either of them.
-/

namespace QuorumRing.UnitSpec

/-- What stands in front of the first occurrence of a character and behind it. -/
def splitFirst? (c : Char) (s : List Char) : Option (List Char × List Char) :=
  match s.span (· ≠ c) with
  | (_, []) => none
  | (front, _ :: back) => some (front, back)

/-- What stands in front of the last occurrence of a character and behind it. -/
def splitLast? (c : Char) (s : List Char) : Option (List Char × List Char) :=
  (splitFirst? c s.reverse).map fun (back, front) => (front.reverse, back.reverse)

/-- Why a text describes no unit. -/
inductive Problem where
  /-- There is no `@`. -/
  | noId (text : String)
  /-- There is no colon behind it. -/
  | noPort (address : String)
  /-- The port is no whole number of at most 16 bits. -/
  | invalidPort (port : String) (reason : Numeral.Problem)
deriving DecidableEq, Repr

/-- The problem in words. -/
def Problem.message : Problem → String
  | noId text => s!"expected id@host:port, got '{text}'"
  | noPort address => s!"expected host:port, got '{address}'"
  | invalidPort port reason => s!"invalid port '{port}': {reason.message}"

/-- The unit that a text describes. -/
def parse (text : String) : Except Problem UnitSpec :=
  match splitFirst? '@' text.toList with
  | none => .error (.noId text)
  | some (id, address) =>
    match splitLast? ':' address with
    | none => .error (.noPort (String.ofList address))
    | some (host, port) =>
      match Numeral.natural UInt16.size port with
      | .error reason => .error (.invalidPort (String.ofList port) reason)
      | .ok n => .ok { id := String.ofList id, host := String.ofList host, port := n.toUInt16 }

end QuorumRing.UnitSpec
