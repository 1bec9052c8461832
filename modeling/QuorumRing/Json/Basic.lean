/-!
# JSON values

A number keeps the form in which it was written: whole numbers that fit a 64-bit word, signed ones
for negative numbers, and floating-point numbers for all else.
-/

namespace QuorumRing

/-- A JSON number. -/
inductive Json.Number where
  /-- A whole number of at most 64 bits. -/
  | natural (n : Nat)
  /-- The number `-n`, for a positive `n` of at most 63 bits or the next one. -/
  | negative (n : Nat)
  /-- Any other number. -/
  | float (x : Float)

/-- A JSON value. -/
inductive Json where
  /-- The null value. -/
  | null
  /-- A truth value. -/
  | bool (b : Bool)
  /-- A number. -/
  | number (n : Json.Number)
  /-- A text. -/
  | string (s : String)
  /-- An array. -/
  | array (items : List Json)
  /-- An object. -/
  | object (members : List (String × Json))

namespace Json

/-- A whole number. -/
def nat (n : Nat) : Json := .number (.natural n)

/-- An array of texts. -/
def strings (l : List String) : Json := .array (l.map .string)

/-- A text, or null. -/
def optional : Option String → Json
  | some s => .string s
  | none => .null

/-- The members sorted by key, and of those with the same key the last. -/
def sortMembers (members : List (String × Json)) : List (String × Json) :=
  members.foldl insert []
where
  /-- Puts a member in its place. -/
  insert : List (String × Json) → String × Json → List (String × Json)
    | [], member => [member]
    | other :: rest, member =>
      if member.1 < other.1 then member :: other :: rest
      else if member.1 = other.1 then member :: rest
      else other :: insert rest member

/-- The value of a member of an object. -/
def get? (key : String) : Json → Option Json
  | object members => members.lookup key
  | _ => none

end Json

end QuorumRing
