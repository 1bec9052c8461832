/-!
# Trees of values

Settings come from several sources, one laid over the other. A source gives a tree of values whose
types are not yet those of the settings, and `Tree.merge` lays one tree over another value by value.
-/

namespace QuorumRing

/-- A value, or a list or table of them. -/
inductive Tree where
  /-- No value. -/
  | nil
  /-- A truth value. -/
  | bool (b : Bool)
  /-- A whole number. -/
  | int (n : Int)
  /-- A floating-point number. -/
  | float (x : Float)
  /-- A text. -/
  | text (s : String)
  /-- A list. -/
  | list (items : List Tree)
  /-- A table: names with their values, each name once. -/
  | table (members : List (String × Tree))

namespace Tree

/-- The members of a table; other values have none. -/
def members : Tree → List (String × Tree)
  | table members => members
  | _ => []

/-- The items of a list; other values have none. -/
def items : Tree → List Tree
  | list items => items
  | _ => []

/-- The members with the value of one of them set. -/
def setMember {α : Type} (name : String) (value : α) : List (String × α) → List (String × α)
  | [] => [(name, value)]
  | (other, old) :: rest =>
    if other = name then (name, value) :: rest else (other, old) :: setMember name value rest

mutual

/-- Lays a value over another one. A table is laid over a table member by member; in all other cases
nothing is left of the old value. -/
def merge (old : Tree) : Tree → Tree
  | table members => table (mergeMembers old.members members)
  | value => value

/-- Lays members over those of a table. -/
def mergeMembers (old : List (String × Tree)) : List (String × Tree) → List (String × Tree)
  | [] => old
  | (name, value) :: rest =>
    mergeMembers (setMember name (merge ((old.lookup name).getD nil) value) old) rest

end

end Tree

end QuorumRing
