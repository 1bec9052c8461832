import QuorumRing.Tree.Basic

/-!
# The tables of a TOML document

A table can be written in parts, and it depends on how its parts are written whether another one may
follow. A table with a header of its own has no other header, and none of its members is given by a
dotted key from outside. A table that a dotted key makes has no header, and a table that is named in
the header of an inner one may still get a header. Lists and tables in braces are complete.
-/

namespace QuorumRing.Toml

/-- How a table came about. -/
inductive Origin where
  /-- It is named in the header of an inner table. -/
  | implied
  /-- It is named in a dotted key. -/
  | dotted
  /-- It has a header. -/
  | declared
deriving DecidableEq, Repr

/-- A member of a table that is being read. -/
inductive Entry where
  /-- A value that is complete. -/
  | value (tree : Tree)
  /-- A table. -/
  | table (origin : Origin) (members : List (String × Entry))
  /-- A list of tables, each with a header. -/
  | tables (items : List (List (String × Entry)))

/-- The members of a table that is being read. -/
abbrev Section := List (String × Entry)

mutual

/-- The tree of an entry. -/
def Entry.toTree : Entry → Tree
  | .value tree => tree
  | .table _ members => .table (membersToTrees members)
  | .tables items => .list (itemsToTrees items)

/-- The trees of members. -/
def membersToTrees : Section → List (String × Tree)
  | [] => []
  | (name, entry) :: rest => (name, entry.toTree) :: membersToTrees rest

/-- The trees of tables. -/
def itemsToTrees : List Section → List Tree
  | [] => []
  | item :: rest => .table (membersToTrees item) :: itemsToTrees rest

end

namespace Section

/-- Changes the table at the end of a path, in a list of tables the last one. Tables that are
missing on the way are made. `dotted` says whether the path is a dotted key; such a key passes
through tables without a header only, and ends in one that a dotted key has made. -/
def within? (dotted : Bool) (change : Section → Option Section) : List String → Section →
    Option Section
  | [], members => change members
  | name :: path, members =>
    let inside (inner : Section) : Option Section := within? dotted change path inner
    let entry : Option Entry :=
      match members.lookup name with
      | none => (inside []).map (.table (if dotted then .dotted else .implied))
      | some (.table origin inner) =>
        if dotted && (origin = .declared || (path.isEmpty && origin != .dotted)) then none
        else (inside inner).map (.table origin)
      | some (.tables items) =>
        if dotted then none
        else
          items.getLast?.bind fun last =>
            (inside last).map fun last => .tables (items.dropLast ++ [last])
      | some (.value _) => none
    entry.map fun entry => Tree.setMember name entry members

/-- Gives a member a value. It may not have one already. -/
def assign? (path : List String) (name : String) (value : Tree) : Section → Option Section :=
  within? true
    (fun members =>
      if (members.lookup name).isSome then none else some (members ++ [(name, .value value)]))
    path

/-- Begins a table. -/
def declare? (path : List String) (name : String) : Section → Option Section :=
  within? false
    (fun members =>
      match members.lookup name with
      | none => some (members ++ [(name, .table .declared [])])
      | some (.table .implied inner) => some (Tree.setMember name (.table .declared inner) members)
      | some _ => none)
    path

/-- Begins the next table of a list. -/
def declareItem? (path : List String) (name : String) : Section → Option Section :=
  within? false
    (fun members =>
      match members.lookup name with
      | none => some (members ++ [(name, .tables [[]])])
      | some (.tables items) => some (Tree.setMember name (.tables (items ++ [[]])) members)
      | some _ => none)
    path

end Section

end QuorumRing.Toml
