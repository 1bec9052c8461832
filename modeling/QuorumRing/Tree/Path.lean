import QuorumRing.Text.Numeral
import QuorumRing.Tree.Basic

/-!
# Paths

A path leads from the root of a tree to a value in it: `a.b` is the member `b` of the member `a`,
and `a[2]` the third item of the member `a`. A negative index counts from the end of the list.

A source names its values by paths. A name that does not read as a path is the name of a member.
-/

namespace QuorumRing

/-- A step from a value to one of its parts. -/
inductive Step where
  /-- To a member of a table. -/
  | member (name : String)
  /-- To an item of a list. -/
  | item (index : Int)
deriving DecidableEq, Repr

namespace Step

/-- Whether a character may stand in a name. -/
def isNameChar (c : Char) : Bool := c.isAlphanum || c = '_' || c = '-'

/-- Takes the name of a member from the front of a text. -/
def takeName? (s : List Char) : Option (Step × List Char) :=
  let name := s.takeWhile isNameChar
  if name = [] then none else some (.member (String.ofList name), s.dropWhile isNameChar)

/-- Takes an index and the bracket behind it from the front of a text. -/
def takeIndex? (s : List Char) : Option (Step × List Char) :=
  match s.span (· ≠ ']') with
  | (index, _ :: rest) =>
    let index := (index.dropWhile (· = ' ')).reverse.dropWhile (· = ' ') |>.reverse
    if index.head? = some '+' then none
    else
      match Numeral.signed Numeral.signedBound index with
      | .ok n => some (.item n, rest)
      | .error _ => none
  | (_, []) => none

/-- Reads the steps behind the first one, of at most so many characters. -/
def readWithin : (size : Nat) → List Char → Option (List Step)
  | _, [] => some []
  | 0, _ => none
  | size + 1, '.' :: s => do
    let (step, rest) ← takeName? s
    return step :: (← readWithin size rest)
  | size + 1, '[' :: s => do
    let (step, rest) ← takeIndex? s
    return step :: (← readWithin size rest)
  | _, _ => none

/-- The path that a text names. -/
def path (text : String) : List Step :=
  let steps := do
    let (step, rest) ← takeName? text.toList
    return step :: (← readWithin rest.length rest)
  steps.getD [.member text]

end Step

namespace Tree

/-- Makes room in a list for the item with an index, and gives the index from the front. -/
def makeRoom (index : Int) (items : List Tree) : List Tree × Nat :=
  if 0 ≤ index then (items ++ List.replicate (index.toNat + 1 - items.length) nil, index.toNat)
  else if index.natAbs ≤ items.length then (items, items.length - index.natAbs)
  else (List.replicate (index.natAbs - items.length) nil ++ items, 0)

/-- Changes the value at the end of a path. Tables and lists on the way are made where they are
missing. -/
def update (change : Tree → Tree) : List Step → Tree → Tree
  | [], tree => change tree
  | .member name :: steps, tree =>
    let part := (tree.members.lookup name).getD nil
    table (setMember name (update change steps part) tree.members)
  | .item index :: steps, tree =>
    let (items, position) := makeRoom index tree.items
    list (items.modify position (update change steps))

/-- Lays the values of a source over a tree. -/
def overlay (tree : Tree) (source : List (String × Tree)) : Tree :=
  source.foldl (fun tree (name, value) => tree.update (·.merge value) (Step.path name)) tree

end Tree

end QuorumRing
