import QuorumRing.Ring.Basic

/-!
# Consistency of a ring

A ring is consistent when every member has as many positions as it has virtual nodes and owns each
of them. It fails to be so when two labels share a position, be they of one unit or of two.
-/

namespace QuorumRing

/-- One thing that is wrong with a ring. -/
inductive Inconsistency where
  /-- The labels of a unit gave it fewer positions than it has virtual nodes. -/
  | count (id : String) (found expected : Nat)
  /-- A position recorded for a unit is owned by another one. -/
  | takenOver (position : Position) (id owner : String)
  /-- A position recorded for a unit is not occupied. -/
  | missing (position : Position) (id : String)
deriving DecidableEq, Repr

namespace Inconsistency

/-- The problem in words. -/
def message : Inconsistency → String
  | count id found expected => s!"node {id} has {found} virtual nodes, expected {expected}"
  | takenOver position id owner => s!"position {position} of node {id} is owned by {owner}"
  | missing position id => s!"position {position} of node {id} is missing from the ring"

/-- Whether the problem is about who owns a position. -/
def isOwnership : Inconsistency → Bool
  | count .. => false
  | takenOver .. | missing .. => true

end Inconsistency

namespace Ring

/-- What is wrong with one position recorded for a unit. -/
def ownershipProblem? (ring : Ring) (id : String) (position : Position) : Option Inconsistency :=
  match ring.slots[position]? with
  | some owner => if owner.id = id then none else some (.takenOver position id owner.id)
  | none => some (.missing position id)

/-- What is wrong with one member: the number of its positions first, then position by position. -/
def memberProblems (ring : Ring) (id : String) (member : Member) : List Inconsistency :=
  let count :=
    if member.positions.size = ring.virtualNodes then []
    else [.count id member.positions.size ring.virtualNodes]
  count ++ member.positions.toList.filterMap (ring.ownershipProblem? id)

/-- Everything that is wrong with a ring, by id. -/
def inconsistencies (ring : Ring) : List Inconsistency :=
  ring.members.toList.flatMap fun (id, member) => ring.memberProblems id member

/-- Whether nothing is wrong with a ring. -/
def isConsistent (ring : Ring) : Bool := ring.inconsistencies.isEmpty

end Ring

end QuorumRing
