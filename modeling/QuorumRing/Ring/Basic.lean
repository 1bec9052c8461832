import QuorumRing.Ring.Position
import Std.Data.ExtTreeMap
import Std.Data.ExtTreeSet

/-!
# The consistent-hash ring

Every unit in the ring owns the positions of its virtual nodes. The ring records two things: which
unit owns each occupied position (`slots`), and for each member the set of positions that its labels
gave it when it was added (`members`). Where two labels share a position, the unit that was added
later owns it, while the set recorded for the earlier unit stays as it was.

The ring knows units by reference only. Whether a unit is alive is not its concern: the lookups of
`QuorumRing.Ring.Placement` take the liveness of units as an argument.
-/

namespace QuorumRing

/-- A reference to a unit. A unit that is admitted under an id that was used before is another unit,
and the serial number of its admission tells the two apart. -/
structure UnitRef where
  /-- The id of the unit. -/
  id : String
  /-- The number of units that were admitted before it. -/
  serial : Nat
deriving DecidableEq, Repr

/-- What the ring records about a registered unit. -/
structure Member where
  /-- The unit. -/
  unit : UnitRef
  /-- The positions of its labels. -/
  positions : Std.ExtTreeSet Position

/-- A consistent-hash ring. -/
structure Ring where
  /-- The number of virtual nodes of each unit. -/
  virtualNodes : Nat
  /-- The owner of each occupied position. -/
  slots : Std.ExtTreeMap Position UnitRef := ∅
  /-- The registered units, by id. -/
  members : Std.ExtTreeMap String Member := ∅

namespace Ring

/-- The positions of the labels of a unit, as a set. -/
def labelPositions (ring : Ring) (id : String) : Std.ExtTreeSet Position :=
  .ofList (virtualNodePositions id ring.virtualNodes)

/-- Gives the positions to `unit`, whoever owned them. -/
def claim (unit : UnitRef) (positions : List Position) (slots : Std.ExtTreeMap Position UnitRef) :
    Std.ExtTreeMap Position UnitRef :=
  positions.foldl (fun slots p => slots.insert p unit) slots

/-- Vacates those of the positions that a unit with this id owns. -/
def release (id : String) (positions : List Position) (slots : Std.ExtTreeMap Position UnitRef) :
    Std.ExtTreeMap Position UnitRef :=
  positions.foldl
    (fun slots p => if slots[p]?.any (·.id == id) then slots.erase p else slots) slots

/-- Registers a unit with all its virtual nodes; `none` if its id is taken. -/
def insert? (ring : Ring) (unit : UnitRef) : Option Ring :=
  if unit.id ∈ ring.members then none
  else
    let positions := ring.labelPositions unit.id
    some { ring with
      slots := claim unit positions.toList ring.slots
      members := ring.members.insert unit.id { unit, positions } }

/-- Removes a unit and the positions it still owns; `none` if the id is not registered. -/
def erase? (ring : Ring) (id : String) : Option Ring :=
  ring.members[id]?.map fun member =>
    { ring with
      slots := release id member.positions.toList ring.slots
      members := ring.members.erase id }

/-- The unit registered under an id. -/
def get? (ring : Ring) (id : String) : Option UnitRef := ring.members[id]?.map (·.unit)

/-- Whether an id is registered. -/
def contains (ring : Ring) (id : String) : Bool := ring.members.contains id

/-- The registered units, by id. -/
def units (ring : Ring) : List UnitRef := ring.members.toList.map (·.2.unit)

/-- The number of registered units. -/
def size (ring : Ring) : Nat := ring.members.size

/-- The number of occupied positions. -/
def slotCount (ring : Ring) : Nat := ring.slots.size

/-- The positions recorded for an id, ascending; none if it is not registered. -/
def positionsOf (ring : Ring) (id : String) : List Position :=
  (ring.members[id]?.map (·.positions.toList)).getD []

end Ring

end QuorumRing
