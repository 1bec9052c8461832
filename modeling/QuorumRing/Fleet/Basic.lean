import QuorumRing.Ring.Consistency
import QuorumRing.Ring.Placement
import QuorumRing.Unit.Pool

/-!
# Fleets

A fleet is a ring together with the units that it refers to. Here the placement of keys takes
liveness from the units themselves.
-/

namespace QuorumRing

/-- A ring and the units it refers to. -/
structure Fleet where
  /-- The ring. -/
  ring : Ring
  /-- The units, in the ring or not. -/
  pool : Pool := {}

namespace Fleet

/-- The fleet without units. -/
def empty (virtualNodes : Nat) : Fleet := { ring := { virtualNodes } }

/-- The current state of a unit. -/
def get (fleet : Fleet) (unit : UnitRef) : StorageUnit := fleet.pool.get unit

/-- The registered units, by id. -/
def units (fleet : Fleet) : List UnitRef := fleet.ring.units

/-- The registered units that are active, by id. -/
def activeUnits (fleet : Fleet) : List UnitRef := fleet.units.filter fleet.pool.isActive

/-- The active units that hold a key, closest first: at most `r` of them. -/
def replicas (fleet : Fleet) (key : String) (r : Nat) : List UnitRef :=
  fleet.ring.replicaSet fleet.pool.isActive key r

/-- Admits a new unit and registers it; `none` if its id is taken. -/
def add? (fleet : Fleet) (unit : StorageUnit) : Option (UnitRef × Fleet) :=
  let (ref, pool) := fleet.pool.enroll unit
  (fleet.ring.insert? ref).map fun ring => (ref, { ring, pool })

/-- Takes a unit out of the ring; `none` if the id is not registered. -/
def remove? (fleet : Fleet) (id : String) : Option Fleet :=
  (fleet.ring.erase? id).map fun ring => { fleet with ring }

/-- Runs an operation on a unit. A unit that refuses it stays as it is. -/
def attempt {α : Type} (fleet : Fleet) (unit : UnitRef)
    (operation : StorageUnit → Except Error (α × StorageUnit)) : Except Error α × Fleet :=
  let (answer, pool) := fleet.pool.attempt unit operation
  (answer, { fleet with pool })

/-- Switches a unit on or off. -/
def setActive (fleet : Fleet) (unit : UnitRef) (active : Bool) : Fleet :=
  { fleet with pool := fleet.pool.modify unit (·.setActive active) }

/-- The keys stored on any of the units. -/
def keysOn (fleet : Fleet) (units : List UnitRef) : Std.ExtTreeSet String :=
  units.foldl (fun keys unit => keys.insertMany (fleet.get unit).keys) ∅

/-- The keys stored on any registered unit. -/
def storedKeys (fleet : Fleet) : Std.ExtTreeSet String := fleet.keysOn fleet.units

/-- The number of keys on each registered unit, by id. -/
def distribution (fleet : Fleet) : List (String × Nat) :=
  fleet.units.map fun unit => (unit.id, (fleet.get unit).size)

end Fleet

end QuorumRing
