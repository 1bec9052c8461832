import QuorumRing.Error
import Std.Data.ExtTreeMap

/-!
# Storage units

A storage unit is a map from strings to strings behind a liveness flag. While the unit is inactive
it refuses to store, read and remove, and a refused operation leaves no trace; every accepted one is
counted. What the unit holds can be listed at any time.
-/

namespace QuorumRing

/-- The stored entries of a unit. -/
abbrev Contents := Std.ExtTreeMap String String

/-- A storage unit. -/
structure StorageUnit where
  /-- The id of the unit. -/
  id : String
  /-- The host it is said to run on. -/
  host : String
  /-- The port it is said to listen on. -/
  port : UInt16
  /-- The stored entries. -/
  contents : Contents := ∅
  /-- Whether the unit answers. -/
  active : Bool := true
  /-- The number of operations it has accepted: the true one, where a counter of 64 bits wraps
  around. -/
  operations : Nat := 0

namespace StorageUnit

variable (unit : StorageUnit) (key value : String)

/-- The host and the port, joined by a colon. -/
def address : String := s!"{unit.host}:{unit.port}"

/-- Runs an operation on the contents and counts it, if the unit is active. -/
def accept {α : Type} (operation : Contents → α × Contents) : Except Error (α × StorageUnit) :=
  if unit.active then
    let (answer, contents) := operation unit.contents
    .ok (answer, { unit with contents, operations := unit.operations + 1 })
  else .error (.nodeInactive unit.id)

/-- Runs an operation. A unit that refuses it stays as it is. -/
def attempt {α : Type} (operation : StorageUnit → Except Error (α × StorageUnit)) :
    Except Error α × StorageUnit :=
  match operation unit with
  | .ok (answer, unit') => (.ok answer, unit')
  | .error e => (.error e, unit)

/-- Stores a value. The answer is the value that it replaced. -/
def put : Except Error (Option String × StorageUnit) :=
  unit.accept fun contents => (contents[key]?, contents.insert key value)

/-- Reads a value. -/
def get : Except Error (Option String × StorageUnit) :=
  unit.accept fun contents => (contents[key]?, contents)

/-- Removes a key. The answer is the value that was removed. -/
def remove : Except Error (Option String × StorageUnit) :=
  unit.accept fun contents => (contents[key]?, contents.erase key)

/-- Whether the unit is active and holds the key. -/
def containsKey : Bool := unit.active && unit.contents.contains key

/-- The stored keys, sorted. -/
def keys : List String := unit.contents.keys

/-- The number of stored keys. -/
def size : Nat := unit.contents.size

/-- Switches the unit on or off. Its entries stay. -/
def setActive (active : Bool) : StorageUnit := { unit with active }

/-- Whether the unit is active and was probed of late. The model has no clock, so no probe is ever
overdue. -/
def isHealthy : Bool := unit.active

/-- The key that a self test writes to. -/
def probeKey : String := "__health_check__"

/-- The value that a self test writes. -/
def probeValue : String := "ok"

/-- Writes the probe value, reads it back, and puts back what was there. Also an inactive unit can
be tested, and a test is not counted as an operation. -/
def selfTest : Except Error Unit × StorageUnit :=
  let previous := unit.contents[probeKey]?
  let written := unit.contents.insert probeKey probeValue
  let readBack := written[probeKey]?
  let restored :=
    match previous with
    | some value => written.insert probeKey value
    | none => written.erase probeKey
  let verdict :=
    if readBack = some probeValue then .ok ()
    else .error (.internal s!"self-test round trip failed on node {unit.id}")
  (verdict, { unit with contents := restored })

/-- A self test succeeds and leaves the unit as it was, also where a user keeps an entry under its
key. -/
theorem selfTest_eq : unit.selfTest = (.ok (), unit) := by
  have hcontents : unit.selfTest.2.contents = unit.contents := by
    refine Std.ExtTreeMap.ext_getElem? fun j => ?_
    unfold selfTest
    cases h : unit.contents[probeKey]? with
    | none =>
      by_cases hj : j = probeKey
      · simp [hj, h]
      · simp [Std.ExtTreeMap.getElem?_erase, Std.ExtTreeMap.getElem?_insert, Ne.symm hj]
    | some value =>
      by_cases hj : j = probeKey
      · simp [hj, h]
      · simp [Std.ExtTreeMap.getElem?_insert, Ne.symm hj]
  refine Prod.ext ?_ (congrArg (fun contents => { unit with contents }) hcontents)
  simp [selfTest]

/-- The unit on one line. -/
def describe : String :=
  s!"Node\x7bid='{unit.id}', address='{unit.address}', active={unit.active}, " ++
    s!"dataSize={unit.size}, operations={unit.operations}\x7d"

end StorageUnit

end QuorumRing
