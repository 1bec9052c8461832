import QuorumRing.Cluster.Basic
import QuorumRing.Fleet.Verification

/-!
# Writing, reading and deleting

The coordinator sends every operation to the replicas of its key. A write waits for a majority of
them; a write that falls short leaves in place what was stored. A read asks the replicas one by one,
closest first, and takes the first value that it finds. A delete goes to all of them.
-/

namespace QuorumRing.Cluster

/-- Stores an entry on each of the units. -/
def writeAll (c : Cluster) (key value : String) : List UnitRef → List Wait × Cluster
  | [] => ([], c)
  | target :: targets =>
    let (wait, c) := c.write target key value
    let (waits, c) := writeAll c key value targets
    (wait :: waits, c)

/-- Hands the write to a task for each of the units and waits for them. Every task that was queued
before does a stint first, and what is left of it comes behind the writes. The first outcome wakes the
put, which goes on behind the writes as well. These were queued side by side, so they have all run by
then. If there is no time to wait the tasks stay queued. -/
def fanOut (c : Cluster) (key value : String) (targets : List UnitRef) : List Wait × Cluster :=
  if c.closed then (targets.map fun _ => .dropped, c)
  else if c.writeTimeout = 0 then
    (targets.map fun _ => .timedOut,
      { c with queue := c.queue ++ targets.map fun target => .write target key value })
  else c.round.writeAll key value targets

/-- Writes to the given units and asks for a majority of them. The answer is the number of
acknowledgements seen. -/
def writeQuorum (c : Cluster) (key value : String) (targets : List UnitRef) :
    Except Error Nat × Cluster :=
  let (waits, c) := c.fanOut key value targets
  (Quorum.judge targets.length waits, c)

/-- Writes to the given units, which are the replicas of the key, and counts the outcome. -/
def store (c : Cluster) (key value : String) (targets : List UnitRef) :
    Except Error Unit × Cluster :=
  if targets.isEmpty then (.error .noActiveUnits, c.record (·.recordFailure))
  else
    match c.writeQuorum key value targets with
    | (.ok _, c) => (.ok (), c.record (·.recordWrite {}))
    | (.error e, c) => (.error e, c.record (·.recordFailure))

/-- Stores a value under a key. -/
def put (c : Cluster) (key value : String) : Except Error Unit × Cluster :=
  c.store key value (c.replicas key)

/-- Asks the units one by one for a key, until one holds it. -/
def readFirst (c : Cluster) (key : String) : List UnitRef → Option String × Cluster
  | [] => (none, c)
  | unit :: units =>
    match c.attempt unit (·.get key) with
    | (.ok (some value), c) => (some value, c.record (·.recordUnitOperation unit.id))
    | (_, c) => readFirst c key units

/-- The value of a key. -/
def get (c : Cluster) (key : String) : Option String × Cluster :=
  let candidates := c.replicas key
  if candidates.isEmpty then (none, c)
  else
    let (found, c) := c.readFirst key candidates
    (found, c.record (·.recordRead {}))

/-- Removes a key from each of the units. The answer is whether any of them held it. -/
def removeFrom (c : Cluster) (key : String) : List UnitRef → Bool × Cluster
  | [] => (false, c)
  | unit :: units =>
    match c.attempt unit (·.remove key) with
    | (.ok (some _), c) =>
      let (_, c) := removeFrom (c.record (·.recordUnitOperation unit.id)) key units
      (true, c)
    | (_, c) => removeFrom c key units

/-- Removes a key from all its replicas. The answer is whether any of them held it. -/
def delete (c : Cluster) (key : String) : Bool × Cluster :=
  let (removed, c) := c.removeFrom key (c.replicas key)
  (removed, if removed then c.record (·.recordDelete) else c)

/-- Brings the replicas of a key to the value of the closest one that holds any. -/
def repair (c : Cluster) (key : String) : RepairReport × Cluster :=
  let (report, fleet) := c.fleet.repair key c.replicationFactor
  (report, { c with fleet })

/-- Checks the ring and every stored key. -/
def verify (c : Cluster) : VerifyReport × Cluster :=
  let (report, fleet) := c.fleet.verify c.replicationFactor
  (report, { c with fleet })

end QuorumRing.Cluster
