import QuorumRing.Fleet.Basic

/-!
# Moving data after a change of membership

When a unit joins, it pulls every key whose replica set it is now part of (`Fleet.migrate`). The
value comes from the first other unit, in the order of ids, that holds the key without being a
replica of it, and that copy is deleted; if all holders are replicas, the first of them is copied
from.

When a unit leaves, the entries it held are stored again on the replica sets they have without it
(`Fleet.redistribute`).
-/

namespace QuorumRing

/-- What became of one key during a migration. -/
inductive Pull where
  /-- The key does not concern the new unit, or nothing had to be done. -/
  | skipped
  /-- The value was taken from a unit that is not a replica of the key. -/
  | moved
  /-- The value was copied from a replica. -/
  | copied
  /-- A unit refused. -/
  | failed
deriving DecidableEq, Repr

/-- The outcome of a migration. -/
structure MigrationReport where
  /-- The id of the new unit. -/
  id : String
  /-- The number of keys found on the other units. -/
  scanned : Nat := 0
  /-- The number of keys moved. -/
  moved : Nat := 0
  /-- The number of keys copied. -/
  copied : Nat := 0
  /-- The number of keys that a unit refused. -/
  failed : Nat := 0
deriving DecidableEq, Repr

/-- Adds the outcome of one key. -/
def MigrationReport.count (report : MigrationReport) : Pull → MigrationReport
  | .skipped => report
  | .moved => { report with moved := report.moved + 1 }
  | .copied => { report with copied := report.copied + 1 }
  | .failed => { report with failed := report.failed + 1 }

/-- The outcome of a redistribution. -/
structure RedistributionReport where
  /-- The number of entries that at least one unit stored. -/
  redistributed : Nat := 0
  /-- The number of entries that none stored. -/
  failed : Nat := 0
deriving DecidableEq, Repr

namespace Fleet

/-- Where to take a key from: the first holder that is no owner, and whether it is stale in that
sense; or else the first holder. -/
def source? (owners : List String) (holders : List UnitRef) : Option (UnitRef × Bool) :=
  match holders.find? fun unit => !owners.contains unit.id with
  | some unit => some (unit, true)
  | none => holders.head?.map fun unit => (unit, false)

/-- Brings one key onto the new unit, if it belongs there and is missing. -/
def pull (fleet : Fleet) (r : Nat) (target : UnitRef) (others : List UnitRef) (key : String) :
    Pull × Fleet :=
  let owners := (fleet.replicas key r).map (·.id)
  if !owners.contains target.id || (fleet.get target).containsKey key then (.skipped, fleet)
  else
    match source? owners (others.filter fun unit => (fleet.get unit).containsKey key) with
    | none => (.skipped, fleet)
    | some (source, stale) =>
      match fleet.attempt source (·.get key) with
      | (.error _, fleet) => (.failed, fleet)
      | (.ok none, fleet) => (.skipped, fleet)
      | (.ok (some value), fleet) =>
        match fleet.attempt target (·.put key value) with
        | (.error _, fleet) => (.failed, fleet)
        | (.ok _, fleet) =>
          if stale then (.moved, (fleet.attempt source (·.remove key)).2) else (.copied, fleet)

/-- Brings the keys onto the new unit, one after the other. -/
def pullAll (fleet : Fleet) (r : Nat) (target : UnitRef) (others : List UnitRef)
    (report : MigrationReport) : List String → MigrationReport × Fleet
  | [] => (report, fleet)
  | key :: keys =>
    let (outcome, fleet) := fleet.pull r target others key
    pullAll fleet r target others (report.count outcome) keys

/-- The registered units apart from a new one. -/
def others (fleet : Fleet) (target : UnitRef) : List UnitRef :=
  fleet.units.filter (·.id != target.id)

/-- Brings each key of the other units that belongs on `target` onto it, in order of the keys. -/
def migrate (fleet : Fleet) (target : UnitRef) (r : Nat) : MigrationReport × Fleet :=
  let others := fleet.others target
  let keys := fleet.keysOn others
  fleet.pullAll r target others { id := target.id, scanned := keys.size } keys.toList

/-- Stores an entry on each of the units. The answer is whether any of them accepted it. -/
def storeOn (fleet : Fleet) (key value : String) : List UnitRef → Bool × Fleet
  | [] => (false, fleet)
  | unit :: units =>
    let (answer, fleet) := fleet.attempt unit (·.put key value)
    let (stored, fleet) := storeOn fleet key value units
    (answer.isOk || stored, fleet)

/-- Stores the entries on their replica sets, one after the other. -/
def redistribute (fleet : Fleet) (r : Nat) :
    List (String × String) → RedistributionReport × Fleet
  | [] => ({}, fleet)
  | (key, value) :: entries =>
    let (stored, fleet) := fleet.storeOn key value (fleet.replicas key r)
    let (report, fleet) := redistribute fleet r entries
    if stored then ({ report with redistributed := report.redistributed + 1 }, fleet)
    else ({ report with failed := report.failed + 1 }, fleet)

end Fleet

end QuorumRing
