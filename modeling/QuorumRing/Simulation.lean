import QuorumRing.Cluster.Bootstrap
import QuorumRing.Cluster.Data
import QuorumRing.Cluster.Status

/-!
# Simulated load

A simulation starts a cluster, lets several writers store numbered keys in it and reports what came
of it. The keys are dealt out to the writers in turn, and each writer stores its share in ascending
order. The outcome does not depend on how the writers take turns, so that they are run one after the
other.
-/

namespace QuorumRing

/-- What to simulate. -/
structure Simulation where
  /-- The number of keys. -/
  keys : Nat := 1000
  /-- The number of writers; none count as one. -/
  writers : Nat := 8
  /-- The number of units to start with if the settings name none. -/
  units : Nat := 3
  /-- Whether one more unit is admitted after the load. -/
  grow : Bool := false
deriving DecidableEq, Repr

/-- What came of a simulation. -/
structure SimulationReport where
  /-- The number of writes that failed. -/
  failedWrites : Nat
  /-- How many of 10000 sample keys each unit is closest to. -/
  primaryOwnership : List (String × Nat)
  /-- The status of the cluster. -/
  status : Status
  /-- What the coordinator counted. -/
  metrics : Metrics

namespace Simulation

/-- A unit of a generated fleet, counted from one. -/
def unit (i : Nat) : UnitSpec :=
  { id := "node" ++ toString i, host := "localhost", port := 8080 + i.toUInt16 }

/-- The settings with generated units if they name none. -/
def populate (simulation : Simulation) (settings : Settings) : Settings :=
  if settings.initialUnits.isEmpty then
    { settings with initialUnits := (List.range simulation.units).map fun i => unit (i + 1) }
  else settings

/-- The numbers of the keys that a writer stores: its own number and every `writers`-th after it,
below `keys`. -/
def share (keys writers writer : Nat) : List Nat :=
  List.range' writer ((keys - writer + writers - 1) / writers) writers

/-- Stores the key with a number, and counts the write if it fails. -/
def storeOne (failed : Nat) (c : Cluster) (i : Nat) : Nat × Cluster :=
  let (outcome, c) := c.put ("key" ++ toString i) ("value" ++ toString i)
  (if outcome.isOk then failed else failed + 1, c)

/-- Stores the keys with the given numbers. The answer is the number of writes that failed. -/
def storeAll (c : Cluster) (numbers : List Nat) : Nat × Cluster :=
  numbers.foldl (fun (failed, c) i => storeOne failed c i) (0, c)

/-- The numbers of all keys in the order in which they are stored. -/
def schedule (simulation : Simulation) : List Nat :=
  let writers := max simulation.writers 1
  (List.range writers).flatMap (share simulation.keys writers)

/-- Admits one more unit and waits for its migration. Its id carries the number of units there will
be. -/
def growOne (c : Cluster) : Cluster :=
  let id := "node" ++ toString (c.fleet.units.length + 1)
  (c.addNode id "localhost" 9000).2.drain

/-- Runs a simulation with settings that name their units. -/
def run (simulation : Simulation) (settings : Settings) : SimulationReport :=
  let (failedWrites, c) := storeAll (Cluster.bootstrap settings).drain simulation.schedule
  let c := c.drain
  let c := if simulation.grow then growOne c else c
  { failedWrites
    primaryOwnership := (c.fleet.ring.keyDistribution c.fleet.pool.isActive 10000).toList
    status := c.status
    metrics := c.metrics }

end Simulation

end QuorumRing
