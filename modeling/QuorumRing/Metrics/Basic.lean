import QuorumRing.Metrics.Histogram
import QuorumRing.Time.Duration
import Std.Data.ExtTreeMap

/-!
# Metrics

Counters of what the coordinator did, latency histograms of its reads and writes, and a tally of
operations for each unit id. The tally goes by id: units that were admitted under the same id share
an entry, and an entry stays when its unit leaves. The counters give true numbers, where counters of
64 bits wrap around.
-/

namespace QuorumRing

/-- The counters of a coordinator. -/
structure Metrics where
  /-- Reads that found a replica to ask. -/
  reads : Nat := 0
  /-- Writes that reached their quorum. -/
  writes : Nat := 0
  /-- Deletes that removed something. -/
  deletes : Nat := 0
  /-- Writes that failed. -/
  failures : Nat := 0
  /-- Units admitted. -/
  nodesAdded : Nat := 0
  /-- Units removed. -/
  nodesRemoved : Nat := 0
  /-- Latencies of the reads, in milliseconds. -/
  readLatency : Histogram := .empty Histogram.latencyBoundaries
  /-- Latencies of the writes, in milliseconds. -/
  writeLatency : Histogram := .empty Histogram.latencyBoundaries
  /-- Operations by unit id. -/
  nodeOperations : Std.ExtTreeMap String Nat := ∅

namespace Metrics

/-- Counts a read. -/
def recordRead (m : Metrics) (latency : Duration) : Metrics :=
  { m with reads := m.reads + 1, readLatency := m.readLatency.observe latency.millisFloat }

/-- Counts a write that reached its quorum. -/
def recordWrite (m : Metrics) (latency : Duration) : Metrics :=
  { m with writes := m.writes + 1, writeLatency := m.writeLatency.observe latency.millisFloat }

/-- Counts a delete that removed something. -/
def recordDelete (m : Metrics) : Metrics := { m with deletes := m.deletes + 1 }

/-- Counts a failed write. -/
def recordFailure (m : Metrics) : Metrics := { m with failures := m.failures + 1 }

/-- Counts an admitted unit. -/
def recordNodeAdded (m : Metrics) : Metrics := { m with nodesAdded := m.nodesAdded + 1 }

/-- Counts a removed unit. -/
def recordNodeRemoved (m : Metrics) : Metrics := { m with nodesRemoved := m.nodesRemoved + 1 }

/-- Counts an operation of a unit. -/
def recordUnitOperation (m : Metrics) (id : String) : Metrics :=
  { m with nodeOperations := m.nodeOperations.insert id (m.nodeOperations.getD id 0 + 1) }

/-- Reads, writes and deletes together. -/
def totalOperations (m : Metrics) : Nat := m.reads + m.writes + m.deletes

end Metrics

end QuorumRing
