import QuorumRing.Cluster.Status
import QuorumRing.Fleet.Health
import QuorumRing.Fleet.Verification
import QuorumRing.Json.Basic
import QuorumRing.Simulation

/-!
# Reports as JSON

The form in which the state of a cluster and the outcome of operations are shown to clients. Times
and measured latencies are no part of it, since the model has no clock.
-/

namespace QuorumRing

/-- The version of the program. -/
def version : String := "0.1.0"

/-- A unit. -/
def StorageUnit.toJson (unit : StorageUnit) : Json :=
  .object
    [("id", .string unit.id), ("host", .string unit.host), ("port", .nat unit.port.toNat),
      ("active", .bool unit.active), ("healthy", .bool unit.isHealthy),
      ("data_size", .nat unit.size), ("operation_count", .nat unit.operations)]

/-- A position of a walk. -/
def Ring.TraceStep.toJson (step : Ring.TraceStep) : Json :=
  .object
    [("position", .nat step.position.toNat), ("node_id", .string step.id),
      ("active", .bool step.active), ("selected", .bool step.selected)]

/-- A walk. -/
def Ring.Trace.toJson (trace : Ring.Trace) : Json :=
  .object
    [("key", .string trace.key), ("key_position", .nat trace.position.toNat),
      ("replication_factor", .nat trace.replicationFactor),
      ("steps", .array (trace.steps.map (·.toJson))), ("selected", .strings trace.selected)]

/-- Numbers by id. -/
def countsToJson (counts : List (String × Nat)) : Json :=
  .object (counts.map fun (id, count) => (id, .nat count))

/-- The outcome of a migration. -/
def MigrationReport.toJson (report : MigrationReport) : Json :=
  .object
    [("node_id", .string report.id), ("scanned", .nat report.scanned), ("moved", .nat report.moved),
      ("copied", .nat report.copied), ("failed", .nat report.failed)]

/-- The outcome of a redistribution. -/
def RedistributionReport.toJson (report : RedistributionReport) : Json :=
  .object [("redistributed", .nat report.redistributed), ("failed", .nat report.failed)]

/-- The outcome of a repair. -/
def RepairReport.toJson (report : RepairReport) : Json :=
  .object
    [("key", .string report.key), ("value", .optional report.value),
      ("replicas_checked", .nat report.checked), ("replicas_repaired", .strings report.repaired),
      ("failed", .strings report.failed)]

/-- The outcome of a verification. -/
def VerifyReport.toJson (report : VerifyReport) : Json :=
  .object
    [("ring_consistent", .bool report.ringConsistent),
      ("ring_issues", .strings (report.issues.map (·.message))),
      ("total_keys", .nat report.totalKeys), ("healthy", .nat report.healthy),
      ("under_replicated", .nat report.underReplicated), ("divergent", .nat report.divergent),
      ("orphaned", .nat report.orphaned)]

/-- The outcome of a health check. -/
def HealthReport.toJson (report : HealthReport) : Json :=
  .object
    [("checked", .nat report.checked), ("deactivated", .strings report.deactivated),
      ("recovered", .strings report.recovered)]

/-- The status of a cluster. -/
def Status.toJson (status : Status) : Json :=
  .object
    [("total_units", .nat status.totalUnits), ("active_units", .nat status.activeUnits),
      ("is_rebalancing", .bool status.isRebalancing), ("total_keys", .nat status.totalKeys),
      ("unique_keys", .nat status.uniqueKeys), ("total_operations", .nat status.totalOperations),
      ("data_distribution", countsToJson status.distribution)]

/-- The counters of a coordinator. -/
def Metrics.toJson (m : Metrics) : Json :=
  .object
    [("read_operations", .nat m.reads), ("write_operations", .nat m.writes),
      ("delete_operations", .nat m.deletes), ("failed_operations", .nat m.failures),
      ("nodes_added", .nat m.nodesAdded), ("nodes_removed", .nat m.nodesRemoved),
      ("node_operations", countsToJson m.nodeOperations.toList)]

/-- The report of a simulation. -/
def SimulationReport.toJson (report : SimulationReport) : Json :=
  .object
    [("failed_writes", .nat report.failedWrites),
      ("primary_ownership", countsToJson report.primaryOwnership),
      ("status", report.status.toJson), ("metrics", report.metrics.toJson)]

end QuorumRing
