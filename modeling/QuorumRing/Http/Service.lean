import QuorumRing.Cluster.Bootstrap
import QuorumRing.Cluster.Data
import QuorumRing.Http.Request
import QuorumRing.Metrics.Exposition
import QuorumRing.Report

/-!
# The service

`Action.run` carries out an action: one call of the cluster, and the response that tells its
outcome. `handle` answers a request. What a request is refused for never reaches the cluster.
-/

namespace QuorumRing.Http

/-- The health of a cluster. -/
def healthResponse (c : Cluster) (monitor : Option Monitor) : Response :=
  let total := c.fleet.units.length
  let active := c.fleet.activeUnits.length
  let (status, label) :=
    if active = 0 then (503, "unavailable")
    else if active < total then (200, "degraded")
    else (200, "healthy")
  .json status
    (.object
      [("status", .string label), ("active_units", .nat active), ("total_units", .nat total),
        ("failed_nodes", .strings ((monitor.map (·.failed)).getD [])),
        ("is_rebalancing", .bool c.isRebalancing), ("version", .string version)])

/-- Carries out an action. -/
def Action.run (monitor : Option Monitor) (c : Cluster) : Action → Response × Cluster
  | .put key value =>
    if key.isEmpty then (.problem 400 "key must not be empty", c)
    else
      match c.put key value with
      | (.ok (), c) =>
        (.json 200 (.object [("status", .string "stored"), ("key", .string key)]), c)
      | (.error e, c) => (.ofError e, c)
  | .get key =>
    match c.get key with
    | (some value, c) => (.json 200 (.object [("key", .string key), ("value", .string value)]), c)
    | (none, c) => (.ofError (.notFound key), c)
  | .delete key =>
    match c.delete key with
    | (true, c) => (.json 200 (.object [("status", .string "deleted"), ("key", .string key)]), c)
    | (false, c) => (.ofError (.notFound key), c)
  | .addNode id host port =>
    if id.isEmpty then (.problem 400 "node id must not be empty", c)
    else
      match c.addNode id host port with
      | (true, c) => (.json 201 (.object [("status", .string "added"), ("id", .string id)]), c)
      | (false, c) => (.problem 409 s!"node {id} already exists", c)
  | .listNodes => (.json 200 (.array (c.fleet.units.map fun unit => (c.fleet.get unit).toJson)), c)
  | .showNode id =>
    match c.fleet.ring.get? id with
    | some unit => (.json 200 (c.fleet.get unit).toJson, c)
    | none => (.ofError (.notFound s!"node {id}"), c)
  | .removeNode id =>
    match c.removeNode id with
    | (true, c) => (.json 200 (.object [("status", .string "removed"), ("id", .string id)]), c)
    | (false, c) => (.ofError (.notFound s!"node {id}"), c)
  | .status => (.json 200 c.status.toJson, c)
  | .distribution => (.json 200 (countsToJson c.fleet.distribution), c)
  | .placement key =>
    (.json 200 (c.fleet.ring.trace c.fleet.pool.isActive key c.replicationFactor).toJson, c)
  | .metrics => (.json 200 c.metrics.toJson, c)
  | .exposition => (.text 200 "text/plain; version=0.0.4" (c.metrics.exposition 0), c)
  | .repair key =>
    let (report, c) := c.repair key
    (.json 200 (.object [("status", .string "ok"), ("report", report.toJson)]), c)
  | .verify =>
    let (report, c) := c.verify
    (.json 200 (.object [("status", .string "ok"), ("report", report.toJson)]), c)
  | .health => (healthResponse c monitor, c)

/-- Answers a request. The body is left out if it was not asked for. -/
def handle (monitor : Option Monitor) (c : Cluster) (request : Request) : Response × Cluster :=
  let (response, c) :=
    match request.action with
    | .ok action => action.run monitor c
    | .error refusal => (refusal.response, c)
  (if request.method = Method.head.name then response.withoutBody else response, c)

end QuorumRing.Http
