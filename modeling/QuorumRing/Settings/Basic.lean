import QuorumRing.Error
import QuorumRing.Network.SocketAddress

/-!
# Settings

What a user may set, what holds if nothing is set, and which settings make sense. The numbers are at
most 64 bits wide.
-/

namespace QuorumRing

/-- A unit that is there from the start. -/
structure UnitSpec where
  /-- The id. -/
  id : String
  /-- The host. -/
  host : String
  /-- The port. -/
  port : UInt16
deriving DecidableEq, Repr

/-- The settings of the coordinator. -/
structure CoordinatorSettings where
  /-- Where requests are taken. -/
  bindAddress : SocketAddress := { address := .v4 { a := 0, b := 0, c := 0, d := 0 }, port := 5000 }
  /-- The number of replicas of each key. -/
  replicationFactor : Nat := 3
  /-- The number of positions of each unit on the ring. -/
  virtualNodes : Nat := 150
  /-- The time to wait for an outcome of a write, in milliseconds. -/
  writeTimeout : Nat := 5000
  /-- The time between two health checks, in seconds. -/
  healthCheckInterval : Nat := 30
  /-- The time that background work has to end on shutdown, in seconds. -/
  shutdownGrace : Nat := 60
deriving DecidableEq, Repr

/-- All settings. -/
structure Settings where
  /-- The settings of the coordinator. -/
  coordinator : CoordinatorSettings := {}
  /-- The units that are there from the start. -/
  initialUnits : List UnitSpec := []
  /-- The least severe kind of message that is logged. -/
  logLevel : String := "info"
deriving DecidableEq, Repr

namespace Settings

/-- Why settings make no sense. -/
inductive Problem where
  /-- No replica is asked for. -/
  | noReplicas
  /-- Units have no position on the ring. -/
  | noVirtualNodes
  /-- There is no time to wait for a write. -/
  | noWriteTimeout
  /-- There is no time between health checks. -/
  | noHealthCheckInterval
  /-- A unit has an empty id. -/
  | emptyId
  /-- Two units have the same id. -/
  | duplicateId (id : String)
deriving DecidableEq, Repr

/-- The problem in words. -/
def Problem.message : Problem → String
  | noReplicas => "replication_factor must be at least 1"
  | noVirtualNodes => "virtual_nodes must be at least 1"
  | noWriteTimeout => "write_timeout_ms must be positive"
  | noHealthCheckInterval => "health_check_interval_secs must be positive"
  | emptyId => "node id cannot be empty"
  | duplicateId id => s!"duplicate initial node id: {id}"

/-- The first problem among units that follow those with the ids in `seen`. -/
def unitProblem? (seen : List String) : List UnitSpec → Option Problem
  | [] => none
  | unit :: units =>
    if unit.id = "" then some .emptyId
    else if unit.id ∈ seen then some (.duplicateId unit.id)
    else unitProblem? (unit.id :: seen) units

/-- The first problem of the settings. -/
def problem? (settings : Settings) : Option Problem :=
  if settings.coordinator.replicationFactor = 0 then some .noReplicas
  else if settings.coordinator.virtualNodes = 0 then some .noVirtualNodes
  else if settings.coordinator.writeTimeout = 0 then some .noWriteTimeout
  else if settings.coordinator.healthCheckInterval = 0 then some .noHealthCheckInterval
  else unitProblem? [] settings.initialUnits

/-- Refuses settings that make no sense. -/
def validate (settings : Settings) : Except Error Unit :=
  match settings.problem? with
  | some problem => .error (.invalidConfig problem.message)
  | none => .ok ()

end Settings

end QuorumRing
