import QuorumRing.Json.Decoding
import QuorumRing.Settings.Decoding

/-!
# Settings as JSON
-/

namespace QuorumRing

/-- A unit as JSON. -/
def UnitSpec.toJson (unit : UnitSpec) : Json :=
  .object
    [("host", .string unit.host), ("id", .string unit.id), ("port", .nat unit.port.toNat)]

/-- The settings of the coordinator as JSON. -/
def CoordinatorSettings.toJson (settings : CoordinatorSettings) : Json :=
  .object
    [("bind_addr", .string settings.bindAddress.text),
      ("health_check_interval_secs", .nat settings.healthCheckInterval),
      ("replication_factor", .nat settings.replicationFactor),
      ("shutdown_grace_secs", .nat settings.shutdownGrace),
      ("virtual_nodes", .nat settings.virtualNodes),
      ("write_timeout_ms", .nat settings.writeTimeout)]

namespace Settings

/-- The settings as JSON. -/
def toJson (settings : Settings) : Json :=
  .object
    [("coordinator", settings.coordinator.toJson),
      ("initial_nodes", .array (settings.initialUnits.map (·.toJson))),
      ("log_level", .string settings.logLevel)]

/-- The settings that a JSON value stands for. -/
def ofJson : Json → Except Json.Mismatch Settings := decode Json.dataFormat

end Settings

end QuorumRing
