import QuorumRing.Decoding
import QuorumRing.Settings.Basic

/-!
# Decoding settings

The names of all settings and the types of their values, for every format of data.
-/

namespace QuorumRing

variable {σ ε : Type} (format : DataFormat σ ε)

/-- Decodes a socket address. -/
def SocketAddress.decode (value : σ) : Except ε SocketAddress := do
  match SocketAddress.parse? (← format.text "socket address" value) with
  | some address => .ok address
  | none => .error (format.unreadable "invalid socket address syntax")

/-- Decodes a unit. All fields have to be given. -/
def UnitSpec.decode : σ → Except ε UnitSpec :=
  format.record "struct NodeSpec"
    [DataFormat.field "id" false (format.text "a string") fun id unit => { unit with id },
      DataFormat.field "host" false (format.text "a string") fun host unit => { unit with host },
      DataFormat.field "port" false (format.natural UInt16.size "u16") fun port unit =>
        { unit with port := port.toUInt16 }]
    { id := "", host := "", port := 0 }

/-- Decodes the settings of the coordinator. -/
def CoordinatorSettings.decode : σ → Except ε CoordinatorSettings :=
  format.record "struct CoordinatorConfig"
    [DataFormat.field "bind_addr" true (SocketAddress.decode format) fun bindAddress s =>
        { s with bindAddress },
      DataFormat.field "replication_factor" true (format.natural UInt64.size "usize")
        fun replicationFactor s => { s with replicationFactor },
      DataFormat.field "virtual_nodes" true (format.natural UInt64.size "usize")
        fun virtualNodes s => { s with virtualNodes },
      DataFormat.field "write_timeout_ms" true (format.natural UInt64.size "u64")
        fun writeTimeout s => { s with writeTimeout },
      DataFormat.field "health_check_interval_secs" true (format.natural UInt64.size "u64")
        fun healthCheckInterval s => { s with healthCheckInterval },
      DataFormat.field "shutdown_grace_secs" true (format.natural UInt64.size "u64")
        fun shutdownGrace s => { s with shutdownGrace }]
    {}

/-- Decodes all settings. -/
def Settings.decode : σ → Except ε Settings :=
  format.record "struct Config"
    [DataFormat.field "coordinator" true (CoordinatorSettings.decode format) fun coordinator s =>
        { s with coordinator },
      DataFormat.field "initial_nodes" true (format.list (UnitSpec.decode format))
        fun initialUnits s => { s with initialUnits },
      DataFormat.field "log_level" true (format.text "a string") fun logLevel s =>
        { s with logLevel }]
    {}

end QuorumRing
