import QuorumRing.Metrics.Basic
import QuorumRing.Text.Decimal

/-!
# The text exposition of metrics

One line for each value, as a name, labels in braces, and the value, with lines in front that say
what the name means. Unit ids are written as they are, without any escaping.
-/

namespace QuorumRing

/-- The lines of one counter. -/
def counterLines (name help : String) (value : Nat) : List String :=
  [s!"# HELP {name} {help}", s!"# TYPE {name} counter", s!"{name} {value}"]

/-- The line of one unit in the tally of operations. -/
def nodeOperationsLine (id : String) (count : Nat) : String :=
  s!"ringkv_node_operations_total\x7bnode_id=\"{id}\"\x7d {count}"

/-- The lines of a histogram. -/
def Histogram.expositionLines (name : String) (h : Histogram) : List String :=
  let bucketLine (upper : Option Float) (count : Nat) :=
    let upper :=
      match upper with
      | some x => if x.isInf then "+Inf" else Decimal.plain x
      | none => "+Inf"
    s!"{name}_bucket\x7ble=\"{upper}\"\x7d {count}"
  [s!"# TYPE {name} histogram"] ++ h.buckets.map (fun (upper, count) => bucketLine upper count) ++
    [s!"{name}_sum {Decimal.plain h.sum}", s!"{name}_count {h.count}"]

namespace Metrics

/-- The lines of the exposition, for a coordinator that has been up for so many seconds. -/
def expositionLines (m : Metrics) (uptime : Nat) : List String :=
  counterLines "ringkv_reads_total" "Total read operations" m.reads ++
  counterLines "ringkv_writes_total" "Total write operations" m.writes ++
  counterLines "ringkv_deletes_total" "Total delete operations" m.deletes ++
  counterLines "ringkv_failed_total" "Total failed operations" m.failures ++
  counterLines "ringkv_nodes_added_total" "Storage units added" m.nodesAdded ++
  counterLines "ringkv_nodes_removed_total" "Storage units removed" m.nodesRemoved ++
  ["# HELP ringkv_node_operations_total Operations per storage unit",
    "# TYPE ringkv_node_operations_total counter"] ++
  m.nodeOperations.toList.map (fun (id, count) => nodeOperationsLine id count) ++
  m.readLatency.expositionLines "ringkv_read_duration_ms" ++
  m.writeLatency.expositionLines "ringkv_write_duration_ms" ++
  ["# TYPE ringkv_uptime_seconds gauge", s!"ringkv_uptime_seconds {uptime}"]

/-- The exposition: every line ends with a line feed. -/
def exposition (m : Metrics) (uptime : Nat) : String :=
  String.join ((m.expositionLines uptime).map (· ++ "\n"))

end Metrics

end QuorumRing
