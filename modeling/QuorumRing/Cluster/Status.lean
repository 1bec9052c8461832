import QuorumRing.Cluster.Basic

/-!
# The status of a cluster
-/

namespace QuorumRing

/-- A summary of a cluster. -/
structure Status where
  /-- The number of registered units. -/
  totalUnits : Nat
  /-- The number of registered units that are active. -/
  activeUnits : Nat
  /-- Whether a migration is registered. -/
  isRebalancing : Bool
  /-- The number of stored entries on all registered units, every replica counted. -/
  totalKeys : Nat
  /-- The number of different keys among them. -/
  uniqueKeys : Nat
  /-- The number of reads, writes and deletes. -/
  totalOperations : Nat
  /-- The number of entries on each registered unit, by id. -/
  distribution : List (String × Nat)
deriving DecidableEq, Repr

/-- The status of a cluster. -/
def Cluster.status (c : Cluster) : Status where
  totalUnits := c.fleet.units.length
  activeUnits := c.fleet.activeUnits.length
  isRebalancing := c.isRebalancing
  totalKeys := c.fleet.distribution.foldl (fun total (_, count) => total + count) 0
  uniqueKeys := c.fleet.storedKeys.size
  totalOperations := c.metrics.totalOperations
  distribution := c.fleet.distribution

end QuorumRing
