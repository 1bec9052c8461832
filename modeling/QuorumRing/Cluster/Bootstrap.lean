import QuorumRing.Cluster.Basic
import QuorumRing.Settings.Basic

/-!
# Units that join and leave, and the start of a cluster

A change of membership takes effect at once. The data follows in the background: a new unit pulls
its keys, and what a removed unit held is stored again elsewhere. A cluster starts with the units that
its settings name, admitted one after the other.
-/

namespace QuorumRing.Cluster

/-- Admits a new unit. The answer is whether its id was free. -/
def addNode (c : Cluster) (id host : String) (port : UInt16) : Bool × Cluster :=
  match c.fleet.add? { id, host, port } with
  | none => (false, c)
  | some (unit, fleet) =>
    let c := { c with fleet }.record (·.recordNodeAdded)
    (true, c.launch .join id (.join unit))

/-- Switches a unit off and takes it out of the ring. The answer is whether there was one. Its
entries are stored again, unless there are none or no active unit is left to take them. -/
def removeNode (c : Cluster) (id : String) : Bool × Cluster :=
  match c.fleet.ring.get? id with
  | none => (false, c)
  | some unit =>
    let entries := (c.fleet.get unit).contents
    let fleet := c.fleet.setActive unit false
    match fleet.remove? id with
    | none => (false, { c with fleet })
    | some fleet =>
      let c := { c with fleet }.record (·.recordNodeRemoved)
      if entries.isEmpty || c.fleet.activeUnits.isEmpty then (true, c)
      else (true, c.launch .leave id (.leave entries.toList))

/-- Admits units one after the other. Of several with the same id the first is admitted. -/
def admitAll (c : Cluster) (units : List UnitSpec) : Cluster :=
  units.foldl (fun c unit => (c.addNode unit.id unit.host unit.port).2) c

/-- A new cluster with the units that the settings name. Their migrations are queued. -/
def bootstrap (settings : Settings) : Cluster :=
  let coordinator := settings.coordinator
  (empty coordinator.virtualNodes coordinator.replicationFactor coordinator.writeTimeout).admitAll
    settings.initialUnits

end QuorumRing.Cluster
