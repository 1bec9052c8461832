import QuorumRing.Fleet.Basic

/-!
# Health checks

A health check probes every registered unit, in the order of ids. An active unit whose probe fails
is switched off, an inactive one whose probe succeeds is switched on. The monitor remembers the ids
that it has switched off and not yet seen recover.
-/

namespace QuorumRing

/-- A test of a unit. It leaves the unit as the second component. -/
abbrev Probe := StorageUnit → Except Error Unit × StorageUnit

namespace Probe

/-- The self test of the unit. -/
def selfTest : Probe := StorageUnit.selfTest

/-- Fails for the given ids, and is the self test for all others. -/
def failingFor (down : List String) : Probe := fun unit =>
  if down.contains unit.id then (.error (.timeout s!"probe of {unit.id}"), unit)
  else unit.selfTest

end Probe

/-- The outcome of a health check. -/
structure HealthReport where
  /-- The number of units probed. -/
  checked : Nat := 0
  /-- The ids switched off. -/
  deactivated : List String := []
  /-- The ids switched on. -/
  recovered : List String := []
deriving DecidableEq, Repr

/-- A health monitor. -/
structure Monitor where
  /-- The ids switched off and not seen to recover since, in the order in which they failed. -/
  failed : List String := []
deriving DecidableEq, Repr

namespace Monitor

/-- Probes one unit and draws the consequence. -/
def checkUnit (probe : Probe) (unit : UnitRef) (monitor : Monitor) (report : HealthReport)
    (fleet : Fleet) : HealthReport × Monitor × Fleet :=
  let report := { report with checked := report.checked + 1 }
  let (verdict, probed) := probe (fleet.get unit)
  let fleet := { fleet with pool := fleet.pool.set unit probed }
  if !verdict.isOk && probed.active then
    let failed :=
      if monitor.failed.contains unit.id then monitor.failed else monitor.failed ++ [unit.id]
    ({ report with deactivated := report.deactivated ++ [unit.id] }, { failed },
      fleet.setActive unit false)
  else if verdict.isOk && !probed.active then
    ({ report with recovered := report.recovered ++ [unit.id] },
      { failed := monitor.failed.filter (· != unit.id) }, fleet.setActive unit true)
  else (report, monitor, fleet)

/-- Probes the units one after the other. -/
def checkUnits (probe : Probe) (monitor : Monitor) (report : HealthReport) (fleet : Fleet) :
    List UnitRef → HealthReport × Monitor × Fleet
  | [] => (report, monitor, fleet)
  | unit :: units =>
    let (report, monitor, fleet) := checkUnit probe unit monitor report fleet
    checkUnits probe monitor report fleet units

/-- Probes every registered unit once. -/
def check (probe : Probe) (monitor : Monitor) (fleet : Fleet) : HealthReport × Monitor × Fleet :=
  checkUnits probe monitor {} fleet fleet.units

end Monitor

end QuorumRing
