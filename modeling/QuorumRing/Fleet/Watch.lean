import QuorumRing.Fleet.Health

/-!
# Checking at intervals

A watch checks the health of a fleet whenever another interval has passed, until it is told to stop
or nobody is left who could tell it. Time is counted in milliseconds.
-/

namespace QuorumRing

/-- A health monitor with a clock. -/
structure Watch where
  /-- The time between two checks. -/
  interval : Nat
  /-- The monitor that does the checks. -/
  monitor : Monitor := {}
  /-- The time that has passed. -/
  now : Nat := 0
  /-- Whether the watch has ended. -/
  stopped : Bool := false
deriving DecidableEq, Repr

namespace Watch

/-- The number of checks that are due while so much time passes. -/
def checksWithin (w : Watch) (millis : Nat) : Nat :=
  if w.stopped then 0 else (w.now + millis) / w.interval - w.now / w.interval

/-- Checks the fleet so many times. -/
def checkTimes (probe : Probe) (fleet : Fleet) (monitor : Monitor) : Nat → Monitor × Fleet
  | 0 => (monitor, fleet)
  | n + 1 =>
    let (_, monitor, fleet) := monitor.check probe fleet
    checkTimes probe fleet monitor n

/-- Lets time pass. -/
def sleep (w : Watch) (probe : Probe) (millis : Nat) (fleet : Fleet) : Watch × Fleet :=
  let (monitor, fleet) := checkTimes probe fleet w.monitor (w.checksWithin millis)
  ({ w with monitor, now := w.now + millis }, fleet)

/-- Tells the watch whether to stop. A watch that has stopped does not start again. -/
def signal (w : Watch) (stop : Bool) : Watch := { w with stopped := w.stopped || stop }

end Watch

end QuorumRing
