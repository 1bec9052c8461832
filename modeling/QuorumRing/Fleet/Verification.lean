import QuorumRing.Fleet.Repair

/-!
# Verification of a fleet

A verification looks at the ring and at every key stored on a registered unit, and sorts the keys by
what the replicas of each hold.
-/

namespace QuorumRing

/-- The condition of a stored key. -/
inductive KeyHealth where
  /-- Every replica holds the key, all with one value. -/
  | healthy
  /-- Some replicas hold the key, all with one value, and others lack it. -/
  | underReplicated
  /-- Two replicas hold different values. -/
  | divergent
  /-- No replica holds the key. -/
  | orphaned
deriving DecidableEq, Repr

/-- The condition of a key with this many replicas, of which some hold the values. -/
def KeyHealth.ofValues (replicas : Nat) : List String → KeyHealth
  | [] => .orphaned
  | value :: values =>
    if values.any (· != value) then .divergent
    else if values.length + 1 < replicas then .underReplicated
    else .healthy

/-- The outcome of a verification. -/
structure VerifyReport where
  /-- What is wrong with the ring. -/
  issues : List Inconsistency
  /-- The number of stored keys. -/
  totalKeys : Nat
  /-- The number of healthy keys. -/
  healthy : Nat := 0
  /-- The number of under-replicated keys. -/
  underReplicated : Nat := 0
  /-- The number of divergent keys. -/
  divergent : Nat := 0
  /-- The number of orphaned keys. -/
  orphaned : Nat := 0
deriving DecidableEq, Repr

namespace VerifyReport

/-- Whether nothing is wrong with the ring. -/
def ringConsistent (report : VerifyReport) : Bool := report.issues.isEmpty

/-- Whether nothing is wrong at all. -/
def isClean (report : VerifyReport) : Bool :=
  report.ringConsistent && report.underReplicated == 0 && report.divergent == 0 &&
    report.orphaned == 0

/-- Adds the condition of one key. -/
def count (report : VerifyReport) : KeyHealth → VerifyReport
  | .healthy => { report with healthy := report.healthy + 1 }
  | .underReplicated => { report with underReplicated := report.underReplicated + 1 }
  | .divergent => { report with divergent := report.divergent + 1 }
  | .orphaned => { report with orphaned := report.orphaned + 1 }

end VerifyReport

namespace Fleet

/-- Asks the replicas of a key for it and judges the answers. -/
def inspect (fleet : Fleet) (key : String) (r : Nat) : KeyHealth × Fleet :=
  let replicas := fleet.replicas key r
  let (answers, fleet) := fleet.readAll key replicas
  let values := answers.filterMap fun (_, answer) =>
    match answer with
    | .ok value => value
    | .error _ => none
  (.ofValues replicas.length values, fleet)

/-- Inspects the keys one after the other. -/
def inspectAll (fleet : Fleet) (r : Nat) (report : VerifyReport) :
    List String → VerifyReport × Fleet
  | [] => (report, fleet)
  | key :: keys =>
    let (health, fleet) := fleet.inspect key r
    inspectAll fleet r (report.count health) keys

/-- Checks the ring and every key stored on a registered unit. The units count the reads. The store
lets other work go on after every 256 keys; a verification is one step here, so that it is that of a
store in which no task runs meanwhile. -/
def verify (fleet : Fleet) (r : Nat) : VerifyReport × Fleet :=
  let keys := fleet.storedKeys
  fleet.inspectAll r { issues := fleet.ring.inconsistencies, totalKeys := keys.size } keys.toList

end Fleet

end QuorumRing
