import QuorumRing.Cluster.Quorum
import QuorumRing.Cluster.Registry
import QuorumRing.Fleet.Migration
import QuorumRing.Metrics.Basic

/-!
# Clusters and their background work

A cluster is a fleet with a coordinator in front of it. Writes to replicas and the movement of data
after a change of membership are tasks: they wait in a queue and are worked off, oldest first, when
someone waits for them. A task that moves data lets the others go on after every 256 keys: it does its
work in stints, and what is left of it after a stint is queued again behind all others. No task queues
another one, so a queue is worked off in rounds, in each of which every task does one stint
(`Cluster.drain`).

This is the order of a scheduler that runs one task at a time, and the tasks in the order in which
they are ready. What other orders may bring is said of tasks that do their stints in any order. The
entries of a removed unit are in no particular order either: here they are stored again in the order of
their keys, and sessions allow for any other. A stint is one step. There is no clock: a wait for an
outcome ends with the outcome, unless the write timeout is zero, in which case nobody waits.
-/

namespace QuorumRing

/-- A piece of background work. -/
inductive Task where
  /-- Stores an entry on one replica. -/
  | write (target : UnitRef) (key value : String)
  /-- Brings the keys that belong on a new unit onto it. -/
  | join (unit : UnitRef) (registration : Registration)
  /-- The same once it has begun: the keys that are left are looked for on the other units that there
  were when it began. -/
  | pull (unit : UnitRef) (others : List UnitRef) (keys : List String) (registration : Registration)
  /-- Stores the entries of a removed unit again: those that are left. -/
  | leave (entries : List (String × String)) (registration : Registration)

namespace Task

/-- The registration that ends with the task. -/
def registration? : Task → Option Registration
  | .write .. => none
  | .join _ registration | .pull _ _ _ registration | .leave _ registration => some registration

/-- The number of keys that are left to look at, as far as it is known. -/
def size : Task → Nat
  | .write .. | .join .. => 0
  | .pull _ _ keys _ => keys.length
  | .leave entries _ => entries.length

/-- The same for all tasks together. -/
def totalSize : List Task → Nat
  | [] => 0
  | task :: tasks => task.size + totalSize tasks

/-- The number of keys after which a task lets the others go on. -/
def stint : Nat := 256

/-- What is left of a list after a stint, if anything is. -/
def remainder? {α : Type} (work : List α) : Option (List α) :=
  if work.length ≤ stint then none else some (work.drop stint)

end Task

/-- A coordinator and its fleet. -/
structure Cluster where
  /-- The ring and the units. -/
  fleet : Fleet
  /-- The number of replicas of each key. -/
  replicationFactor : Nat
  /-- The time to wait for an outcome of a write, in milliseconds. -/
  writeTimeout : Nat := 5000
  /-- What was counted so far. -/
  metrics : Metrics := {}
  /-- The tasks that have not ended, in the order in which they are to go on. -/
  queue : List Task := []
  /-- The migrations that have not ended. -/
  registry : Registry := {}
  /-- Whether new tasks are refused. -/
  closed : Bool := false

namespace Cluster

/-- A cluster without units. -/
def empty (virtualNodes replicationFactor writeTimeout : Nat) : Cluster :=
  { fleet := .empty virtualNodes, replicationFactor, writeTimeout }

/-- The active units that hold a key, closest first. -/
def replicas (c : Cluster) (key : String) : List UnitRef := c.fleet.replicas key c.replicationFactor

/-- Whether a migration is registered. -/
def isRebalancing (c : Cluster) : Bool := c.registry.isRebalancing

/-- Changes the metrics. -/
def record (c : Cluster) (f : Metrics → Metrics) : Cluster := { c with metrics := f c.metrics }

/-- Runs an operation on a unit. -/
def attempt {α : Type} (c : Cluster) (unit : UnitRef)
    (operation : StorageUnit → Except Error (α × StorageUnit)) : Except Error α × Cluster :=
  let (answer, fleet) := c.fleet.attempt unit operation
  (answer, { c with fleet })

/-! ## Tasks -/

/-- Stores an entry on one replica, and counts the operation if it was accepted. -/
def write (c : Cluster) (target : UnitRef) (key value : String) : Wait × Cluster :=
  match c.attempt target (·.put key value) with
  | (.ok _, c) => (.acknowledged, c.record (·.recordUnitOperation target.id))
  | (.error _, c) => (.refused, c)

/-- Brings keys onto a unit for one stint. The answer is what is left to do. -/
def pull (c : Cluster) (unit : UnitRef) (others : List UnitRef) (keys : List String)
    (registration : Registration) : Option Task × Cluster :=
  let (_, fleet) :=
    c.fleet.pullAll c.replicationFactor unit others { id := unit.id } (keys.take Task.stint)
  ((Task.remainder? keys).map (.pull unit others · registration), { c with fleet })

/-- Does one stint of a task. The answer is what is left of it. A migration begins by listing the
keys of the other units. -/
def perform (c : Cluster) : Task → Option Task × Cluster
  | .write target key value => (none, (c.write target key value).2)
  | .join unit registration =>
    let others := c.fleet.others unit
    c.pull unit others (c.fleet.keysOn others).toList registration
  | .pull unit others keys registration => c.pull unit others keys registration
  | .leave entries registration =>
    let (_, fleet) := c.fleet.redistribute c.replicationFactor (entries.take Task.stint)
    ((Task.remainder? entries).map (.leave · registration), { c with fleet })

/-- Ends the registration of a task that has ended or was dropped. -/
def conclude (c : Cluster) (task : Task) : Cluster :=
  match task.registration? with
  | some registration => { c with registry := c.registry.finish registration }
  | none => c

/-- Lets a task do a stint. What is left of it is queued behind all others. -/
def run (c : Cluster) (task : Task) : Cluster :=
  match c.perform task with
  | (none, c) => c.conclude task
  | (some rest, c) => { c with queue := c.queue ++ [rest] }

/-- Lets every queued task do one stint, oldest first. -/
def round (c : Cluster) : Cluster := c.queue.foldl run { c with queue := [] }

/-- So many rounds. -/
def rounds : Nat → Cluster → Cluster
  | 0, c => c
  | n + 1, c => rounds n c.round

/-- Runs the queued tasks to their end. After one round every task has begun, and then there are no
more rounds than keys left to look at. -/
def drain (c : Cluster) : Cluster :=
  let c := c.round
  rounds (Task.totalSize c.queue) c

/-- Queues a task. A cluster that was shut down drops it at once. -/
def spawn (c : Cluster) (task : Task) : Cluster :=
  if c.closed then c.conclude task else { c with queue := c.queue ++ [task] }

/-- Registers a migration and queues its task. -/
def launch (c : Cluster) (kind : MigrationKind) (id : String) (task : Registration → Task) :
    Cluster :=
  let (registration, registry) := c.registry.enter kind id
  { c with registry }.spawn (task registration)

/-- Refuses all tasks from now on. The queued ones are run if there is any time for it, and dropped
otherwise. The answer is the number of tasks dropped. -/
def shutdown (c : Cluster) (graceMillis : Nat) : Nat × Cluster :=
  let c := { c with closed := true }
  if graceMillis = 0 then (c.queue.length, c.queue.foldl conclude { c with queue := [] })
  else (0, c.drain)

end Cluster

end QuorumRing
