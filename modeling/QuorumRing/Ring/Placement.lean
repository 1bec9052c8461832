import QuorumRing.Ring.Basic

/-!
# Placement of keys

A key is placed by walking clockwise from its position: through the occupied positions from there
upwards, and then from the lowest one up to it. The replica set of a key is made of the first units
that the walk meets, each counted once and inactive ones skipped.

`Ring.replicaSet` answers the question, `Ring.trace` records the walk that answers it, `Ring.locate`
stops at the first active unit. All three take the liveness of the units as an argument.
-/

namespace QuorumRing.Ring

/-- The occupied positions in clockwise order, beginning with the first one at or after `start`. -/
def walk (ring : Ring) (start : Position) : List (Position × UnitRef) :=
  let slots := ring.slots.toList
  slots.filter (start ≤ ·.1) ++ slots.filter (·.1 < start)

/-- The first `r` active units of different ids, leaving out the ids in `seen`. -/
def choose (active : UnitRef → Bool) : Nat → List String → List UnitRef → List UnitRef
  | 0, _, _ => []
  | _ + 1, _, [] => []
  | r + 1, seen, unit :: rest =>
    if active unit && !seen.contains unit.id then
      unit :: choose active r (unit.id :: seen) rest
    else choose active (r + 1) seen rest

/-- The active units that hold a key, closest first: at most `r` of them. -/
def replicaSet (ring : Ring) (active : UnitRef → Bool) (key : String) (r : Nat) : List UnitRef :=
  choose active r [] ((ring.walk (Position.ofString key)).map (·.2))

/-- The closest active unit of a key. -/
def locate (ring : Ring) (active : UnitRef → Bool) (key : String) : Option UnitRef :=
  ((ring.walk (Position.ofString key)).map (·.2)).find? active

/-- One position that a walk met. -/
structure TraceStep where
  /-- The position. -/
  position : Position
  /-- The id of its owner. -/
  id : String
  /-- Whether the owner is active. -/
  active : Bool
  /-- Whether the owner joined the replica set here. -/
  selected : Bool
deriving DecidableEq, Repr

/-- The record of the walk that built a replica set. -/
structure Trace where
  /-- The key. -/
  key : String
  /-- The position of the key. -/
  position : Position
  /-- The number of replicas asked for. -/
  replicationFactor : Nat
  /-- The positions met, up to the one that completed the replica set. -/
  steps : List TraceStep
  /-- The ids of the replica set, closest first. -/
  selected : List String
deriving DecidableEq, Repr

/-- Follows a walk until `r` ids are selected, recording each position. -/
def follow (active : UnitRef → Bool) (r : Nat) :
    List String → List (Position × UnitRef) → List TraceStep × List String
  | selected, [] => ([], selected)
  | selected, (position, unit) :: rest =>
    let pick := active unit && !selected.contains unit.id
    let selected := if pick then selected ++ [unit.id] else selected
    let step := { position, id := unit.id, active := active unit, selected := pick }
    if r ≤ selected.length then ([step], selected)
    else
      let (steps, selected) := follow active r selected rest
      (step :: steps, selected)

/-- The walk that builds the replica set of a key, step by step. -/
def trace (ring : Ring) (active : UnitRef → Bool) (key : String) (r : Nat) : Trace :=
  let position := Position.ofString key
  let (steps, selected) := if r = 0 then ([], []) else follow active r [] (ring.walk position)
  { key, position, replicationFactor := r, steps, selected }

/-- The names of the synthetic keys by which the balance of a ring is measured. -/
def sampleKey (i : Nat) : String := "test_key_" ++ toString i

/-- How many of the first `n` sample keys each unit is closest to. Units with none are left out. -/
def keyDistribution (ring : Ring) (active : UnitRef → Bool) (n : Nat) :
    Std.ExtTreeMap String Nat :=
  (List.range n).foldl
    (fun counts i =>
      match ring.locate active (sampleKey i) with
      | some unit => counts.insert unit.id (counts.getD unit.id 0 + 1)
      | none => counts)
    ∅

end QuorumRing.Ring
