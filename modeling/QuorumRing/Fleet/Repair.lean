import QuorumRing.Fleet.Basic

/-!
# Repair of a key

Reads never mend anything: they answer with the first value they find. A repair asks all replicas of
a key, takes the value of the closest one that holds any, and writes it to those that lack the key
or hold another value.
-/

namespace QuorumRing

/-- The outcome of a repair. -/
structure RepairReport where
  /-- The key. -/
  key : String
  /-- The value of the closest replica that held one. -/
  value : Option String := none
  /-- The number of replicas asked. -/
  checked : Nat := 0
  /-- The ids of the replicas written to. -/
  repaired : List String := []
  /-- The ids of the replicas that refused to answer or to store. -/
  failed : List String := []
deriving DecidableEq, Repr

namespace Fleet

/-- Asks each of the units for a key. The answers come in the order of the units. -/
def readAll (fleet : Fleet) (key : String) : List UnitRef →
    List (UnitRef × Except Error (Option String)) × Fleet
  | [] => ([], fleet)
  | unit :: units =>
    let (answer, fleet) := fleet.attempt unit (·.get key)
    let (answers, fleet) := readAll fleet key units
    ((unit, answer) :: answers, fleet)

/-- The first value among the answers. -/
def firstValue? (answers : List (UnitRef × Except Error (Option String))) : Option String :=
  answers.findSome? fun (_, answer) =>
    match answer with
    | .ok value => value
    | .error _ => none

/-- Writes the value to every unit that answered otherwise. A unit that did not answer is left alone
and reported as failed. -/
def mend (fleet : Fleet) (key value : String) (report : RepairReport) :
    List (UnitRef × Except Error (Option String)) → RepairReport × Fleet
  | [] => (report, fleet)
  | (unit, answer) :: answers =>
    match answer with
    | .error _ => mend fleet key value { report with failed := report.failed ++ [unit.id] } answers
    | .ok seen =>
      if seen = some value then mend fleet key value report answers
      else
        match fleet.attempt unit (·.put key value) with
        | (.ok _, fleet) =>
          mend fleet key value { report with repaired := report.repaired ++ [unit.id] } answers
        | (.error _, fleet) =>
          mend fleet key value { report with failed := report.failed ++ [unit.id] } answers

/-- Brings the replicas of a key to the value of the closest one that holds any. -/
def repair (fleet : Fleet) (key : String) (r : Nat) : RepairReport × Fleet :=
  let replicas := fleet.replicas key r
  let (answers, fleet) := fleet.readAll key replicas
  match firstValue? answers with
  | none => ({ key, checked := replicas.length }, fleet)
  | some value =>
    fleet.mend key value { key, value := some value, checked := replicas.length } answers

end Fleet

end QuorumRing
