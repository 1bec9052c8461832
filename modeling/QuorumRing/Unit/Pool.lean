import QuorumRing.Ring.Basic
import QuorumRing.Unit.Basic

/-!
# The pool of units

All units that were ever admitted, by reference. A unit that has left the ring stays in the pool,
since work that was queued while it was a member still reaches it.

`Pool.get` is total: a reference that was never admitted reads as an empty unit of its id. So two
equations say all about the state of a pool: what is read after a write to the same reference, and
after a write to another one.
-/

namespace QuorumRing

/-- References are ordered by admission. -/
instance : Ord UnitRef where
  compare a b := (compare a.serial b.serial).then (compare a.id b.id)

instance : Std.TransOrd UnitRef :=
  inferInstanceAs (Std.TransCmp (compareLex (compareOn UnitRef.serial) (compareOn UnitRef.id)))

instance : Std.LawfulEqOrd UnitRef where
  eq_of_compare {a b} h := by
    obtain ⟨hs, hi⟩ := Ordering.then_eq_eq.1 h
    cases a
    cases b
    simp_all

/-- The units that were ever admitted. -/
structure Pool where
  /-- The state of each unit. -/
  units : Std.ExtTreeMap UnitRef StorageUnit := ∅
  /-- The number of admissions. -/
  admissions : Nat := 0

namespace Pool

/-- The current state of a unit. -/
def get (pool : Pool) (ref : UnitRef) : StorageUnit :=
  pool.units.getD ref { id := ref.id, host := "", port := 0 }

/-- Replaces the state of a unit. -/
def set (pool : Pool) (ref : UnitRef) (unit : StorageUnit) : Pool :=
  { pool with units := pool.units.insert ref unit }

/-- Changes the state of a unit. -/
def modify (pool : Pool) (ref : UnitRef) (f : StorageUnit → StorageUnit) : Pool :=
  pool.set ref (f (pool.get ref))

/-- Takes in a unit. -/
def enroll (pool : Pool) (unit : StorageUnit) : UnitRef × Pool :=
  let ref := { id := unit.id, serial := pool.admissions }
  (ref, { units := pool.units.insert ref unit, admissions := pool.admissions + 1 })

/-- Runs an operation on a unit. If the unit refuses it, nothing is stored. -/
def attempt {α : Type} (pool : Pool) (ref : UnitRef)
    (operation : StorageUnit → Except Error (α × StorageUnit)) : Except Error α × Pool :=
  match (pool.get ref).attempt operation with
  | (.ok answer, unit) => (.ok answer, pool.set ref unit)
  | (.error e, _) => (.error e, pool)

/-- Whether a unit is active. -/
def isActive (pool : Pool) (ref : UnitRef) : Bool := (pool.get ref).active

@[simp] theorem get_set_self (pool : Pool) (ref : UnitRef) (unit : StorageUnit) :
    (pool.set ref unit).get ref = unit := by
  simp [get, set]

theorem get_set_of_ne (pool : Pool) {ref other : UnitRef} (h : ref ≠ other) (unit : StorageUnit) :
    (pool.set ref unit).get other = pool.get other := by
  simp [get, set, Std.ExtTreeMap.getD_insert, h]

end Pool

end QuorumRing
