import QuorumRing.Fleet.Migration
import QuorumRing.Proofs.Ring.Closeness

/-!
# The copies of a key

All that clients and background work do to data goes through operations on single units. Such an
operation changes neither the ring nor anybody's liveness (`Fleet.SameShape`), so that replica sets
stay what they are while data moves, and what it does to the data is said by one equation about
`Fleet.copy`, the value that a unit holds for a key.
-/

namespace QuorumRing.Fleet

variable {fleet fleet' : Fleet} {unit : UnitRef} {key value : String}

/-- The value that a unit holds for a key, whether it is active or not. -/
def copy (fleet : Fleet) (unit : UnitRef) (key : String) : Option String :=
  (fleet.get unit).contents[key]?

/-- If all units agree, a search finds what they agree on. -/
theorem findSome?_eq_of_forall {held : UnitRef → Option String} {found : Option String}
    {units : List UnitRef} (h : ∀ u ∈ units, held u = found) (hnil : units = [] → found = none) :
    units.findSome? held = found := by
  cases found with
  | none => exact List.findSome?_eq_none_iff.2 h
  | some value =>
    obtain ⟨u, rest, rfl⟩ := List.exists_cons_of_ne_nil fun heq => Option.some_ne_none _ (hnil heq)
    rw [List.findSome?_cons, h u List.mem_cons_self]

/-! ## Fleets of the same shape -/

/-- The two fleets have the same ring and the same active units. -/
structure SameShape (fleet fleet' : Fleet) : Prop where
  /-- The rings are the same. -/
  ring : fleet'.ring = fleet.ring
  /-- The same units are active. -/
  active : fleet'.pool.isActive = fleet.pool.isActive

namespace SameShape

theorem refl (fleet : Fleet) : SameShape fleet fleet := ⟨rfl, rfl⟩

theorem trans {a b c : Fleet} (h : SameShape a b) (h' : SameShape b c) : SameShape a c :=
  ⟨h'.ring.trans h.ring, h'.active.trans h.active⟩

theorem units (h : SameShape fleet fleet') : fleet'.units = fleet.units := by
  simp [Fleet.units, h.ring]

theorem activeUnits (h : SameShape fleet fleet') : fleet'.activeUnits = fleet.activeUnits := by
  rw [Fleet.activeUnits, h.units, h.active, Fleet.activeUnits]

theorem replicas (h : SameShape fleet fleet') (key : String) (r : Nat) :
    fleet'.replicas key r = fleet.replicas key r := by
  simp [Fleet.replicas, h.ring, h.active]

end SameShape

/-! ## Operations on single units -/

section Attempt

variable {α : Type} (operation : Contents → α × Contents)

theorem attempt_of_active (h : fleet.pool.isActive unit = true) :
    fleet.attempt unit (·.accept operation) =
      (.ok (operation (fleet.get unit).contents).1,
        { fleet with pool := fleet.pool.set unit { fleet.get unit with
            contents := (operation (fleet.get unit).contents).2
            operations := (fleet.get unit).operations + 1 } }) := by
  have hactive : (fleet.pool.get unit).active = true := h
  simp [attempt, Pool.attempt, StorageUnit.attempt, StorageUnit.accept, hactive, get]

theorem attempt_of_inactive (h : fleet.pool.isActive unit = false) :
    fleet.attempt unit (·.accept operation) =
      (.error (.nodeInactive (fleet.get unit).id), fleet) := by
  have hactive : (fleet.pool.get unit).active = false := h
  simp [attempt, Pool.attempt, StorageUnit.attempt, StorageUnit.accept, hactive, get]

theorem sameShape_attempt (fleet : Fleet) (unit : UnitRef) :
    SameShape fleet (fleet.attempt unit (·.accept operation)).2 := by
  cases h : fleet.pool.isActive unit with
  | false =>
    rw [attempt_of_inactive operation h]
    exact SameShape.refl fleet
  | true =>
    rw [attempt_of_active operation h]
    refine ⟨rfl, funext fun w => ?_⟩
    by_cases hw : unit = w
    · subst hw
      simp [Pool.isActive, get]
    · simp [Pool.isActive, Pool.get_set_of_ne, hw]

theorem copy_attempt (fleet : Fleet) (unit w : UnitRef) (j : String) :
    (fleet.attempt unit (·.accept operation)).2.copy w j =
      if w = unit ∧ fleet.pool.isActive unit then (operation (fleet.get unit).contents).2[j]?
      else fleet.copy w j := by
  cases h : fleet.pool.isActive unit with
  | false => simp [attempt_of_inactive operation h]
  | true =>
    rw [attempt_of_active operation h]
    by_cases hw : w = unit
    · subst hw
      simp [copy, get]
    · simp [copy, get, Pool.get_set_of_ne, hw, Ne.symm hw]

end Attempt

/-- A unit stores a value if it is active. -/
theorem copy_attempt_put (fleet : Fleet) (unit w : UnitRef) (key value j : String) :
    (fleet.attempt unit (·.put key value)).2.copy w j =
      if w = unit ∧ j = key ∧ fleet.pool.isActive unit then some value else fleet.copy w j := by
  refine (copy_attempt _ fleet unit w j).trans ?_
  by_cases hw : w = unit
  · subst hw
    by_cases hj : j = key
    · simp [hj]
    · simp [hj, Std.ExtTreeMap.getElem?_insert, Ne.symm hj, copy]
  · simp [hw]

/-- Reading changes no copy. -/
theorem copy_attempt_get (fleet : Fleet) (unit w : UnitRef) (key j : String) :
    (fleet.attempt unit (·.get key)).2.copy w j = fleet.copy w j := by
  refine (copy_attempt _ fleet unit w j).trans ?_
  split
  next h => rw [h.1, copy]
  · rfl

/-- A unit gives up a key if it is active. -/
theorem copy_attempt_remove (fleet : Fleet) (unit w : UnitRef) (key j : String) :
    (fleet.attempt unit (·.remove key)).2.copy w j =
      if w = unit ∧ j = key ∧ fleet.pool.isActive unit then none else fleet.copy w j := by
  refine (copy_attempt _ fleet unit w j).trans ?_
  by_cases hw : w = unit
  · subst hw
    by_cases hj : j = key
    · simp [hj]
    · simp [hj, Std.ExtTreeMap.getElem?_erase, Ne.symm hj, copy]
  · simp [hw]

theorem sameShape_attempt_put (fleet : Fleet) (unit : UnitRef) (key value : String) :
    SameShape fleet (fleet.attempt unit (·.put key value)).2 :=
  sameShape_attempt _ fleet unit

theorem sameShape_attempt_get (fleet : Fleet) (unit : UnitRef) (key : String) :
    SameShape fleet (fleet.attempt unit (·.get key)).2 :=
  sameShape_attempt _ fleet unit

theorem sameShape_attempt_remove (fleet : Fleet) (unit : UnitRef) (key : String) :
    SameShape fleet (fleet.attempt unit (·.remove key)).2 :=
  sameShape_attempt _ fleet unit

theorem attempt_get_fst (h : fleet.pool.isActive unit = true) (key : String) :
    (fleet.attempt unit (·.get key)).1 = .ok (fleet.copy unit key) :=
  congrArg Prod.fst (attempt_of_active _ h)

theorem attempt_put_fst (h : fleet.pool.isActive unit = true) (key value : String) :
    (fleet.attempt unit (·.put key value)).1 = .ok (fleet.copy unit key) :=
  congrArg Prod.fst
    (attempt_of_active (fun contents => (contents[key]?, contents.insert key value)) h)

theorem attempt_remove_fst (h : fleet.pool.isActive unit = true) (key : String) :
    (fleet.attempt unit (·.remove key)).1 = .ok (fleet.copy unit key) :=
  congrArg Prod.fst (attempt_of_active (fun contents => (contents[key]?, contents.erase key)) h)

theorem attempt_put_isOk (fleet : Fleet) (unit : UnitRef) (key value : String) :
    (fleet.attempt unit (·.put key value)).1.isOk = fleet.pool.isActive unit := by
  cases h : fleet.pool.isActive unit with
  | false => exact congrArg (Except.isOk ∘ Prod.fst) (attempt_of_inactive _ h)
  | true => exact congrArg (Except.isOk ∘ Prod.fst) (attempt_of_active _ h)

theorem containsKey_eq (fleet : Fleet) (unit : UnitRef) (key : String) :
    (fleet.get unit).containsKey key =
      (fleet.pool.isActive unit && (fleet.copy unit key).isSome) := by
  simp [StorageUnit.containsKey, Pool.isActive, copy, get]

end QuorumRing.Fleet
