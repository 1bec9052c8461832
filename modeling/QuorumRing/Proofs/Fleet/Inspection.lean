import QuorumRing.Fleet.Health
import QuorumRing.Fleet.Verification
import QuorumRing.Proofs.Fleet.Movement

/-!
# Looking at a fleet

A verification and a repair begin by reading a key on its replicas, which changes no copy. So the
verdict on a key is a function of its copies (`Fleet.health`), and a fleet is found clean if its
ring is consistent and all replicas of every stored key hold it with one value
(`Fleet.isClean_verify_iff`). A repair gives all replicas the value that a read would find.

A health check changes nothing but the liveness of members (`Fleet.Switching`).
-/

namespace QuorumRing.Fleet

variable {fleet fleet' : Fleet} {unit : UnitRef} {r : Nat} {key value : String}

/-! ## Reading a key on several units -/

theorem sameShape_readAll (fleet : Fleet) (key : String) (units : List UnitRef) :
    SameShape fleet (fleet.readAll key units).2 := by
  induction units generalizing fleet with
  | nil => exact SameShape.refl fleet
  | cons unit units ih => exact (sameShape_attempt_get fleet unit key).trans (ih _)

theorem copy_readAll (fleet : Fleet) (key : String) (units : List UnitRef) (w : UnitRef)
    (j : String) : (fleet.readAll key units).2.copy w j = fleet.copy w j := by
  induction units generalizing fleet with
  | nil => rfl
  | cons unit units ih => exact (ih _).trans (copy_attempt_get fleet unit w key j)

theorem readAll_fst (key : String) {units : List UnitRef}
    (h : ∀ unit ∈ units, fleet.pool.isActive unit = true) :
    (fleet.readAll key units).1 = units.map fun unit => (unit, .ok (fleet.copy unit key)) := by
  induction units generalizing fleet with
  | nil => rfl
  | cons unit units ih =>
    have hshape := sameShape_attempt_get fleet unit key
    have htail := @ih (fleet.attempt unit (·.get key)).2 fun u hu => by
      rw [hshape.active]
      exact h u (List.mem_cons_of_mem _ hu)
    have hhead := attempt_get_fst (h unit List.mem_cons_self) key
    simp only [copy_attempt_get] at htail
    exact congrArg₂ List.cons (congrArg (unit, ·) hhead) htail

/-! ## Verification -/

/-- The condition of a key. -/
def health (fleet : Fleet) (r : Nat) (key : String) : KeyHealth :=
  .ofValues (fleet.replicas key r).length ((fleet.replicas key r).filterMap (fleet.copy · key))

theorem health_congr (h : SameShape fleet fleet')
    (hcopy : ∀ w, fleet'.copy w key = fleet.copy w key) :
    fleet'.health r key = fleet.health r key := by
  simp only [health, h.replicas, hcopy]

theorem inspect_fst (hs : fleet.ring.Sound) (r : Nat) (key : String) :
    (fleet.inspect key r).1 = fleet.health r key := by
  have hread := readAll_fst key fun u (hu : u ∈ fleet.replicas key r) =>
    isActive_of_mem_replicas hs hu
  simp only [inspect, health, hread, List.filterMap_map]
  rfl

theorem sameShape_inspectAll (fleet : Fleet) (r : Nat) (report : VerifyReport)
    (keys : List String) : SameShape fleet (fleet.inspectAll r report keys).2 := by
  induction keys generalizing fleet report with
  | nil => exact SameShape.refl fleet
  | cons key keys ih => exact (sameShape_readAll fleet key (fleet.replicas key r)).trans (ih _ _)

theorem copy_inspectAll (fleet : Fleet) (r : Nat) (report : VerifyReport) (keys : List String)
    (w : UnitRef) (j : String) : (fleet.inspectAll r report keys).2.copy w j = fleet.copy w j := by
  induction keys generalizing fleet report with
  | nil => rfl
  | cons key keys ih =>
    exact (ih _ _).trans (copy_readAll fleet key (fleet.replicas key r) w j)

theorem inspectAll_fst (hs : fleet.ring.Sound) (r : Nat) (report : VerifyReport)
    (keys : List String) : (fleet.inspectAll r report keys).1 =
      keys.foldl (fun report key => report.count (fleet.health r key)) report := by
  induction keys generalizing fleet report with
  | nil => rfl
  | cons key keys ih =>
    have hshape := sameShape_readAll fleet key (fleet.replicas key r)
    have htail := @ih (fleet.inspect key r).2 (hshape.ring ▸ hs)
      (report.count (fleet.inspect key r).1)
    have hhealth : ∀ j, (fleet.inspect key r).2.health r j = fleet.health r j := fun j =>
      health_congr hshape fun w => copy_readAll fleet key _ w j
    simp only [hhealth, inspect_fst hs] at htail
    rw [List.foldl_cons, ← htail]
    rw [← inspect_fst hs]
    rfl

theorem sameShape_verify (fleet : Fleet) (r : Nat) : SameShape fleet (fleet.verify r).2 :=
  sameShape_inspectAll fleet r _ _

theorem copy_verify (fleet : Fleet) (r : Nat) (w : UnitRef) (j : String) :
    (fleet.verify r).2.copy w j = fleet.copy w j :=
  copy_inspectAll fleet r _ _ w j

/-- The counts of a report are clean if they were before and only healthy keys were added. -/
theorem isClean_foldl_count (health : String → KeyHealth) (report : VerifyReport)
    (keys : List String) :
    (keys.foldl (fun report key => report.count (health key)) report).isClean = true ↔
      report.isClean = true ∧ ∀ key ∈ keys, health key = .healthy := by
  induction keys generalizing report with
  | nil => simp
  | cons key keys ih =>
    have hcount : (report.count (health key)).isClean = true ↔
        report.isClean = true ∧ health key = .healthy := by
      cases health key <;>
        simp [VerifyReport.count, VerifyReport.isClean, VerifyReport.ringConsistent]
    rw [List.foldl_cons, ih, hcount, List.forall_mem_cons, and_assoc]

theorem isClean_verify (hs : fleet.ring.Sound) (r : Nat) : (fleet.verify r).1.isClean = true ↔
    fleet.ring.isConsistent = true ∧ ∀ key ∈ fleet.storedKeys, fleet.health r key = .healthy := by
  simp only [verify, inspectAll_fst hs, isClean_foldl_count, Std.ExtTreeSet.mem_toList]
  refine and_congr_left fun _ => ?_
  simp [VerifyReport.isClean, VerifyReport.ringConsistent, Ring.isConsistent]

/-- Values that are as many as the units they come from come from each of them. -/
theorem eq_some_of_length_filterMap {held : UnitRef → Option String} {units : List UnitRef}
    (hlength : units.length ≤ (units.filterMap held).length)
    (hagree : ∀ v ∈ units.filterMap held, v = value) : ∀ u ∈ units, held u = some value := by
  intro u hu
  have hle := List.length_filterMap_le held units
  have hall := List.filterMap_length_eq_length.1 (Nat.le_antisymm hle hlength)
  obtain ⟨v, hv⟩ := Option.isSome_iff_exists.1 (hall u hu)
  rw [hv, hagree v (List.mem_filterMap.2 ⟨u, hu, hv⟩)]

theorem ofValues_eq_healthy_iff (held : UnitRef → Option String) (units : List UnitRef) :
    KeyHealth.ofValues units.length (units.filterMap held) = .healthy ↔
      units ≠ [] ∧ ∃ value, ∀ u ∈ units, held u = some value := by
  constructor
  · intro h
    cases hvalues : units.filterMap held with
    | nil => simp [hvalues, KeyHealth.ofValues] at h
    | cons value values =>
      rw [hvalues, KeyHealth.ofValues] at h
      split at h
      · simp at h
      next hagree =>
        split at h
        · simp at h
        next hlong =>
          refine ⟨fun hnil => by simp [hnil] at hvalues, value, ?_⟩
          refine eq_some_of_length_filterMap ?_ fun v hv => ?_
          · rw [hvalues, List.length_cons]
            omega
          · rw [hvalues] at hv
            rcases List.mem_cons.1 hv with rfl | hv
            · rfl
            · by_contra hne
              exact hagree (List.any_eq_true.2 ⟨v, hv, bne_iff_ne.2 hne⟩)
  · rintro ⟨hne, value, hall⟩
    have hvalues : units.filterMap held = List.replicate units.length value := by
      rw [List.filterMap_congr hall, ← List.map_const']
      exact congrFun List.filterMap_eq_map units
    obtain ⟨n, hn⟩ : ∃ n, units.length = n + 1 :=
      Nat.exists_eq_succ_of_ne_zero fun h => hne (List.length_eq_zero_iff.1 h)
    rw [hvalues, hn, List.replicate_succ, KeyHealth.ofValues]
    simp

theorem isClean_verify_iff (hs : fleet.ring.Sound) (r : Nat) :
    (fleet.verify r).1.isClean = true ↔ fleet.ring.isConsistent = true ∧
      ∀ key ∈ fleet.storedKeys, fleet.replicas key r ≠ [] ∧
        ∃ value, ∀ u ∈ fleet.replicas key r, fleet.copy u key = some value := by
  simp only [isClean_verify hs, health, ofValues_eq_healthy_iff]

/-! ## Repair -/

theorem sameShape_mend (fleet : Fleet) (key value : String) (report : RepairReport)
    (answers : List (UnitRef × Except Error (Option String))) :
    SameShape fleet (fleet.mend key value report answers).2 := by
  fun_induction mend fleet key value report answers with
  | case1 => exact SameShape.refl _
  | case2 => assumption
  | case3 => assumption
  | case4 fleet report unit answers seen hseen previous stored hput ih =>
    have := sameShape_attempt_put fleet unit key value
    rw [hput] at this
    exact this.trans ih
  | case5 fleet report unit answers seen hseen e stored hput ih =>
    have := sameShape_attempt_put fleet unit key value
    rw [hput] at this
    exact this.trans ih

theorem value_mend (fleet : Fleet) (key value : String) (report : RepairReport)
    (answers : List (UnitRef × Except Error (Option String))) :
    (fleet.mend key value report answers).1.value = report.value := by
  fun_induction mend fleet key value report answers with
  | case1 => rfl
  | case2 => assumption
  | case3 => assumption
  | case4 => assumption
  | case5 => assumption

/-- Mending brings the value to all of the active units that were asked. A unit whose answer was the
value is passed over, and has to hold it still. -/
theorem copy_mend (key : String) (report : RepairReport) (held : UnitRef → Option String)
    {units : List UnitRef} (hactive : ∀ u ∈ units, fleet.pool.isActive u = true)
    (hheld : ∀ u ∈ units, held u = some value → fleet.copy u key = some value)
    (w : UnitRef) (j : String) :
    (fleet.mend key value report (units.map fun u => (u, .ok (held u)))).2.copy w j =
      if w ∈ units ∧ j = key then some value else fleet.copy w j := by
  induction units generalizing fleet report with
  | nil => simp [mend]
  | cons unit units ih =>
    obtain ⟨hunit, hactive⟩ := List.forall_mem_cons.1 hactive
    obtain ⟨hfirst, hheld⟩ := List.forall_mem_cons.1 hheld
    by_cases hseen : held unit = some value
    · rw [List.map_cons, mend, if_pos hseen, ih report hactive hheld]
      by_cases hw : w = unit
      · subst hw
        by_cases hj : j = key <;> simp [hj, hfirst hseen]
      · simp [hw]
    · have hshape := sameShape_attempt_put fleet unit key value
      have hok : fleet.attempt unit (·.put key value) =
          (.ok (fleet.copy unit key), (fleet.attempt unit (·.put key value)).2) :=
        Prod.ext (attempt_put_fst hunit key value) rfl
      have htail := @ih (fleet.attempt unit (·.put key value)).2
        { report with repaired := report.repaired ++ [unit.id] }
        (fun u hu => by rw [hshape.active, hactive u hu])
        (fun u hu hv => by rw [copy_attempt_put, hheld u hu hv, ite_self])
      rw [List.map_cons, mend]
      rw [if_neg hseen, hok]
      dsimp only
      rw [htail, copy_attempt_put]
      by_cases hw : w = unit
      · subst hw
        by_cases hj : j = key <;> simp [hj, hunit]
      · simp [hw]

theorem sameShape_repair (fleet : Fleet) (key : String) (r : Nat) :
    SameShape fleet (fleet.repair key r).2 := by
  have hread := sameShape_readAll fleet key (fleet.replicas key r)
  unfold repair
  dsimp only
  split
  · exact hread
  · exact hread.trans (sameShape_mend _ _ _ _ _)

theorem firstValue?_map (held : UnitRef → Option String) (units : List UnitRef) :
    firstValue? (units.map fun u => (u, .ok (held u))) = units.findSome? held := by
  rw [firstValue?, List.findSome?_map]
  rfl

/-- A repair finds the value of the closest replica that holds any, and brings it to all of them. -/
theorem copy_repair (hs : fleet.ring.Sound) (r : Nat) (key : String) (w : UnitRef) (j : String) :
    (fleet.repair key r).2.copy w j =
      if w ∈ fleet.replicas key r ∧ j = key then
        (fleet.replicas key r).findSome? (fleet.copy · key)
      else fleet.copy w j := by
  have hactive := fun u (hu : u ∈ fleet.replicas key r) => isActive_of_mem_replicas hs hu
  have hread := readAll_fst key hactive
  have hshape := sameShape_readAll fleet key (fleet.replicas key r)
  unfold repair
  dsimp only
  rw [hread, firstValue?_map]
  cases hfound : (fleet.replicas key r).findSome? (fleet.copy · key) with
  | none =>
    dsimp only
    rw [copy_readAll]
    split
    next h => rw [h.2, List.findSome?_eq_none_iff.1 hfound w h.1]
    · rfl
  | some value =>
    dsimp only
    rw [copy_mend key _ (fleet.copy · key), copy_readAll]
    · intro u hu
      rw [hshape.active, hactive u hu]
    · intro u _ hv
      rw [copy_readAll, hv]

theorem value_repair (hs : fleet.ring.Sound) (r : Nat) (key : String) :
    (fleet.repair key r).1.value = (fleet.replicas key r).findSome? (fleet.copy · key) := by
  have hread := readAll_fst key fun u (hu : u ∈ fleet.replicas key r) =>
    isActive_of_mem_replicas hs hu
  unfold repair
  dsimp only
  rw [hread, firstValue?_map]
  split
  next hnone => exact hnone.symm
  next value hvalue => rw [value_mend, hvalue]

/-! ## Health checks -/

/-- Some members are switched on or off, and nothing else happens. -/
structure Switching (fleet fleet' : Fleet) : Prop where
  /-- The rings are the same. -/
  ring : fleet'.ring = fleet.ring
  /-- No copy changes. -/
  copy : ∀ w j, fleet'.copy w j = fleet.copy w j
  /-- Who is no member is active if it was before. -/
  outsider : ∀ w, w ∉ fleet.units → fleet'.pool.isActive w = fleet.pool.isActive w

namespace Switching

theorem refl (fleet : Fleet) : Switching fleet fleet := ⟨rfl, fun _ _ => rfl, fun _ _ => rfl⟩

theorem trans {a b c : Fleet} (h : Switching a b) (h' : Switching b c) : Switching a c where
  ring := h'.ring.trans h.ring
  copy w j := (h'.copy w j).trans (h.copy w j)
  outsider w hw := by
    refine (h'.outsider w ?_).trans (h.outsider w hw)
    simpa [units, h.ring] using hw

end Switching

/-- A member may be replaced by a unit with the same entries. -/
theorem switching_set (h : unit ∈ fleet.units) {state : StorageUnit}
    (hstate : state.contents = (fleet.get unit).contents) :
    Switching fleet { fleet with pool := fleet.pool.set unit state } := by
  refine ⟨rfl, fun w j => ?_, fun w hw => ?_⟩
  · by_cases hw : unit = w
    · subst hw
      simp [copy, get, hstate]
    · simp [copy, get, Pool.get_set_of_ne, hw]
  · have hne : unit ≠ w := fun heq => hw (heq ▸ h)
    simp [Pool.isActive, Pool.get_set_of_ne, hne]

theorem switching_setActive (h : unit ∈ fleet.units) (active : Bool) :
    Switching fleet (fleet.setActive unit active) :=
  switching_set h rfl

theorem contents_probe (down : List String) (unit : StorageUnit) :
    (Probe.failingFor down unit).2.contents = unit.contents := by
  unfold Probe.failingFor
  split
  · rfl
  · rw [unit.selfTest_eq]

theorem switching_checkUnit (down : List String) (h : unit ∈ fleet.units) (monitor : Monitor)
    (report : HealthReport) :
    Switching fleet (Monitor.checkUnit (.failingFor down) unit monitor report fleet).2.2 := by
  have hprobe := switching_set h (contents_probe down (fleet.get unit))
  have hmember : unit ∈ Fleet.units
      { fleet with pool := fleet.pool.set unit (Probe.failingFor down (fleet.get unit)).2 } := h
  unfold Monitor.checkUnit
  dsimp only
  split
  · exact hprobe.trans (switching_setActive hmember false)
  · split
    · exact hprobe.trans (switching_setActive hmember true)
    · exact hprobe

theorem switching_checkUnits (down : List String) {units : List UnitRef}
    (h : ∀ unit ∈ units, unit ∈ fleet.units) (monitor : Monitor) (report : HealthReport) :
    Switching fleet (Monitor.checkUnits (.failingFor down) monitor report fleet units).2.2 := by
  induction units generalizing fleet monitor report with
  | nil => exact Switching.refl fleet
  | cons unit units ih =>
    obtain ⟨hunit, htail⟩ := List.forall_mem_cons.1 h
    have hfirst := switching_checkUnit down hunit monitor report
    refine hfirst.trans (ih (fun u hu => ?_) _ _)
    simpa [Fleet.units, hfirst.ring] using htail u hu

theorem switching_check (down : List String) (monitor : Monitor) (fleet : Fleet) :
    Switching fleet (monitor.check (.failingFor down) fleet).2.2 :=
  switching_checkUnits down (fun _ hu => hu) monitor {}

end QuorumRing.Fleet
