import QuorumRing.Proofs.Fleet.Inspection

/-!
# What a health check finds

A probe may work on the entries of a unit, but it does not switch the unit (`Probe.Neutral`). So the
probes of different units do not meet, and a check can be described from the fleet as it was before:
afterwards a unit is active if it passed its probe, the report lists the units that were switched
(`Fleet.switched`), and the monitor revises its list by them (`Monitor.revise`).
-/

namespace QuorumRing

namespace Probe

/-- The probe leaves it to the monitor to switch units. -/
def Neutral (probe : Probe) : Prop := ∀ unit, (probe unit).2.active = unit.active

theorem neutral_failingFor (down : List String) : (failingFor down).Neutral := by
  intro unit
  unfold failingFor
  split
  · rfl
  · rfl

end Probe

namespace Fleet

variable {fleet fleet' : Fleet} {probe : Probe} {units : List UnitRef} {id : String}

/-- Whether a unit passes a probe. -/
def passes (fleet : Fleet) (probe : Probe) (unit : UnitRef) : Bool :=
  (probe (fleet.get unit)).1.isOk

/-- The fleet after a unit was probed. -/
def probed (fleet : Fleet) (probe : Probe) (unit : UnitRef) : Fleet :=
  { fleet with pool := fleet.pool.set unit (probe (fleet.get unit)).2 }

/-- The ids of those units that a check switches on, or off. -/
def switched (fleet : Fleet) (probe : Probe) (active : Bool) (units : List UnitRef) : List String :=
  (units.filter fun unit =>
    fleet.pool.isActive unit == !active && fleet.passes probe unit == active).map (·.id)

theorem mem_switched_iff {active : Bool} : id ∈ fleet.switched probe active units ↔
    ∃ unit ∈ units, unit.id = id ∧ fleet.pool.isActive unit = !active ∧
      fleet.passes probe unit = active := by
  simp only [switched, List.mem_map, List.mem_filter, Bool.and_eq_true, beq_iff_eq]
  exact exists_congr fun unit => by tauto

theorem switched_subset (fleet : Fleet) (probe : Probe) (active : Bool) (units : List UnitRef) :
    fleet.switched probe active units ⊆ units.map (·.id) :=
  (List.filter_sublist.map _).subset

theorem switched_cons (fleet : Fleet) (probe : Probe) (active : Bool) (unit : UnitRef)
    (units : List UnitRef) : fleet.switched probe active (unit :: units) =
      fleet.switched probe active [unit] ++ fleet.switched probe active units := by
  rw [switched, switched, switched, ← List.map_append, ← List.filter_append, List.singleton_append]

/-- Only the states of the units in question matter. -/
theorem switched_congr (h : ∀ unit ∈ units, fleet'.get unit = fleet.get unit) (probe : Probe)
    (active : Bool) : fleet'.switched probe active units = fleet.switched probe active units := by
  refine congrArg (List.map UnitRef.id) (List.filter_congr fun unit hunit => ?_)
  have hget : fleet'.pool.get unit = fleet.pool.get unit := h unit hunit
  simp only [passes, get, Pool.isActive, hget]

/-- No unit is switched off and on in the same check. -/
theorem disjoint_switched (hs : fleet.ring.Sound) (probe : Probe) :
    (fleet.switched probe false fleet.units).Disjoint (fleet.switched probe true fleet.units) := by
  intro id hoff hon
  obtain ⟨u, hu, hid, hactive, -⟩ := mem_switched_iff.1 hoff
  obtain ⟨v, hv, hid', hinactive, -⟩ := mem_switched_iff.1 hon
  obtain rfl : u = v := eq_of_id_eq hs hu hv (hid.trans hid'.symm)
  exact Bool.false_ne_true (hinactive.symm.trans hactive)

end Fleet

namespace Monitor

/-! ## The list of the monitor -/

/-- What is remembered after some ids were switched off and others on. -/
def revise (failed deactivated recovered : List String) : List String :=
  failed.filter (· ∉ recovered) ++ deactivated.filter (· ∉ failed)

section Revise

variable {failed deactivated recovered deactivated' recovered' : List String} {id : String}

theorem mem_revise_iff (h : deactivated.Disjoint recovered) :
    id ∈ revise failed deactivated recovered ↔
      id ∈ deactivated ∨ id ∈ failed ∧ id ∉ recovered := by
  have hapart : id ∈ deactivated → id ∉ recovered := fun hd hr => h hd hr
  simp only [revise, List.mem_append, List.mem_filter, decide_eq_true_eq]
  tauto

/-- Changes of different ids can be taken into account one after the other or at once. -/
theorem revise_revise (hd : deactivated.Disjoint deactivated')
    (hr : recovered.Disjoint deactivated') (hdr : deactivated.Disjoint recovered') :
    revise (revise failed deactivated recovered) deactivated' recovered' =
      revise failed (deactivated ++ deactivated') (recovered ++ recovered') := by
  have hold : (failed.filter (· ∉ recovered)).filter (· ∉ recovered') =
      failed.filter (· ∉ recovered ++ recovered') := by
    rw [List.filter_filter]
    refine List.filter_congr fun id _ => ?_
    simp [Bool.and_comm]
  have hfirst : (deactivated.filter (· ∉ failed)).filter (· ∉ recovered') =
      deactivated.filter (· ∉ failed) := by
    refine List.filter_eq_self.2 fun id hid => ?_
    simpa using hdr (List.mem_of_mem_filter hid)
  have hsecond : deactivated'.filter (· ∉ revise failed deactivated recovered) =
      deactivated'.filter (· ∉ failed) := by
    refine List.filter_congr fun id hid => ?_
    have hnew : id ∉ deactivated := fun h => hd h hid
    have hkept : id ∉ recovered := fun h => hr h hid
    simp [revise, hnew, hkept]
  rw [revise, hsecond, revise, List.filter_append, hold, hfirst, revise, List.filter_append,
    List.append_assoc]

end Revise

variable {probe : Probe} {fleet : Fleet} {units : List UnitRef}

/-! ## The probe of one unit -/

section Verdict

variable (hprobe : probe.Neutral) (unit : UnitRef) (monitor : Monitor) (report : HealthReport)
  (fleet : Fleet)

include hprobe

/-- An active unit fails. -/
theorem checkUnit_of_fails (hactive : fleet.pool.isActive unit = true)
    (hfails : fleet.passes probe unit = false) :
    checkUnit probe unit monitor report fleet =
      ({ report with
          checked := report.checked + 1
          deactivated := report.deactivated ++ [unit.id] },
        { failed := revise monitor.failed [unit.id] [] },
        (fleet.probed probe unit).setActive unit false) := by
  have hstill : (probe (fleet.get unit)).2.active = true := (hprobe _).trans hactive
  have hverdict : (probe (fleet.get unit)).1.isOk = false := hfails
  have hlist : revise monitor.failed [unit.id] [] =
      if monitor.failed.contains unit.id then monitor.failed else monitor.failed ++ [unit.id] := by
    by_cases hknown : unit.id ∈ monitor.failed <;> simp [revise, hknown]
  rw [hlist]
  simp only [checkUnit, hstill, hverdict, Bool.not_false, Bool.and_self, if_true]
  rfl

/-- An inactive unit passes. -/
theorem checkUnit_of_recovers (hinactive : fleet.pool.isActive unit = false)
    (hpasses : fleet.passes probe unit = true) :
    checkUnit probe unit monitor report fleet =
      ({ report with
          checked := report.checked + 1
          recovered := report.recovered ++ [unit.id] },
        { failed := revise monitor.failed [] [unit.id] },
        (fleet.probed probe unit).setActive unit true) := by
  have hstill : (probe (fleet.get unit)).2.active = false := (hprobe _).trans hinactive
  have hverdict : (probe (fleet.get unit)).1.isOk = true := hpasses
  have hlist : revise monitor.failed [] [unit.id] = monitor.failed.filter (· != unit.id) := by
    rw [revise, List.filter_nil, List.append_nil]
    exact List.filter_congr fun id _ => by simp [bne, Bool.beq_eq_decide_eq]
  rw [hlist]
  simp only [checkUnit, hstill, hverdict, Bool.not_false, Bool.not_true, Bool.and_self,
    Bool.false_eq_true, if_false, if_true]
  rfl

/-- Nothing has changed since the last probe. -/
theorem checkUnit_of_steady (h : fleet.pool.isActive unit = fleet.passes probe unit) :
    checkUnit probe unit monitor report fleet =
      ({ report with checked := report.checked + 1 }, monitor, fleet.probed probe unit) := by
  have hstill : (probe (fleet.get unit)).2.active = fleet.passes probe unit := (hprobe _).trans h
  have hverdict : (probe (fleet.get unit)).1.isOk = fleet.passes probe unit := rfl
  simp only [checkUnit, hstill, hverdict, Bool.not_and_self, Bool.and_not_self, Bool.false_eq_true,
    if_false]
  rfl

/-- What follows from a probe. -/
theorem checkUnit_eq : ∃ fleet',
    checkUnit probe unit monitor report fleet =
      ({ checked := report.checked + 1
         deactivated := report.deactivated ++ fleet.switched probe false [unit]
         recovered := report.recovered ++ fleet.switched probe true [unit] },
        { failed := revise monitor.failed (fleet.switched probe false [unit])
            (fleet.switched probe true [unit]) },
        fleet') ∧
      fleet'.pool.isActive unit = fleet.passes probe unit ∧
      ∀ w, w ≠ unit → fleet'.get w = fleet.get w := by
  have hprobed : (fleet.probed probe unit).pool.isActive unit = fleet.pool.isActive unit := by
    rw [Fleet.probed, Pool.isActive, Pool.get_set_self]
    exact hprobe _
  have hother : ∀ w, w ≠ unit → (fleet.probed probe unit).get w = fleet.get w := fun w hw =>
    Pool.get_set_of_ne _ (Ne.symm hw) _
  have hswitched : ∀ active w, w ≠ unit →
      ((fleet.probed probe unit).setActive unit active).get w = fleet.get w := fun active w hw =>
    (Pool.get_set_of_ne _ (Ne.symm hw) _).trans (hother w hw)
  -- in two of the four cases the unit has to be switched
  cases hactive : fleet.pool.isActive unit <;> cases hverdict : fleet.passes probe unit
  case false.true =>
    refine ⟨_, ?_, ?_, hswitched true⟩
    · rw [checkUnit_of_recovers hprobe _ _ _ _ hactive hverdict]
      simp [Fleet.switched, hactive, hverdict]
    · simp [Fleet.setActive, Pool.modify, Pool.isActive, StorageUnit.setActive]
  case true.false =>
    refine ⟨_, ?_, ?_, hswitched false⟩
    · rw [checkUnit_of_fails hprobe _ _ _ _ hactive hverdict]
      simp [Fleet.switched, hactive, hverdict]
    · simp [Fleet.setActive, Pool.modify, Pool.isActive, StorageUnit.setActive]
  all_goals
    refine ⟨_, ?_, hprobed.trans hactive, hother⟩
    rw [checkUnit_of_steady hprobe _ _ _ _ (hactive.trans hverdict.symm)]
    simp [Fleet.switched, revise, hactive, hverdict]

end Verdict

/-! ## The probes of all units -/

/-- The outcome of a pass, unit by unit, in terms of the fleet before. -/
theorem checkUnits_eq (hprobe : probe.Neutral) (hunits : units.Pairwise fun u v => u.id ≠ v.id)
    (monitor : Monitor) (report : HealthReport) (fleet : Fleet) : ∃ fleet',
    checkUnits probe monitor report fleet units =
      ({ checked := report.checked + units.length
         deactivated := report.deactivated ++ fleet.switched probe false units
         recovered := report.recovered ++ fleet.switched probe true units },
        { failed := revise monitor.failed (fleet.switched probe false units)
            (fleet.switched probe true units) },
        fleet') ∧
      (∀ w ∈ units, fleet'.pool.isActive w = fleet.passes probe w) ∧
      ∀ w, w ∉ units → fleet'.get w = fleet.get w := by
  induction units generalizing monitor report fleet with
  | nil =>
    refine ⟨fleet, ?_, fun w hw => absurd hw List.not_mem_nil, fun _ _ => rfl⟩
    simp [checkUnits, Fleet.switched, revise]
  | cons unit units ih =>
    obtain ⟨hfirst, hrest⟩ := List.pairwise_cons.1 hunits
    obtain ⟨fleet₁, hunit, hself, hother⟩ := checkUnit_eq hprobe unit monitor report fleet
    obtain ⟨fleet₂, hunits, hchecked, houtside⟩ := ih hrest
      { failed := revise monitor.failed (fleet.switched probe false [unit])
          (fleet.switched probe true [unit]) }
      { checked := report.checked + 1
        deactivated := report.deactivated ++ fleet.switched probe false [unit]
        recovered := report.recovered ++ fleet.switched probe true [unit] } fleet₁
    -- the first probe has changed nothing about the other units
    have hsame : ∀ w ∈ units, fleet₁.get w = fleet.get w := by
      intro w hw
      refine hother w fun heq => hfirst w hw ?_
      rw [heq]
    have hapart : ∀ {a b : List String}, a ⊆ [unit.id] → b ⊆ units.map (·.id) → a.Disjoint b := by
      intro a b ha hb id hida hidb
      obtain ⟨w, hw, rfl⟩ := List.mem_map.1 (hb hidb)
      exact hfirst w hw (List.mem_singleton.1 (ha hida)).symm
    have hsubset := fleet.switched_subset probe
    refine ⟨fleet₂, ?_, fun w hw => ?_, fun w hw => ?_⟩
    · rw [checkUnits, hunit]
      dsimp only
      rw [hunits, Fleet.switched_congr hsame, Fleet.switched_congr hsame,
        revise_revise (hapart (hsubset _ _) (hsubset _ _)) (hapart (hsubset _ _) (hsubset _ _))
          (hapart (hsubset _ _) (hsubset _ _)),
        fleet.switched_cons probe false unit units, fleet.switched_cons probe true unit units,
        List.append_assoc, List.append_assoc, List.length_cons, Nat.add_assoc, Nat.add_comm 1]
    · rcases List.mem_cons.1 hw with rfl | hw
      · have hlast : fleet₂.get w = fleet₁.get w := houtside w fun hmem => hfirst w hmem rfl
        exact (congrArg StorageUnit.active hlast).trans hself
      · rw [hchecked w hw, Fleet.passes, hsame w hw, Fleet.passes]
    · obtain ⟨hne, hnot⟩ := not_or.1 (mt List.mem_cons.2 hw)
      exact (houtside w hnot).trans (hother w hne)

/-- The outcome of a check. -/
theorem check_eq (hs : fleet.ring.Sound) (hprobe : probe.Neutral) (monitor : Monitor) :
    ∃ fleet', monitor.check probe fleet =
      ({ checked := fleet.units.length
         deactivated := fleet.switched probe false fleet.units
         recovered := fleet.switched probe true fleet.units },
        { failed := revise monitor.failed (fleet.switched probe false fleet.units)
            (fleet.switched probe true fleet.units) },
        fleet') ∧
      (∀ w ∈ fleet.units, fleet'.pool.isActive w = fleet.passes probe w) ∧
      ∀ w, w ∉ fleet.units → fleet'.get w = fleet.get w := by
  obtain ⟨fleet', heq, hmembers, hothers⟩ :=
    checkUnits_eq hprobe (Fleet.units_pairwise hs) monitor {} fleet
  refine ⟨fleet', ?_, hmembers, hothers⟩
  rw [check, heq]
  simp

/-- The monitor remembers those that it has just switched off, and of the others those that it has
not seen recover. -/
theorem mem_failed_check_iff (hs : fleet.ring.Sound) (hprobe : probe.Neutral) (monitor : Monitor)
    (id : String) :
    id ∈ (monitor.check probe fleet).2.1.failed ↔
      id ∈ (monitor.check probe fleet).1.deactivated ∨
        id ∈ monitor.failed ∧ id ∉ (monitor.check probe fleet).1.recovered := by
  obtain ⟨fleet', hcheck, -⟩ := check_eq hs hprobe monitor
  rw [hcheck]
  exact mem_revise_iff (Fleet.disjoint_switched hs probe)

end Monitor

end QuorumRing
