import QuorumRing.Proofs.Fleet.Probing
import QuorumRing.Proofs.Ring.History

/-!
# What a health check leaves behind

A self test writes to the unit that it tests and then puts back what was there, also where a user keeps
an entry under the same key. So the probes of a check leave no trace (`Probe.Traceless`), and one thing
only happens to a member: it is given the liveness that its probe has found (`Monitor.get_check`).

The report and the list of the monitor follow from the liveness of the members before and afterwards
(`Monitor.Checkup`). A second check finds every member as the probe wants it, and has nothing to tell.
-/

namespace QuorumRing

/-! ## Probes without a trace -/

namespace Probe

/-- The probe leaves units as they were. -/
def Traceless (probe : Probe) : Prop := ∀ unit, (probe unit).2 = unit

theorem Traceless.neutral {probe : Probe} (h : probe.Traceless) : probe.Neutral := fun unit =>
  congrArg StorageUnit.active (h unit)

theorem traceless_failingFor (down : List String) : (failingFor down).Traceless := by
  intro unit
  unfold failingFor
  split
  · rfl
  · exact congrArg Prod.snd unit.selfTest_eq

end Probe

namespace Fleet

variable {fleet : Fleet} {probe : Probe} {units : List UnitRef}

theorem passes_failingFor (fleet : Fleet) (down : List String) (unit : UnitRef) :
    fleet.passes (.failingFor down) unit = !down.contains (fleet.get unit).id := by
  unfold passes Probe.failingFor
  split
  next hdown =>
    rw [hdown]
    rfl
  next hup =>
    rw [StorageUnit.selfTest_eq, Bool.eq_false_iff.2 hup]
    rfl

/-- Nobody is switched where everybody is as the probe wants it. -/
theorem switched_eq_nil (h : ∀ unit ∈ units, fleet.pool.isActive unit = fleet.passes probe unit)
    (active : Bool) : fleet.switched probe active units = [] := by
  refine List.map_eq_nil_iff.2 (List.filter_eq_nil_iff.2 fun unit hunit => ?_)
  rw [h unit hunit]
  cases fleet.passes probe unit <;> cases active <;> decide

/-- The ids of the members are in ascending order. -/
theorem ids_ascending (hs : fleet.ring.Sound) :
    (fleet.units.map (·.id)).Pairwise (· < ·) := by
  refine List.pairwise_map.2 (List.pairwise_map.2 ?_)
  refine fleet.ring.members.ordered_keys_toList.imp_of_mem fun {a b} ha hb hlt => ?_
  rw [hs.member_id (Std.ExtTreeMap.mem_toList_iff_getElem?_eq_some.1 ha),
    hs.member_id (Std.ExtTreeMap.mem_toList_iff_getElem?_eq_some.1 hb)]
  exact compareOfLessAndEq_eq_lt.1 hlt

theorem switched_ascending (hs : fleet.ring.Sound) (probe : Probe) (active : Bool) :
    (fleet.switched probe active fleet.units).Pairwise (· < ·) :=
  (ids_ascending hs).sublist (List.filter_sublist.map _)

end Fleet

namespace Monitor

variable {probe : Probe} {fleet : Fleet} {monitor : Monitor}

/-- A list without duplicates stays one. -/
theorem nodup_revise {failed deactivated recovered : List String} (hfailed : failed.Nodup)
    (hdeactivated : deactivated.Nodup) : (revise failed deactivated recovered).Nodup := by
  refine List.nodup_append.2 ⟨hfailed.filter _, hdeactivated.filter _, ?_⟩
  rintro id hold _ hnew rfl
  exact of_decide_eq_true (List.mem_filter.1 hnew).2 (List.mem_of_mem_filter hold)

/-! ## The units after a check -/

theorem get_checkUnit_self (hprobe : probe.Traceless) (unit : UnitRef) (monitor : Monitor)
    (report : HealthReport) (fleet : Fleet) :
    (checkUnit probe unit monitor report fleet).2.2.get unit =
      (fleet.get unit).setActive (fleet.passes probe unit) := by
  have hprobed : (fleet.probed probe unit).get unit = fleet.get unit :=
    (Pool.get_set_self _ _ _).trans (hprobe _)
  have hset : ∀ active, ((fleet.probed probe unit).setActive unit active).get unit =
      (fleet.get unit).setActive active := by
    intro active
    rw [← hprobed]
    exact Pool.get_set_self _ _ _
  cases hactive : fleet.pool.isActive unit <;> cases hverdict : fleet.passes probe unit
  case false.true =>
    rw [checkUnit_of_recovers hprobe.neutral _ _ _ _ hactive hverdict]
    exact hset true
  case true.false =>
    rw [checkUnit_of_fails hprobe.neutral _ _ _ _ hactive hverdict]
    exact hset false
  all_goals
    rw [checkUnit_of_steady hprobe.neutral _ _ _ _ (hactive.trans hverdict.symm), ← hactive]
    exact hprobed

theorem get_checkUnits (hprobe : probe.Traceless) {units : List UnitRef} (hunits : units.Nodup)
    (monitor : Monitor) (report : HealthReport) (fleet : Fleet) (w : UnitRef) :
    (checkUnits probe monitor report fleet units).2.2.get w =
      if w ∈ units then (fleet.get w).setActive (fleet.passes probe w) else fleet.get w := by
  induction units generalizing monitor report fleet with
  | nil => rfl
  | cons unit units ih =>
    obtain ⟨hfirst, hrest⟩ := List.nodup_cons.1 hunits
    have hself := get_checkUnit_self hprobe unit monitor report fleet
    obtain ⟨fleet₁, hunit, -, hother⟩ := checkUnit_eq hprobe.neutral unit monitor report fleet
    rw [hunit] at hself
    rw [checkUnits, hunit]
    dsimp only at hself ⊢
    rw [ih hrest]
    by_cases hw : w = unit
    · subst hw
      rw [if_neg hfirst, if_pos List.mem_cons_self, hself]
    · simp only [Fleet.passes, hother w hw, List.mem_cons, hw, false_or]

/-- A check gives every member the liveness that its probe has found, and does nothing else. -/
theorem get_check (hs : fleet.ring.Sound) (hprobe : probe.Traceless) (monitor : Monitor)
    (w : UnitRef) : (monitor.check probe fleet).2.2.get w =
      if w ∈ fleet.units then (fleet.get w).setActive (fleet.passes probe w) else fleet.get w :=
  get_checkUnits hprobe (Ring.nodup_of_pairwise (Fleet.units_pairwise hs)) monitor {} fleet w

/-- Where everybody is as the probe wants it, a check changes nothing. -/
theorem check_of_settled (hs : fleet.ring.Sound) (hprobe : probe.Traceless) (monitor : Monitor)
    (h : ∀ unit ∈ fleet.units, fleet.pool.isActive unit = fleet.passes probe unit) :
    (monitor.check probe fleet).1 = { checked := fleet.units.length } ∧
      (monitor.check probe fleet).2.1 = monitor ∧
      ∀ w, (monitor.check probe fleet).2.2.get w = fleet.get w := by
  have hget := get_check hs hprobe monitor
  obtain ⟨fleet', hcheck, -⟩ := check_eq hs hprobe.neutral monitor
  rw [Fleet.switched_eq_nil h, Fleet.switched_eq_nil h] at hcheck
  refine ⟨by rw [hcheck], by simp [hcheck, revise], fun w => ?_⟩
  rw [hget]
  split
  next hw =>
    rw [← h w hw]
    rfl
  · rfl

/-! ## The account of a check -/

/-- What a check makes of the monitor and the fleet, and what it reports, when the probes of these ids
fail and those of all others are self tests. -/
structure Checkup (down : List String) (monitor : Monitor) (fleet : Fleet) (report : HealthReport)
    (monitor' : Monitor) (fleet' : Fleet) : Prop where
  /-- Every unit is probed. -/
  checked : report.checked = fleet.units.length
  /-- A member is active if its probe succeeds. Its entries and its counter are what they were. -/
  member : ∀ unit ∈ fleet.units,
    fleet'.get unit = { fleet.get unit with active := !down.contains (fleet.get unit).id }
  /-- All other units are as they were. -/
  outsider : ∀ unit, unit ∉ fleet.units → fleet'.get unit = fleet.get unit
  /-- So is the ring. -/
  ring : fleet'.ring = fleet.ring
  /-- The units that are not active any more, ... -/
  deactivated : report.deactivated = (fleet.units.filter fun unit =>
    fleet.pool.isActive unit && !fleet'.pool.isActive unit).map (·.id)
  /-- ... and those that are active again, ... -/
  recovered : report.recovered = (fleet.units.filter fun unit =>
    !fleet.pool.isActive unit && fleet'.pool.isActive unit).map (·.id)
  /-- ... are reported in the order of their ids. -/
  ascending : report.deactivated.Pairwise (· < ·) ∧ report.recovered.Pairwise (· < ·)
  /-- The monitor forgets those that are active again, and adds those that it has not listed. -/
  failed : monitor'.failed = monitor.failed.filter (· ∉ report.recovered) ++
    report.deactivated.filter (· ∉ monitor.failed)
  /-- It lists nobody twice. -/
  nodup : monitor'.failed.Nodup

theorem checkup_check (hs : fleet.ring.Sound) (hnodup : monitor.failed.Nodup)
    (down : List String) : Checkup down monitor fleet (monitor.check (.failingFor down) fleet).1
      (monitor.check (.failingFor down) fleet).2.1
      (monitor.check (.failingFor down) fleet).2.2 := by
  have hget := get_check hs (Probe.traceless_failingFor down) monitor
  have hring := (Fleet.switching_check down monitor fleet).ring
  obtain ⟨fleet', hcheck, hactive, -⟩ :=
    check_eq hs (Probe.traceless_failingFor down).neutral monitor
  rw [hcheck] at hget hring ⊢
  have hdeactivated := Fleet.switched_ascending hs (.failingFor down) false
  have hswitched : ∀ active, fleet.switched (.failingFor down) active fleet.units =
      (fleet.units.filter fun unit => fleet.pool.isActive unit == !active &&
        fleet'.pool.isActive unit == active).map (·.id) := fun active =>
    congrArg (List.map UnitRef.id) (List.filter_congr fun unit hunit => by rw [hactive unit hunit])
  constructor
  case checked => rfl
  case member =>
    intro unit hunit
    rw [hget, if_pos hunit, Fleet.passes_failingFor]
    rfl
  case outsider =>
    intro unit hunit
    rw [hget, if_neg hunit]
  case ring => exact hring
  case deactivated =>
    refine (hswitched false).trans ?_
    simp
  case recovered =>
    refine (hswitched true).trans ?_
    simp
  case ascending => exact ⟨hdeactivated, Fleet.switched_ascending hs (.failingFor down) true⟩
  case failed => rfl
  case nodup => exact nodup_revise hnodup (hdeactivated.imp fun hlt => ne_of_lt hlt)

/-- After every history of a ring, with any units alive, any contents and any list without duplicates:
a check gives the members the liveness that their probes find, and accounts for it in the report and
in the list. A second check with the same probes has nothing to report and changes nothing. -/
theorem check_accounts (virtualNodes : Nat) (changes : List Ring.Change) (pool : Pool)
    (down : List String) (monitor : Monitor) (hnodup : monitor.failed.Nodup) :
    let fleet : Fleet := { ring := Ring.ofHistory virtualNodes changes, pool }
    let first := monitor.check (.failingFor down) fleet
    let second := first.2.1.check (.failingFor down) first.2.2
    Checkup down monitor fleet first.1 first.2.1 first.2.2 ∧
      second.1 = { checked := fleet.units.length } ∧ second.2.1 = first.2.1 ∧
      ∀ unit, second.2.2.get unit = first.2.2.get unit := by
  intro fleet first second
  have hs : fleet.ring.Sound := Ring.sound_ofHistory virtualNodes changes
  have hfirst : Checkup down monitor fleet first.1 first.2.1 first.2.2 :=
    checkup_check hs hnodup down
  have hunits : first.2.2.units = fleet.units := congrArg Ring.units hfirst.ring
  have hsettled : ∀ unit ∈ first.2.2.units,
      first.2.2.pool.isActive unit = first.2.2.passes (.failingFor down) unit := by
    intro unit hunit
    have hmember := hfirst.member unit (hunits ▸ hunit)
    rw [Fleet.passes_failingFor, hmember]
    exact congrArg StorageUnit.active hmember
  have hagain := check_of_settled (hfirst.ring ▸ hs) (Probe.traceless_failingFor down) first.2.1
    hsettled
  rw [hunits] at hagain
  exact ⟨hfirst, hagain⟩

/-- Two units fail, one of which is listed although it was active; an inactive one recovers, where a
user keeps an entry under the key of the self test; and a unit that is listed has left the ring. -/
theorem check_accounts_mixed :
    let changes := [.add ⟨"a", 0⟩, .add ⟨"b", 1⟩, .add ⟨"c", 2⟩, .add ⟨"d", 3⟩]
    let contents := .ofList [(StorageUnit.probeKey, "mine")]
    let unit := fun id active =>
      ({ id, host := "localhost", port := 8000, contents, active, operations := 1 } : StorageUnit)
    let pool := (({} : Pool).set ⟨"a", 0⟩ (unit "a" true) |>.set ⟨"b", 1⟩ (unit "b" false)
      |>.set ⟨"c", 2⟩ (unit "c" true) |>.set ⟨"d", 3⟩ (unit "d" true))
    let fleet : Fleet := { ring := Ring.ofHistory 1 changes, pool }
    let first := check (.failingFor ["d", "c"]) { failed := ["gone", "c", "b"] } fleet
    let second := first.2.1.check (.failingFor ["d", "c"]) first.2.2
    first.1 = { checked := 4, deactivated := ["c", "d"], recovered := ["b"] } ∧
      first.2.1.failed = ["gone", "c", "d"] ∧ first.2.2.get ⟨"b", 1⟩ = unit "b" true ∧
      second.1 = { checked := 4 } ∧ second.2.1.failed = ["gone", "c", "d"] := by
  intro changes contents unit pool fleet first second
  have h : ⟨"b", 1⟩ ∈ fleet.units ∧ fleet.units.length = 4 ∧
      first.1 = { checked := 4, deactivated := ["c", "d"], recovered := ["b"] } := by
    decide +kernel
  obtain ⟨hmember, hcount, hreport⟩ := h
  obtain ⟨hcheckup, hagain, hlist, -⟩ :
      Checkup ["d", "c"] { failed := ["gone", "c", "b"] } fleet first.1 first.2.1 first.2.2 ∧
        second.1 = { checked := fleet.units.length } ∧ second.2.1 = first.2.1 ∧
        ∀ unit, second.2.2.get unit = first.2.2.get unit := by
    -- the outcomes are to be compared by their names, and not evaluated
    with_reducible
      exact check_accounts 1 changes pool ["d", "c"] { failed := ["gone", "c", "b"] } (by decide)
  have hfailed : first.2.1.failed = ["gone", "c", "d"] := by
    rw [hcheckup.failed, hreport]
    decide
  have hbefore : pool.get ⟨"b", 1⟩ = unit "b" false := by
    rw [Pool.get_set_of_ne _ (by decide), Pool.get_set_of_ne _ (by decide), Pool.get_set_self]
  have hafter : first.2.2.get ⟨"b", 1⟩ = unit "b" true := by
    rw [hcheckup.member _ hmember, Fleet.get, hbefore]
    rfl
  refine ⟨hreport, hfailed, hafter, ?_, ?_⟩
  · rw [hagain, hcount]
  · rw [hlist, hfailed]

end Monitor

end QuorumRing
