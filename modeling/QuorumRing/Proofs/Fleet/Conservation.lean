import QuorumRing.Proofs.Fleet.Replication
import QuorumRing.Proofs.Fleet.Verdicts
import QuorumRing.Proofs.Ring.History
import QuorumRing.Proofs.Unit.Gate

/-!
# What a migration conserves and counts

A migration scans the keys of the units while it changes them. What it does to one key has no bearing
on the others, so that its effect on the copies is known key by key (`Fleet.copy_migrate`). Its report
and the numbers of entries are another matter: they sum up over the run. Each key changes them in one
of three ways (`Fleet.size_pull`), and the run adds these changes up (`Fleet.accrual_pullAll`).

After a migration no key has a donor any more, so that a second one finds nothing to do.
-/

namespace QuorumRing.Fleet

variable {fleet fleet' : Fleet} {target unit : UnitRef} {others : List UnitRef} {r : Nat}
  {key : String}

/-- The number of entries stored on the registered units, every copy counted. -/
def entryCount (fleet : Fleet) : Nat := (fleet.units.map fun unit => (fleet.get unit).size).sum

/-! ## The entries of a unit after the migration of one key -/

theorem size_eq_of_copy (h : ∀ j, fleet'.copy unit j = fleet.copy unit j) :
    (fleet'.get unit).size = (fleet.get unit).size := by
  rw [StorageUnit.size, contents_of_copy h, StorageUnit.size]

/-- A unit that takes over a key has one entry more. -/
theorem size_of_copy_insert {value : String} (hlacks : fleet.copy unit key = none)
    (h : ∀ j, fleet'.copy unit j = if j = key then some value else fleet.copy unit j) :
    (fleet'.get unit).size = (fleet.get unit).size + 1 := by
  have hcontents : (fleet'.get unit).contents = (fleet.get unit).contents.insert key value := by
    refine Std.ExtTreeMap.ext_getElem? fun j => ?_
    rw [Std.ExtTreeMap.getElem?_insert]
    have hj := h j
    by_cases hkey : j = key
    · subst hkey
      simpa [copy] using hj
    · simpa [copy, hkey, Ne.symm hkey] using hj
  have habsent : key ∉ (fleet.get unit).contents := by
    rw [Std.ExtTreeMap.mem_iff_isSome_getElem?]
    exact Option.not_isSome_iff_eq_none.2 hlacks
  rw [StorageUnit.size, hcontents, Std.ExtTreeMap.size_insert,
    if_neg (mt Std.ExtTreeMap.contains_iff_mem.1 habsent), StorageUnit.size]

/-- A unit that gives up a key has one entry less. -/
theorem size_of_copy_erase (hholds : (fleet.copy unit key).isSome)
    (h : ∀ j, fleet'.copy unit j = if j = key then none else fleet.copy unit j) :
    (fleet'.get unit).size + 1 = (fleet.get unit).size := by
  have hcontents : (fleet'.get unit).contents = (fleet.get unit).contents.erase key := by
    refine Std.ExtTreeMap.ext_getElem? fun j => ?_
    rw [Std.ExtTreeMap.getElem?_erase]
    have hj := h j
    by_cases hkey : j = key
    · subst hkey
      simpa [copy] using hj
    · simpa [copy, hkey, Ne.symm hkey] using hj
  have hmem : key ∈ (fleet.get unit).contents := Std.ExtTreeMap.mem_iff_isSome_getElem?.2 hholds
  have hpos : 0 < (fleet.get unit).contents.size := by
    rw [Nat.pos_iff_ne_zero]
    intro hzero
    rw [Std.ExtTreeMap.eq_empty_iff_size_eq_zero.2 hzero] at hmem
    exact Std.ExtTreeMap.not_mem_empty hmem
  rw [StorageUnit.size, hcontents, Std.ExtTreeMap.size_erase,
    if_pos (Std.ExtTreeMap.contains_iff_mem.2 hmem), StorageUnit.size]
  omega

/-- A new replica that has a donor does not hold the key yet. -/
theorem copy_target_of_donor {source : UnitRef} {stale : Bool}
    (hactive : fleet.pool.isActive target = true)
    (h : fleet.donor? r target others key = some (source, stale)) :
    fleet.copy target key = none := by
  unfold donor? at h
  split at h
  next hconcerned =>
    have hlacks := (Bool.and_eq_true_iff.1 hconcerned).2
    rw [containsKey_eq, hactive, Bool.true_and, Bool.not_eq_true'] at hlacks
    exact Option.not_isSome_iff_eq_none.1 (by simp [hlacks])
  · simp at h

/-- The new unit gains an entry from a donor, and a stale donor loses it. -/
theorem size_pull (hactive : fleet.pool.isActive target = true) (key : String) (w : UnitRef) :
    ((fleet.pull r target others key).2.get w).size +
        (if fleet.donor? r target others key = some (w, true) then 1 else 0) =
      (fleet.get w).size +
        if w = target ∧ (fleet.donor? r target others key).isSome then 1 else 0 := by
  have hcopy := fun j => copy_pull fleet r target others key w j
  cases hdonor : fleet.donor? r target others key with
  | none => simp [pull_of_no_donor hdonor]
  | some donor =>
    obtain ⟨source, stale⟩ := donor
    obtain ⟨-, -, hholds⟩ := donor?_spec hdonor
    simp only [hdonor, hactive, and_true] at hcopy
    by_cases hw : w = target
    · subst hw
      obtain ⟨value, hvalue⟩ := Option.isSome_iff_exists.1 hholds
      have hne := (ne_of_donor? hdonor).symm
      have hsize := size_of_copy_insert (copy_target_of_donor hactive hdonor) fun j => by
        rw [hcopy j, if_pos rfl, hvalue]
      simp [hsize, hne]
    · by_cases hgives : stale = true ∧ w = source
      · obtain ⟨rfl, rfl⟩ := hgives
        have hsize := size_of_copy_erase hholds fun j => by
          rw [hcopy j, if_neg hw, if_pos (And.intro rfl rfl)]
        simp [hw, hsize]
      · have hsize : ((fleet.pull r target others key).2.get w).size = (fleet.get w).size := by
          refine size_eq_of_copy fun j => ?_
          rw [hcopy j, if_neg hw, if_neg hgives]
          split
          next heq => rw [heq]
          · rfl
        have hother : ¬(source = w ∧ stale = true) := fun h => hgives ⟨h.2, h.1.symm⟩
        simp [hw, hsize, hother]

/-! ## The report and the numbers of entries -/

theorem sum_ite_eq_one {α : Type} [DecidableEq α] {a : α} {l : List α} (hnodup : l.Nodup)
    (hmem : a ∈ l) : (l.map fun b => if b = a then 1 else 0).sum = 1 := by
  have hcount := sum_map_ite (· == a) l
  simp only [beq_iff_eq] at hcount
  rw [hcount]
  exact List.count_eq_one_of_mem hnodup hmem

/-- All units together have one entry more if a copy was made, and as many as before if the donor
gave its own up. -/
theorem entryCount_pull (hs : fleet.ring.Sound) (hactive : fleet.pool.isActive target = true)
    (htarget : target ∈ fleet.units) (hothers : ∀ w ∈ others, w ∈ fleet.units)
    (key : String) : (fleet.pull r target others key).2.entryCount =
      fleet.entryCount + if (fleet.pull r target others key).1 = .copied then 1 else 0 := by
  have hnodup : fleet.units.Nodup := Ring.nodup_of_pairwise (units_pairwise hs)
  have hsizes := List.map_congr_left (l := fleet.units)
    fun w _ => @size_pull fleet target others r hactive key w
  have hsum := congrArg List.sum hsizes
  rw [List.sum_map_add, List.sum_map_add] at hsum
  rw [entryCount, entryCount, (sameShape_pull fleet r target others key).units, pull_fst hactive]
  cases hdonor : fleet.donor? r target others key with
  | none =>
    simp [hdonor] at hsum
    simp [hsum]
  | some donor =>
    obtain ⟨source, stale⟩ := donor
    have hsource := hothers source (donor?_spec hdonor).1
    have hgain := sum_ite_eq_one hnodup htarget
    have hloss := sum_ite_eq_one hnodup hsource
    simp only [hdonor, Option.some.injEq, Prod.mk.injEq, Option.isSome_some, and_true, hgain] at hsum
    cases stale with
    | true =>
      simp only [and_true, eq_comm (a := source), hloss] at hsum
      simp
      omega
    | false =>
      simp at hsum
      simp
      omega

/-- What has come over a fleet and a report since they were as the first ones: the new unit has grown
by what was moved and copied, all units together by what was copied, and nothing has failed. -/
structure Accrual (target : UnitRef) (fleet : Fleet) (report : MigrationReport) (fleet' : Fleet)
    (report' : MigrationReport) : Prop where
  scanned : report'.scanned = report.scanned
  failed : report'.failed = report.failed
  size : (fleet'.get target).size + (report.moved + report.copied) =
    (fleet.get target).size + (report'.moved + report'.copied)
  entryCount : fleet'.entryCount + report.copied = fleet.entryCount + report'.copied

theorem Accrual.trans {a b c : Fleet} {ra rb rc : MigrationReport} (h : Accrual target a ra b rb)
    (h' : Accrual target b rb c rc) : Accrual target a ra c rc := by
  have hsize := h.size
  have hsize' := h'.size
  have hcount := h.entryCount
  have hcount' := h'.entryCount
  refine ⟨h'.scanned.trans h.scanned, h'.failed.trans h.failed, ?_, ?_⟩
  · omega
  · omega

theorem accrual_pull (hs : fleet.ring.Sound) (hactive : fleet.pool.isActive target = true)
    (htarget : target ∈ fleet.units) (hothers : ∀ w ∈ others, w ∈ fleet.units)
    (report : MigrationReport) (key : String) :
    Accrual target fleet report (fleet.pull r target others key).2
      (report.count (fleet.pull r target others key).1) := by
  have hsize := @size_pull fleet target others r hactive key target
  have hcount := entryCount_pull (r := r) hs hactive htarget hothers key
  rw [pull_fst hactive] at hcount ⊢
  cases hdonor : fleet.donor? r target others key with
  | none =>
    simp only [hdonor] at hsize hcount
    refine ⟨rfl, rfl, ?_, ?_⟩
    · simp at hsize
      rw [hsize]
      rfl
    · simp at hcount
      rw [hcount]
      rfl
  | some donor =>
    obtain ⟨source, stale⟩ := donor
    have hne := (ne_of_donor? hdonor).symm
    simp [hdonor, hne] at hsize hcount
    cases stale with
    | true =>
      refine ⟨rfl, rfl, ?_, ?_⟩
      · simp only [if_true, MigrationReport.count]
        omega
      · simp at hcount
        simp only [if_true, MigrationReport.count]
        omega
    | false =>
      refine ⟨rfl, rfl, ?_, ?_⟩
      · simp only [Bool.false_eq_true, if_false, MigrationReport.count]
        omega
      · simp at hcount
        simp only [Bool.false_eq_true, if_false, MigrationReport.count]
        omega

theorem accrual_pullAll (hs : fleet.ring.Sound) (hactive : fleet.pool.isActive target = true)
    (htarget : target ∈ fleet.units) (hothers : ∀ w ∈ others, w ∈ fleet.units)
    (report : MigrationReport) (keys : List String) :
    Accrual target fleet report (fleet.pullAll r target others report keys).2
      (fleet.pullAll r target others report keys).1 := by
  induction keys generalizing fleet report with
  | nil => exact ⟨rfl, rfl, rfl, rfl⟩
  | cons key keys ih =>
    have hfirst := accrual_pull (r := r) hs hactive htarget hothers report key
    have hshape := sameShape_pull fleet r target others key
    refine hfirst.trans (ih ?_ ?_ ?_ ?_ _)
    · rwa [hshape.ring]
    · exact (congrFun hshape.active target).trans hactive
    · rwa [hshape.units]
    · rwa [hshape.units]

/-! ## The scan -/

theorem size_keysOn (fleet : Fleet) (units : List UnitRef) : (fleet.keysOn units).size =
    {key | ∃ unit ∈ units, (fleet.copy unit key).isSome}.ncard := by
  rw [← Std.ExtTreeSet.length_toList]
  refine (ncard_eq_length ?_ fun key => ?_).symm
  · exact Std.ExtTreeSet.distinct_toList.imp Std.ReflCmp.ne_of_cmp_ne_eq
  · rw [Std.ExtTreeSet.mem_toList, mem_keysOn]
    rfl

/-- The report of a migration on which nothing has been counted yet. -/
def scan (fleet : Fleet) (target : UnitRef) : MigrationReport :=
  { id := target.id, scanned := (fleet.keysOn (fleet.others target)).size }

theorem accrual_migrate (hs : fleet.ring.Sound) (htarget : target ∈ fleet.activeUnits) :
    Accrual target fleet (fleet.scan target) (fleet.migrate target r).2
      (fleet.migrate target r).1 := by
  obtain ⟨hmember, hactive⟩ := mem_activeUnits.1 htarget
  exact accrual_pullAll hs hactive hmember (fun w hw => ((mem_others hs hmember).1 hw).1) _ _

/-! ## Donors before and after a migration -/

/-- A donor that gives its copy up is no replica. -/
theorem not_mem_replicas_of_donor (hs : fleet.ring.Sound) (htarget : target ∈ fleet.activeUnits)
    {source : UnitRef}
    (h : fleet.donor? r target (fleet.others target) key = some (source, true)) :
    source ∉ fleet.replicas key r := by
  obtain ⟨hmember, hactive⟩ := mem_activeUnits.1 htarget
  have hlacks := copy_target_of_donor hactive h
  have hmem : target ∈ fleet.replicas key r := by
    by_contra hnot
    rw [donor?_of_not_mem hs hmember hnot] at h
    simp at h
  rw [donor?_of_mem hmem hlacks] at h
  cases hstray : fleet.stray? r (fleet.others target) key with
  | none => simp [hstray] at h
  | some stray =>
    rw [hstray] at h
    obtain ⟨rfl, -⟩ := Prod.mk.inj (Option.some.inj h)
    exact (stray?_spec hs hstray).2.2.2.2

/-- A new replica has a donor if any other active unit holds the key. -/
theorem donor?_isSome (hs : fleet.ring.Sound) (htarget : target ∈ fleet.units)
    (hmem : target ∈ fleet.replicas key r) (hlacks : fleet.copy target key = none)
    (hunit : unit ∈ fleet.activeUnits) (hne : unit ≠ target)
    (hholds : (fleet.copy unit key).isSome) :
    (fleet.donor? r target (fleet.others target) key).isSome := by
  obtain ⟨hmember, hactive⟩ := mem_activeUnits.1 hunit
  rw [donor?_of_mem hmem hlacks]
  cases fleet.stray? r (fleet.others target) key with
  | some stray => rfl
  | none =>
    have hholder : unit ∈ (fleet.others target).filter fun unit =>
        (fleet.get unit).containsKey key := by
      refine List.mem_filter.2 ⟨(mem_others hs htarget).2 ⟨hmember, hne⟩, ?_⟩
      rw [containsKey_eq, hactive, hholds]
      rfl
    rw [Option.isSome_map, List.isSome_head?]
    exact List.ne_nil_of_mem hholder

/-- A migration leaves no key behind that has a donor. -/
theorem donor?_migrate (htarget : target ∈ fleet.activeUnits) (key : String) :
    (fleet.migrate target r).2.donor? r target (fleet.others target) key = none := by
  have hactive := (mem_activeUnits.1 htarget).2
  have hshape := sameShape_migrate fleet target r
  cases hdonor : fleet.donor? r target (fleet.others target) key with
  | none =>
    rw [donor?_congr hshape, hdonor]
    intro w
    rw [copy_migrate, hdonor]
    exact ite_self _
  | some donor =>
    obtain ⟨source, stale⟩ := donor
    refine donor?_of_holds ((congrFun hshape.active target).trans hactive) ?_
    rw [copy_migrate, if_pos hactive, hdonor]
    dsimp only
    rw [if_pos rfl]
    exact (donor?_spec hdonor).2.2

theorem pullAll_of_no_donor {keys : List String}
    (h : ∀ key ∈ keys, fleet.donor? r target others key = none) (report : MigrationReport) :
    fleet.pullAll r target others report keys = (report, fleet) := by
  induction keys with
  | nil => rfl
  | cons key keys ih =>
    obtain ⟨hkey, hkeys⟩ := List.forall_mem_cons.1 h
    rw [pullAll, pull_of_no_donor hkey]
    exact ih hkeys

/-- A second migration finds nothing to do. -/
theorem migrate_again (htarget : target ∈ fleet.activeUnits) :
    (fleet.migrate target r).2.migrate target r =
      ((fleet.migrate target r).2.scan target, (fleet.migrate target r).2) := by
  have hothers : (fleet.migrate target r).2.others target = fleet.others target := by
    rw [others, (sameShape_migrate fleet target r).units, others]
  refine pullAll_of_no_donor (fun key _ => ?_) _
  have hnone := donor?_migrate (r := r) htarget key
  rw [← hothers] at hnone
  exact hnone

/-! ## What a complete migration has done -/

/-- What a complete migration onto a unit has done to a fleet, and what it reports. -/
structure Migrated (fleet : Fleet) (r : Nat) (target : UnitRef) (report : MigrationReport)
    (after : Fleet) : Prop where
  shape : SameShape fleet after
  /-- The unit holds every key that it is a replica of and that another active unit held. -/
  covers : ∀ key, target ∈ fleet.replicas key r → ∀ unit ∈ fleet.activeUnits, unit ≠ target →
    (fleet.copy unit key).isSome → (after.copy target key).isSome
  keeps : ∀ key value, fleet.copy target key = some value → after.copy target key = some value
  gains : ∀ key value, fleet.copy target key = none → after.copy target key = some value →
    ∃ unit ∈ fleet.activeUnits, unit ≠ target ∧ fleet.copy unit key = some value
  /-- At most one of the other copies of a key is gone, and it was none of a replica. -/
  spares : ∀ key, ∃ gone : Option UnitRef,
    (∀ unit ∈ gone, unit ∈ fleet.activeUnits ∧ unit ≠ target ∧ unit ∉ fleet.replicas key r) ∧
    ∀ unit, unit ≠ target →
      after.copy unit key = if unit ∈ gone then none else fleet.copy unit key
  scanned : report.scanned =
    {key | ∃ unit ∈ fleet.units, unit ≠ target ∧ (fleet.copy unit key).isSome}.ncard
  failed : report.failed = 0
  size : (after.get target).size = (fleet.get target).size + (report.moved + report.copied)
  entryCount : after.entryCount = fleet.entryCount + report.copied

theorem migrated_migrate (hs : fleet.ring.Sound) (htarget : target ∈ fleet.activeUnits) (r : Nat) :
    Migrated fleet r target (fleet.migrate target r).1 (fleet.migrate target r).2 := by
  obtain ⟨hmember, hactive⟩ := mem_activeUnits.1 htarget
  have haccrual := accrual_migrate (r := r) hs htarget
  have hsize := haccrual.size
  have hcount := haccrual.entryCount
  simp only [scan] at hsize hcount
  have hcopy := copy_migrate fleet r target
  simp only [hactive, if_true] at hcopy
  constructor
  case shape => exact sameShape_migrate fleet target r
  case covers =>
    intro key hmem unit hunit hne hholds
    rw [hcopy]
    cases hlacks : fleet.copy target key with
    | some value => simp [donor?_of_holds hactive (Option.isSome_of_eq_some hlacks)]
    | none =>
      have hdonor := donor?_isSome hs hmember hmem hlacks hunit hne hholds
      obtain ⟨⟨source, stale⟩, hdonor⟩ := Option.isSome_iff_exists.1 hdonor
      rw [hdonor]
      dsimp only
      rw [if_pos rfl]
      exact (donor?_spec hdonor).2.2
  case keeps =>
    intro key value hvalue
    rw [hcopy, donor?_of_holds hactive (Option.isSome_of_eq_some hvalue), hvalue]
  case gains =>
    intro key value hlacks hvalue
    rw [hcopy] at hvalue
    cases hdonor : fleet.donor? r target (fleet.others target) key with
    | none => simp [hdonor, hlacks] at hvalue
    | some donor =>
      obtain ⟨source, stale⟩ := donor
      simp only [hdonor, if_true] at hvalue
      obtain ⟨hother, hsource, -⟩ := donor?_spec hdonor
      obtain ⟨hunit, hne⟩ := (mem_others hs hmember).1 hother
      exact ⟨source, mem_activeUnits.2 ⟨hunit, hsource⟩, hne, hvalue⟩
  case spares =>
    intro key
    by_cases hgone : ∃ source,
        fleet.donor? r target (fleet.others target) key = some (source, true)
    · obtain ⟨source, hdonor⟩ := hgone
      obtain ⟨hother, hsource, -⟩ := donor?_spec hdonor
      obtain ⟨hunit, hne⟩ := (mem_others hs hmember).1 hother
      refine ⟨some source, fun unit hmem => ?_, fun unit hother => ?_⟩
      · obtain rfl := Option.some.inj hmem
        exact ⟨mem_activeUnits.2 ⟨hunit, hsource⟩, hne, not_mem_replicas_of_donor hs htarget hdonor⟩
      · rw [hcopy, hdonor]
        simp [hother, eq_comm]
    · refine ⟨none, by simp, fun unit hother => ?_⟩
      rw [hcopy]
      cases hdonor : fleet.donor? r target (fleet.others target) key with
      | none => simp
      | some donor =>
        obtain ⟨source, stale⟩ := donor
        have hstale : stale = false := by
          rw [← Bool.not_eq_true]
          rintro rfl
          exact hgone ⟨source, hdonor⟩
        simp [hother, hstale]
  case scanned =>
    rw [haccrual.scanned, scan, size_keysOn]
    simp only [mem_others hs hmember, and_assoc]
  case failed => exact haccrual.failed
  case size => omega
  case entryCount => omega

/-- After every history of a ring, with any units alive and any contents, a migration onto an active
member covers the keys of that unit, conserves all other entries, and reports what it has done. A
second one does nothing. -/
theorem migrate_conserves (virtualNodes : Nat) (changes : List Ring.Change) (pool : Pool) (r : Nat)
    (target : UnitRef)
    (htarget : target ∈
      Fleet.activeUnits { ring := Ring.ofHistory virtualNodes changes, pool }) :
    let fleet : Fleet := { ring := Ring.ofHistory virtualNodes changes, pool }
    let first := fleet.migrate target r
    let second := first.2.migrate target r
    Migrated fleet r target first.1 first.2 ∧
      second.1.moved = 0 ∧ second.1.copied = 0 ∧ second.2 = first.2 := by
  intro fleet first second
  have hagain : second = (first.2.scan target, first.2) := migrate_again htarget
  refine ⟨migrated_migrate (Ring.sound_ofHistory virtualNodes changes) htarget r, ?_, ?_, ?_⟩
  · rw [hagain, scan]
  · rw [hagain, scan]
  · rw [hagain]

/-- A key comes from a unit that is no replica, one from a replica, one is there already with another
value, and one is held by an inactive unit only. -/
theorem migrate_conserves_mixed :
    let changes := [.add ⟨"a", 0⟩, .add ⟨"b", 1⟩, .add ⟨"c", 2⟩, .add ⟨"d", 3⟩]
    let unit := fun id entries active =>
      ({ id, host := "localhost", port := 8000, contents := .ofList entries, active } : StorageUnit)
    let pool := (({} : Pool).set ⟨"a", 0⟩ (unit "a" [("x", "old"), ("z", "old")] true)
      |>.set ⟨"b", 1⟩ (unit "b" [("x", "new"), ("v", "new")] true)
      |>.set ⟨"c", 2⟩ (unit "c" [("z", "new")] true)
      |>.set ⟨"d", 3⟩ (unit "d" [("y", "old")] false))
    let fleet : Fleet := { ring := Ring.ofHistory 1 changes, pool }
    let first := fleet.migrate ⟨"c", 2⟩ 2
    fleet.entryCount = 6 ∧
      first.1 = { id := "c", scanned := 4, moved := 1, copied := 1 } ∧
      (first.2.get ⟨"c", 2⟩).size = 3 ∧ first.2.entryCount = 7 ∧
      (first.2.migrate ⟨"c", 2⟩ 2).2 = first.2 := by
  intro changes unit pool fleet first
  have h : (⟨"c", 2⟩ : UnitRef) ∈ fleet.activeUnits ∧ (fleet.get ⟨"c", 2⟩).size = 1 ∧
      fleet.entryCount = 6 ∧ first.1 = { id := "c", scanned := 4, moved := 1, copied := 1 } := by
    decide +kernel
  obtain ⟨htarget, hheld, hcount, hreport⟩ := h
  have hmain := migrate_conserves 1 changes pool 2 ⟨"c", 2⟩ htarget
  have hmigrated : Migrated fleet 2 ⟨"c", 2⟩ first.1 first.2 := hmain.1
  have hagain : (first.2.migrate ⟨"c", 2⟩ 2).2 = first.2 := hmain.2.2.2
  have hsize := hmigrated.size
  have hcount' := hmigrated.entryCount
  rw [hheld, hreport] at hsize
  rw [hcount, hreport] at hcount'
  exact ⟨hcount, hreport, hsize, hcount', hagain⟩

end QuorumRing.Fleet
