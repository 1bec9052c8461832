import QuorumRing.CommandLine.Commands
import QuorumRing.Proofs.Cluster.Accounting
import QuorumRing.Proofs.Cluster.Enrolment
import QuorumRing.Proofs.Simulation.Turns
import QuorumRing.Proofs.Text.Numerals

/-!
# One more unit after a load

The unit that a simulation admits after its load is named after the number of units there will be. The
name is free among generated units, which are numbered from one, but the units that settings name may
have any ids. Where one of them has that very id, the new unit is refused, nobody takes notice, and the
report is the one of a simulation that was not asked to grow.
-/

namespace QuorumRing

variable {ids : List String} {c c' : Cluster}

/-- The registered units have these ids, each one of them, and have been counted. -/
structure Cluster.Staffed (ids : List String) (c : Cluster) : Prop where
  members : ∀ id, id ∈ c.fleet.ring.members ↔ id ∈ ids
  size : c.fleet.units.length = ids.length
  counted : c.metrics.nodesAdded = ids.length

namespace Cluster.Staffed

theorem of_sameMembers (h : Staffed ids c) (hmembers : Fleet.SameMembers c.fleet c'.fleet)
    (hcounted : c'.metrics.nodesAdded = c.metrics.nodesAdded) : Staffed ids c' where
  members id := by rw [hmembers.ring, h.members]
  size := by rw [hmembers.units, h.size]
  counted := hcounted.trans h.counted

theorem drain (h : Staffed ids c) : Staffed ids c.drain :=
  h.of_sameMembers (work_drain fun task _ => task.fits_all c.fleet).sameMembers
    (congrArg Counters.nodesAdded (counters_drain c))

theorem put (h : Staffed ids c) (key value : String) : Staffed ids (c.put key value).2 := by
  have hwork : Fleet.Work _ c.fleet (c.put key value).2.fleet :=
    work_put (fun task _ => task.fits_all c.fleet) trivial
  exact h.of_sameMembers hwork.sameMembers (congrArg Counters.nodesAdded (counters_put c key value))

theorem write (h : Staffed ids c) (target : UnitRef) (key value : String) :
    Staffed ids (c.write target key value).2 := by
  obtain ⟨m, hwrite⟩ := write_snd c target key value
  have hcounters := congrArg Counters.nodesAdded (counters_write c target key value)
  refine h.of_sameMembers ?_ hcounters
  rw [hwrite]
  exact Fleet.sameMembers_attempt (·.put key value) c.fleet target

theorem of_enrolled {units : List UnitSpec} (h : Enrolled units c)
    (hnodup : (units.map UnitSpec.id).Nodup) : Staffed (units.map UnitSpec.id) c := by
  have hlength := h.ids_perm.length_eq
  rw [hnodup.dedup, List.length_map] at hlength
  exact ⟨fun _ => h.mem_members_iff, hlength, h.counted.trans hlength⟩

theorem bootstrap {settings : Settings} (hvalid : settings.validate = .ok ()) :
    Staffed (settings.initialUnits.map UnitSpec.id) (Cluster.bootstrap settings).drain := by
  obtain ⟨-, -, -, hnodup⟩ := Settings.of_validate hvalid
  exact (of_enrolled (enrolled_bootstrap settings) hnodup).drain

theorem addNode (h : Staffed ids c) {id : String} (hfree : id ∉ ids) (host : String)
    (port : UInt16) : Staffed (id :: ids) (c.addNode id host port).2 := by
  have haccepted : (c.addNode id host port).1 = true := by
    have hnot : ¬ c.fleet.ring.contains id = true := mt (h.members id).1 hfree
    rw [addNode_fst]
    simpa using hnot
  obtain ⟨unit, fleet, hadded, hfleet⟩ := fleet_addNode_of_accepted haccepted
  obtain ⟨rfl, hadmission⟩ := Fleet.admission_of_add? hadded
  have hmetrics := metrics_addNode c unit.id host port
  rw [haccepted, cond_true] at hmetrics
  constructor
  case members =>
    intro other
    rw [hfleet, Ring.mem_members_insert? hadmission.inserted, h.members, List.mem_cons]
  case size =>
    rw [hfleet, List.length_cons, ← h.size]
    exact Ring.length_units_insert? hadmission.inserted
  case counted =>
    rw [hmetrics, List.length_cons, ← h.counted]
    rfl

end Cluster.Staffed

open Cluster (Staffed)
open CommandLine (Command)

namespace Simulation

/-- The name of the next unit, counted from one. -/
def nextId (ids : List String) : String := "node" ++ toString (ids.length + 1)

theorem growOne_of_taken (h : Staffed ids c) (htaken : nextId ids ∈ ids) : growOne c = c.drain := by
  have hrefused : (c.addNode (nextId ids) "localhost" 9000).1 = false := by
    have hcontains : c.fleet.ring.contains (nextId ids) = true := (h.members _).2 htaken
    rw [Cluster.addNode_fst, hcontains]
    rfl
  rw [growOne, h.size]
  exact congrArg Cluster.drain (Cluster.addNode_of_refused hrefused)

theorem staffed_growOne (h : Staffed ids c) (hfree : nextId ids ∉ ids) :
    Staffed (nextId ids :: ids) (growOne c) := by
  rw [growOne, h.size]
  exact (h.addNode hfree "localhost" 9000).drain

/-- There is one unit more, and one admission, unless the name is taken. -/
theorem totals_growOne (h : Staffed ids c) :
    let total := ids.length + if nextId ids ∈ ids then 0 else 1
    (growOne c).status.totalUnits = total ∧ (growOne c).metrics.nodesAdded = total := by
  intro total
  by_cases htaken : nextId ids ∈ ids
  · have htotal : total = ids.length := by simp only [total, if_pos htaken, Nat.add_zero]
    rw [growOne_of_taken h htaken, htotal]
    exact ⟨h.drain.size, h.drain.counted⟩
  · have htotal : total = ids.length + 1 := by simp only [total, if_neg htaken]
    rw [htotal]
    exact ⟨(staffed_growOne h htaken).size, (staffed_growOne h htaken).counted⟩

theorem staffed_storeAll (h : Staffed ids c) (numbers : List Nat) :
    Staffed ids (storeAll c numbers).2 := by
  have hfold : ∀ (numbers : List Nat) (s : Nat × Cluster), Staffed ids s.2 →
      Staffed ids (numbers.foldl (fun s i => storeOne s.1 s.2 i) s).2 := by
    intro numbers
    induction numbers with
    | nil => exact fun _ h => h
    | cons i numbers ih => exact fun s h => ih _ (h.put (keyOf i) (valueOf i))
  exact hfold numbers (0, c) h

end Simulation

/-! ## Writers that run at the same time -/

namespace Load

variable {l : Load}

theorem staffed_settle (h : Staffed ids l.cluster) (writer : Nat) (rest : List Nat) (success : Bool) :
    Staffed ids (l.settle writer rest success).cluster := by
  cases success with
  | true => exact { h with }
  | false => exact { h with }

theorem staffed_run (h : Staffed ids l.cluster) (i : Nat) (target : UnitRef) :
    Staffed ids (l.act i (.run target)).cluster := by
  cases hsome : l.writings i with
  | none => rwa [act_of_no_writing hsome]
  | some w =>
    rw [act_of_writing hsome]
    cases hrunning : w.isRunning target with
    | true =>
      rw [Writing.step_run_of_running hrunning]
      exact h.write target w.key w.value
    | false =>
      rw [Writing.step_run_of_not_running hrunning]
      exact h

theorem staffed_hear (h : Staffed ids l.cluster) (i : Nat) (target : UnitRef) :
    Staffed ids (l.act i (.hear target)).cluster := by
  cases hsome : l.writings i with
  | none => rwa [act_of_no_writing hsome]
  | some w =>
    rw [act_of_writing hsome]
    exact h

theorem staffed_step (h : Staffed ids l.cluster) (move : Move) :
    Staffed ids (l.step move).cluster := by
  cases move with
  | run i target => exact staffed_run h i target
  | hear i target => exact staffed_hear h i target
  | start writer =>
    cases htodo : l.todo writer with
    | nil => simpa only [step, htodo] using h
    | cons i rest =>
      simp only [step, htodo]
      split_ifs
      · exact h
      · exact staffed_settle h writer rest false
      · exact h
  | finish writer =>
    cases htodo : l.todo writer with
    | nil => simpa only [step, htodo] using h
    | cons i rest =>
      cases hsome : l.writings i with
      | none => simpa only [step, htodo, hsome] using h
      | some w =>
        simp only [step, htodo, hsome]
        split_ifs
        · exact h
        · exact staffed_settle h writer rest w.verdict.isOk

theorem staffed_play (h : Staffed ids l.cluster) (moves : List Move) :
    Staffed ids (l.play moves).cluster := by
  induction moves generalizing l with
  | nil => exact h
  | cons move moves ih => exact ih (staffed_step h move)

end Load

/-! ## Simulations -/

theorem Cluster.totalUnits_status (c : Cluster) :
    c.status.totalUnits = c.fleet.units.length :=
  rfl

namespace Simulation

variable {simulation : Simulation} {settings : Settings}

/-- The cluster of a simulation after the load. -/
def loaded (simulation : Simulation) (settings : Settings) : Cluster :=
  (storeAll (Cluster.bootstrap settings).drain simulation.schedule).2.drain

theorem staffed_loaded (simulation : Simulation) (hvalid : settings.validate = .ok ()) :
    Staffed (settings.initialUnits.map UnitSpec.id) (simulation.loaded settings) :=
  (staffed_storeAll (Staffed.bootstrap hvalid) simulation.schedule).drain

theorem drain_loaded (simulation : Simulation) (settings : Settings) :
    (simulation.loaded settings).drain = simulation.loaded settings :=
  Cluster.drain_of_queue_eq_nil (Cluster.queue_drain _)

/-- Generated units leave the next number free. -/
theorem nextId_notMem_generated (simulation : Simulation) (hnone : settings.initialUnits = []) :
    let ids := (simulation.populate settings).initialUnits.map UnitSpec.id
    nextId ids ∉ ids := by
  intro ids hmem
  have hids : ids = (List.range simulation.units).map fun i => "node" ++ toString (i + 1) := by
    simp only [ids, populate, hnone, List.isEmpty_nil, if_true, List.map_map]
    rfl
  have hlength : ids.length = simulation.units := by rw [hids, List.length_map, List.length_range]
  rw [nextId, hlength, hids, List.mem_map] at hmem
  obtain ⟨i, hi, hid⟩ := hmem
  have hsame := append_decimal_inj.1 hid
  rw [List.mem_range] at hi
  omega

/-- A simulation reports of the cluster after its load, which may have grown since. -/
theorem run_eq (simulation : Simulation) (settings : Settings) :
    let c := if simulation.grow then growOne (simulation.loaded settings)
      else simulation.loaded settings
    simulation.run settings =
      { failedWrites := (storeAll (Cluster.bootstrap settings).drain simulation.schedule).1
        primaryOwnership := (c.fleet.ring.keyDistribution c.fleet.pool.isActive 10000).toList
        status := c.status
        metrics := c.metrics } :=
  rfl

/-- It makes no difference to the load whether the cluster grows behind it. -/
theorem loaded_grow (simulation : Simulation) (grow : Bool) (settings : Settings) :
    loaded { simulation with grow } settings = simulation.loaded settings :=
  rfl

theorem run_plain (simulation : Simulation) (settings : Settings) :
    (run { simulation with grow := false } settings).status =
        (simulation.loaded settings).status ∧
      (run { simulation with grow := false } settings).metrics =
        (simulation.loaded settings).metrics := by
  simp only [run_eq, loaded_grow, Bool.false_eq_true, if_false, and_self]

theorem run_grown (simulation : Simulation) (settings : Settings) :
    (run { simulation with grow := true } settings).status =
        (growOne (simulation.loaded settings)).status ∧
      (run { simulation with grow := true } settings).metrics =
        (growOne (simulation.loaded settings)).metrics := by
  simp only [run_eq, loaded_grow, if_true, and_self]

theorem totals_run (simulation : Simulation) (hvalid : settings.validate = .ok ()) :
    (run { simulation with grow := false } settings).status.totalUnits =
        settings.initialUnits.length ∧
      (run { simulation with grow := false } settings).metrics.nodesAdded =
        settings.initialUnits.length := by
  have hloaded := staffed_loaded simulation hvalid
  have hlength : (settings.initialUnits.map UnitSpec.id).length = settings.initialUnits.length :=
    List.length_map _
  obtain ⟨hstatus, hmetrics⟩ := run_plain simulation settings
  rw [hstatus, hmetrics, ← hlength]
  exact ⟨hloaded.size, hloaded.counted⟩

theorem run_of_taken (hvalid : settings.validate = .ok ())
    (htaken : nextId (settings.initialUnits.map UnitSpec.id) ∈
      settings.initialUnits.map UnitSpec.id) :
    run { simulation with grow := true } settings =
      run { simulation with grow := false } settings := by
  have hgrow : growOne (simulation.loaded settings) = simulation.loaded settings := by
    rw [growOne_of_taken (staffed_loaded simulation hvalid) htaken, drain_loaded]
  rw [run_eq, run_eq]
  simp only [loaded_grow, hgrow, if_true, Bool.false_eq_true, if_false]
  rfl

/-- Settings that pass once they are populated are those that the simulation runs with. -/
theorem run_simulate (hvalid : (simulation.populate settings).validate = .ok ()) :
    (Command.simulate simulation).run settings =
      .ok (.report (simulation.run (simulation.populate settings))) := by
  simp only [Command.run, hvalid]
  rfl

/-- Where the id is taken it makes no difference whether a simulation is asked to grow. -/
theorem exists_report_of_taken (simulation : Simulation)
    (hvalid : (simulation.populate settings).validate = .ok ())
    (htaken : nextId ((simulation.populate settings).initialUnits.map UnitSpec.id) ∈
      (simulation.populate settings).initialUnits.map UnitSpec.id) :
    ∃ report,
      (Command.simulate { simulation with grow := false }).run settings = .ok (.report report) ∧
      (Command.simulate { simulation with grow := true }).run settings = .ok (.report report) ∧
      report.status.totalUnits = (simulation.populate settings).initialUnits.length ∧
      report.metrics.nodesAdded = (simulation.populate settings).initialUnits.length := by
  obtain ⟨hunits, hadded⟩ := totals_run simulation hvalid
  refine ⟨run { simulation with grow := false } (simulation.populate settings), run_simulate hvalid,
    ?_, hunits, hadded⟩
  rw [← run_of_taken hvalid htaken]
  exact run_simulate hvalid

/-- A simulation that is asked to grow reports one unit and one admission more than it would report
otherwise if the id `node` with the new number of units is free, which it is among generated units. Where
it is taken the two reports are the same. It makes no difference which course the writers take. -/
theorem grow_unless_taken (simulation : Simulation) (settings : Settings)
    (hvalid : (simulation.populate settings).validate = .ok ()) :
    let populated := simulation.populate settings
    let ids := populated.initialUnits.map UnitSpec.id
    let more := if nextId ids ∈ ids then 0 else 1
    ∃ plain grown,
      (Command.simulate { simulation with grow := false }).run settings = .ok (.report plain) ∧
      (Command.simulate { simulation with grow := true }).run settings = .ok (.report grown) ∧
      plain.status.totalUnits = ids.length ∧ plain.metrics.nodesAdded = ids.length ∧
      grown.status.totalUnits = plain.status.totalUnits + more ∧
      grown.metrics.nodesAdded = plain.metrics.nodesAdded + more ∧
      (nextId ids ∈ ids → grown = plain) ∧ (settings.initialUnits = [] → nextId ids ∉ ids) ∧
      ∀ (writers : Nat) (moves : List Load.Move),
        let c := ((Load.start populated simulation.keys writers).play moves).cluster.drain
        c.status.totalUnits = plain.status.totalUnits ∧
        c.metrics.nodesAdded = plain.metrics.nodesAdded ∧
        (growOne c).status.totalUnits = grown.status.totalUnits ∧
        (growOne c).metrics.nodesAdded = grown.metrics.nodesAdded := by
  intro populated ids more
  have hloaded : Staffed ids (simulation.loaded populated) := staffed_loaded simulation hvalid
  obtain ⟨hunits, hadded⟩ : (growOne (simulation.loaded populated)).status.totalUnits =
      ids.length + more ∧ (growOne (simulation.loaded populated)).metrics.nodesAdded =
      ids.length + more := totals_growOne hloaded
  obtain ⟨hplain, hplain'⟩ := run_plain simulation populated
  obtain ⟨hgrown, hgrown'⟩ := run_grown simulation populated
  refine ⟨run { simulation with grow := false } populated,
    run { simulation with grow := true } populated, run_simulate hvalid, run_simulate hvalid, ?_⟩
  rw [hplain, hplain', hgrown, hgrown', hunits, hadded, Cluster.totalUnits_status, hloaded.size,
    hloaded.counted]
  refine ⟨rfl, rfl, rfl, rfl, fun htaken => run_of_taken hvalid htaken,
    nextId_notMem_generated simulation, fun writers moves => ?_⟩
  intro c
  have hcourse : Staffed ids c :=
    (Load.staffed_play (l := Load.start populated simulation.keys writers)
      (Staffed.bootstrap hvalid) moves).drain
  obtain ⟨hunits', hadded'⟩ : (growOne c).status.totalUnits = ids.length + more ∧
      (growOne c).metrics.nodesAdded = ids.length + more := totals_growOne hcourse
  rw [hunits', hadded', Cluster.totalUnits_status, hcourse.size, hcourse.counted]
  exact ⟨rfl, rfl, rfl, rfl⟩

/-- Two units, neither of which has the id of a third one. -/
theorem grow_unless_taken_two :
    let settings : Settings :=
      { initialUnits :=
          [{ id := "node2", host := "localhost", port := 7002 },
            { id := "node4", host := "localhost", port := 7004 }] }
    settings.validate = .ok () ∧ ∃ plain grown,
      (Command.simulate {}).run settings = .ok (.report plain) ∧
      (Command.simulate { grow := true }).run settings = .ok (.report grown) ∧
      plain.status.totalUnits = 2 ∧ grown.status.totalUnits = 3 ∧ grown.metrics.nodesAdded = 3 := by
  intro settings
  have hvalid : settings.validate = .ok () := by decide
  have hfree : nextId (settings.initialUnits.map UnitSpec.id) ∉
      settings.initialUnits.map UnitSpec.id := by decide
  obtain ⟨plain, grown, hplain, hgrown, hunits, hadded, hmore, hmore', -⟩ :=
    grow_unless_taken {} settings hvalid
  refine ⟨hvalid, plain, grown, hplain, hgrown, hunits, ?_, ?_⟩
  · rw [hmore, hunits]
    exact congrArg (2 + ·) (if_neg hfree)
  · rw [hmore', hadded]
    exact congrArg (2 + ·) (if_neg hfree)

/-- A single unit whose id is the one of a second unit: there is no second unit. -/
theorem not_grow_of_taken :
    let settings : Settings :=
      { initialUnits := [{ id := "node2", host := "localhost", port := 7002 }] }
    settings.validate = .ok () ∧ ∃ report,
      (Command.simulate {}).run settings = .ok (.report report) ∧
      (Command.simulate { grow := true }).run settings = .ok (.report report) ∧
      report.status.totalUnits = 1 ∧ report.metrics.nodesAdded = 1 := by
  intro settings
  have hvalid : settings.validate = .ok () := by decide
  have htaken : nextId (settings.initialUnits.map UnitSpec.id) ∈
      settings.initialUnits.map UnitSpec.id := by decide
  exact ⟨hvalid, exists_report_of_taken {} hvalid htaken⟩

end Simulation

end QuorumRing
