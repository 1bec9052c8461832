import QuorumRing.Proofs.Simulation.Completion

/-!
# Writers that take turns

The writers of a simulation go one after the other, and each of its puts runs all tasks before the
first wait. This is one of the courses that a load can take (`Load.Steady.exists_course`), so that
the simulation reports what all of them do.
-/

namespace QuorumRing

open Simulation

/-- A put of a cluster without other work writes to all replicas, and the write is counted. -/
theorem Cluster.put_of_idle {c : Cluster} {key : String} (hopen : c.closed = false)
    (htime : 0 < c.writeTimeout) (hidle : c.queue = []) (hne : c.replicas key ≠ [])
    (hactive : ∀ unit ∈ c.replicas key, c.fleet.pool.isActive unit = true) (value : String) :
    c.put key value =
      (.ok (), (c.writeAll key value (c.replicas key)).2.record (·.recordWrite {})) := by
  have hjudge : Quorum.judge (c.replicas key).length (c.writeAll key value (c.replicas key)).1 =
      .ok (Quorum.needed (c.replicas key).length) := by
    rw [writeAll_fst key value hactive, judge_acknowledged (List.length_pos_iff.2 hne)]
  have hquorum : c.writeQuorum key value (c.replicas key) =
      (.ok (Quorum.needed (c.replicas key).length),
        (c.writeAll key value (c.replicas key)).2) := by
    rw [writeQuorum, fanOut, if_neg (by simp [hopen]), if_neg (by omega),
      round_of_queue_eq_nil hidle]
    dsimp only
    rw [hjudge]
  rw [put, store, if_neg (by simpa using hne), hquorum]

/-- If all tasks run before the first wait, the write to active units succeeds. -/
theorem Writing.play_promptly {c : Cluster} {targets : List UnitRef} (key value : String)
    (hnodup : targets.Nodup) (hne : targets ≠ [])
    (hactive : ∀ target ∈ targets, c.fleet.pool.isActive target = true) :
    let s := play ({ key, value, targets }, c) (targets.map .run ++ targets.map .hear)
    s.1.isWaiting = false ∧ (∀ target, s.1.isRunning target = false) ∧
      s.1.verdict.isOk = true ∧ s.2 = (c.writeAll key value targets).2 := by
  let start : Writing := { key, value, targets }
  have hrunning : ∀ target ∈ targets, start.isRunning target = true := fun target htarget =>
    isRunning_iff.2 ⟨htarget, List.not_mem_nil⟩
  have hlength := Cluster.length_writeAll c key value targets
  have hended : (targets.zip (c.writeAll key value targets).1).map Prod.fst = targets :=
    List.map_fst_zip (by rw [hlength])
  have hwaits : (targets.zip (c.writeAll key value targets).1).map Prod.snd =
      List.replicate targets.length .acknowledged := by
    rw [List.map_snd_zip (by rw [hlength]), Cluster.writeAll_fst key value hactive]
  have hjudge := Cluster.judge_acknowledged (List.length_pos_iff.2 hne)
  rw [← hwaits] at hjudge
  obtain ⟨hwaiting, hquiet, hverdict, hcluster⟩ :=
    play_hear_outcomes (play_run_all hnodup hrunning c) rfl hended hnodup
  intro s
  have hok : s.1.verdict = .ok (Quorum.needed targets.length) := hverdict.trans hjudge
  exact ⟨hwaiting, hquiet, hok ▸ rfl, hcluster⟩

/-- The first element of lists that follow one another is the first one of one of them. -/
theorem Simulation.exists_first {f : Nat → List Nat} {writers numbers : List Nat} {i : Nat}
    (hnodup : writers.Nodup) (h : writers.flatMap f = i :: numbers) :
    ∃ writer rest, f writer = i :: rest ∧
      writers.flatMap (Function.update f writer rest) = numbers := by
  induction writers with
  | nil => cases h
  | cons writer writers ih =>
    obtain ⟨hfresh, hnodup⟩ := List.nodup_cons.1 hnodup
    rw [List.flatMap_cons] at h
    cases hfirst : f writer with
    | nil =>
      rw [hfirst, List.nil_append] at h
      obtain ⟨other, rest, hother, hrest⟩ := ih hnodup h
      have hne : writer ≠ other := by
        rintro rfl
        rw [hfirst] at hother
        cases hother
      refine ⟨other, rest, hother, ?_⟩
      rw [List.flatMap_cons, Function.update_of_ne hne, hfirst, hrest, List.nil_append]
    | cons j rest =>
      rw [hfirst, List.cons_append] at h
      obtain ⟨rfl, hrest⟩ := List.cons.inj h
      refine ⟨writer, rest, hfirst, ?_⟩
      rw [List.flatMap_cons, Function.update_self, ← hrest]
      refine congrArg (rest ++ ·) (List.flatMap_congr fun other hother => ?_)
      have hne : other ≠ writer := fun heq => hfresh (heq ▸ hother)
      rw [Function.update_of_ne hne]

namespace Load

variable {ids : List String} {known : Std.ExtTreeSet String} {c : Cluster} {l : Load}
  {keys writers writer i : Nat} {rest : List Nat} {w : Writing}

/-- Moves of one write are a course of that write. -/
theorem play_act (hsome : l.writings i = some w) {lift : UnitRef → Move}
    {move : UnitRef → Writing.Move}
    (hlift : ∀ (l : Load) (target : UnitRef), l.step (lift target) = l.act i (move target))
    (targets : List UnitRef) : l.play (targets.map lift) =
      { l with
        cluster := (Writing.play (w, l.cluster) (targets.map move)).2
        writings := Function.update l.writings i
          (some (Writing.play (w, l.cluster) (targets.map move)).1) } := by
  induction targets generalizing l w with
  | nil =>
    have hsame : Function.update l.writings i (some w) = l.writings :=
      Function.update_eq_self_iff.2 hsome.symm
    show l = { l with writings := Function.update l.writings i (some w) }
    rw [hsame]
  | cons target targets ih =>
    have hfirst := (hlift l target).trans (act_of_writing hsome (move target))
    have hnext : (l.step (lift target)).writings i =
        some (Writing.step (w, l.cluster) (move target)).1 := by
      rw [hfirst]
      exact Function.update_self _ _ _
    refine (ih hnext).trans ?_
    rw [hfirst]
    dsimp only
    rw [Function.update_idem]
    rfl

namespace Steady

variable (h : Steady c keys writers l) (hm : Mirrors ids c { ids := known })
  (hne : ∀ key, c.replicas key ≠ [])
include h hm hne

/-- A put succeeds throughout a load, and it writes to all replicas. -/
theorem put_eq (key value : String) : l.cluster.put key value =
    (.ok (), (l.cluster.writeAll key value (l.cluster.replicas key)).2.record
      (·.recordWrite {})) := by
  obtain ⟨fleet, metrics, hcluster⟩ := h.cluster
  have hopen : l.cluster.closed = false := hcluster ▸ hm.opened
  have htime : 0 < l.cluster.writeTimeout := hcluster ▸ hm.timed
  have hidle : l.cluster.queue = [] := hcluster ▸ hm.idle
  exact Cluster.put_of_idle hopen htime hidle (h.replicas key ▸ hne key)
    (fun _ hunit => h.isActive_of_mem_replicas hm.ring.sound hunit) value

/-- A writer may store its next key while nobody else does anything. It is a put. -/
theorem exists_put (htodo : l.todo writer = i :: rest) (hnone : l.writings i = none) :
    ∃ moves w, (∀ target, w.isRunning target = false) ∧ l.play moves =
      { l with
        cluster := (l.cluster.put (keyOf i) (valueOf i)).2
        todo := Function.update l.todo writer rest
        writings := Function.update l.writings i (some w) } := by
  have hsome : l.cluster.replicas (keyOf i) ≠ [] := h.replicas (keyOf i) ▸ hne (keyOf i)
  have hnodup : (l.cluster.replicas (keyOf i)).Nodup :=
    h.replicas (keyOf i) ▸ Fleet.nodup_replicas hm.ring.sound _ _
  let targets := l.cluster.replicas (keyOf i)
  let start : Writing := { key := keyOf i, value := valueOf i, targets }
  let begun : Load := { l with writings := Function.update l.writings i (some start) }
  obtain ⟨hwaiting, hquiet, hok, hcluster⟩ := Writing.play_promptly (keyOf i) (valueOf i) hnodup
    hsome fun _ hunit => h.isActive_of_mem_replicas hm.ring.sound hunit
  -- all tasks run, and then the writer hears of them
  let s := Writing.play (start, l.cluster) (targets.map .run ++ targets.map .hear)
  have hbegun : begun.writings i = some start := Function.update_self _ _ _
  have hplay : begun.play (targets.map (.run i) ++ targets.map (.hear i)) =
      { l with cluster := s.2, writings := Function.update l.writings i (some s.1) } := by
    rw [play_append, play_act hbegun fun _ _ => rfl,
      play_act (Function.update_self _ _ _) fun _ _ => rfl]
    dsimp only
    rw [Function.update_idem, Function.update_idem, ← Writing.play_append]
  let stored : Load :=
    { l with cluster := s.2, writings := Function.update l.writings i (some s.1) }
  have hstored :
      l.play (.start writer :: (targets.map (.run i) ++ targets.map (.hear i))) = stored := by
    have hfirst : l.step (.start writer) = begun := step_start htodo hnone hsome
    rw [Load.play, List.foldl_cons, hfirst]
    exact hplay
  have hlast : stored.step (.finish writer) = stored.settle writer rest s.1.verdict.isOk :=
    step_finish htodo (Function.update_self _ _ _) hwaiting
  refine ⟨.start writer :: (targets.map (.run i) ++ targets.map (.hear i)) ++ [.finish writer],
    s.1, hquiet, ?_⟩
  rw [play_append, hstored]
  refine hlast.trans ?_
  have hsuccess : s.1.verdict.isOk = true := hok
  have hwritten : s.2 = (l.cluster.writeAll (keyOf i) (valueOf i) targets).2 := hcluster
  rw [hsuccess, h.put_eq hm hne, Load.settle]
  show Load.mk (s.2.record _) _ _ _ = _
  rw [hwritten]
  rfl

theorem storeOne_eq (failed i : Nat) : storeOne failed l.cluster i =
    (failed, (l.cluster.put (keyOf i) (valueOf i)).2) := by
  refine Prod.ext (if_pos ?_) rfl
  show (l.cluster.put (keyOf i) (valueOf i)).1.isOk = true
  rw [h.put_eq hm hne]
  rfl

omit h in
/-- The course that a simulation takes. -/
theorem exists_course {numbers : List Nat} (h : Steady c keys writers l) (hquiet : l.IsQuiet)
    (hleft : (List.range writers).flatMap l.todo = numbers) (hnodup : numbers.Nodup)
    (hfresh : ∀ i ∈ numbers, l.writings i = none) :
    ∃ moves, (l.play moves).IsComplete ∧ ((l.play moves).failed, (l.play moves).cluster) =
      numbers.foldl (fun (failed, c) i => storeOne failed c i) (l.failed, l.cluster) := by
  induction numbers generalizing l with
  | nil =>
    refine ⟨[], ⟨fun writer => ?_, hquiet⟩, rfl⟩
    show l.todo writer = []
    rw [List.eq_nil_iff_forall_not_mem]
    intro i hmem
    have hrange := (h.todo writer i hmem).2
    have hmem := List.mem_flatMap.2 ⟨writer, List.mem_range.2 hrange, hmem⟩
    rw [hleft] at hmem
    exact List.not_mem_nil hmem
  | cons i numbers ih =>
    obtain ⟨hnew, hnodup⟩ := List.nodup_cons.1 hnodup
    obtain ⟨hnone, hfresh⟩ := List.forall_mem_cons.1 hfresh
    -- the key is the next one of the first writer that has anything left to do
    obtain ⟨writer, rest, htodo, hrest⟩ := exists_first List.nodup_range hleft
    obtain ⟨moves, w, hended, hplay⟩ := h.exists_put hm hne htodo hnone
    have hsteady := h.play hm.ring.sound hne moves
    have hended : (l.play moves).IsQuiet := by
      rw [hplay]
      intro j w' hj
      change Function.update l.writings i (some w) j = some w' at hj
      rw [Function.update_apply] at hj
      split at hj
      · exact Option.some.inj hj ▸ hended
      · exact hquiet j w' hj
    have hrest : (List.range writers).flatMap (l.play moves).todo = numbers := by
      rw [hplay]
      exact hrest
    have hfresh : ∀ j ∈ numbers, (l.play moves).writings j = none := by
      intro j hj
      have hother : j ≠ i := fun heq => hnew (heq ▸ hj)
      rw [hplay]
      exact (Function.update_of_ne hother _ _).trans (hfresh j hj)
    obtain ⟨later, hcomplete, hlast⟩ := ih hsteady hended hrest hnodup hfresh
    rw [← play_append] at hcomplete hlast
    refine ⟨moves ++ later, hcomplete, hlast.trans ?_⟩
    rw [hplay, List.foldl_cons]
    dsimp only
    rw [h.storeOne_eq hm hne]

end Steady

/-- The load of so many keys on a cluster that was started with the settings. No writers count as
one. -/
def start (settings : Settings) (keys writers : Nat) : Load :=
  begin (Cluster.bootstrap settings).drain keys (max writers 1)

end Load

/-! ## Simulations -/

namespace Simulation

variable {settings : Settings} {keys writers : Nat}

/-- The settings are valid and name units whose labels do not meet. -/
structure Runnable (settings : Settings) : Prop where
  valid : settings.validate = .ok ()
  units : settings.initialUnits ≠ []
  apart : LabelsApart settings.coordinator.virtualNodes (settings.initialUnits.map UnitSpec.id)

/-- The ids of the units. -/
def idsOf (settings : Settings) : Std.ExtTreeSet String :=
  .ofList (settings.initialUnits.map UnitSpec.id)

namespace Runnable

variable (h : Runnable settings)
include h

theorem size_idsOf : (idsOf settings).size = settings.initialUnits.length := by
  obtain ⟨-, -, -, hnodup⟩ := Settings.of_validate h.valid
  have hdistinct : (settings.initialUnits.map UnitSpec.id).Pairwise
      fun a b => ¬compare a b = .eq := hnodup.imp fun hne heq =>
    hne (Std.LawfulEqOrd.eq_of_compare heq)
  rw [idsOf, Std.ExtTreeSet.size_ofList hdistinct, List.length_map]

theorem mirrors : Mirrors (settings.initialUnits.map UnitSpec.id)
    (Cluster.bootstrap settings).drain { ids := idsOf settings } :=
  Cluster.mirrors_bootstrap h.valid h.apart

theorem replicas_ne_nil (key : String) : (Cluster.bootstrap settings).drain.replicas key ≠ [] := by
  have hpos := List.length_pos_iff.2 h.units
  rw [ne_eq, h.mirrors.replicas_eq_nil_iff, Std.ExtTreeSet.isEmpty_eq_size_beq_zero, beq_iff_eq,
    h.size_idsOf]
  omega

theorem steady (keys writers : Nat) :
    Load.Steady (Cluster.bootstrap settings).drain keys (max writers 1)
      (Load.start settings keys writers) := by
  obtain ⟨-, -, -, hnodup⟩ := Settings.of_validate h.valid
  obtain ⟨hbooting, -⟩ := Cluster.booting_bootstrap h.apart hnodup
  exact Load.Steady.begin hbooting.bare hbooting.writes hbooting.operations keys (by omega)

theorem steady_play (keys writers : Nat) (moves : List Load.Move) :
    Load.Steady (Cluster.bootstrap settings).drain keys (max writers 1)
      ((Load.start settings keys writers).play moves) :=
  (h.steady keys writers).play h.mirrors.ring.sound h.replicas_ne_nil moves

theorem flawless_play {moves : List Load.Move}
    (hdone : ((Load.start settings keys writers).play moves).IsComplete) :
    ((Load.start settings keys writers).play moves).report.Flawless keys
      (min settings.coordinator.replicationFactor settings.initialUnits.length) := by
  obtain ⟨-, -, -, hnodup⟩ := Settings.of_validate h.valid
  obtain ⟨hbooting, -⟩ := Cluster.booting_bootstrap h.apart hnodup
  have hflawless := (h.steady_play keys writers moves).flawless h.mirrors hdone h.replicas_ne_nil
  rwa [hbooting.factor, h.size_idsOf] at hflawless

/-- A simulation reports what one of the courses reports. -/
theorem exists_course {simulation : Simulation} (hgrow : simulation.grow = false) :
    ∃ moves, ((Load.start settings simulation.keys simulation.writers).play moves).IsComplete ∧
      ((Load.start settings simulation.keys simulation.writers).play moves).report =
        simulation.run settings := by
  have hleft : (List.range (max simulation.writers 1)).flatMap
      (Load.start settings simulation.keys simulation.writers).todo = simulation.schedule :=
    List.flatMap_congr fun writer hwriter => if_pos (List.mem_range.1 hwriter)
  have hnodup : simulation.schedule.Nodup :=
    (schedule_perm simulation).nodup_iff.2 List.nodup_range
  have hquiet : (Load.start settings simulation.keys simulation.writers).IsQuiet :=
    fun i w hsome => nomatch hsome
  have hsteady := h.steady simulation.keys simulation.writers
  obtain ⟨moves, hdone, hcourse⟩ := hsteady.exists_course h.mirrors h.replicas_ne_nil hquiet hleft
    hnodup fun _ _ => rfl
  have hfinal := (hsteady.play h.mirrors.ring.sound h.replicas_ne_nil moves).mirrors h.mirrors hdone
    h.replicas_ne_nil
  refine ⟨moves, hdone, ?_⟩
  have hstored : storeAll (Cluster.bootstrap settings).drain simulation.schedule = _ := hcourse.symm
  simp only [run, hstored, hgrow, Cluster.drain_of_queue_eq_nil hfinal.idle, Bool.false_eq_true,
    if_false, Load.report]

end Runnable

/-- A simulation that admits no unit after its load stores every key once and on all of its
replicas, whatever the number of writers. This goes for every course that the writers can take, of
which the one of the simulation is one: it can be continued until the load is complete, and then the
units hold the same, whoever has written what and when. -/
theorem load_complete (simulation : Simulation) (settings : Settings)
    (hgrow : simulation.grow = false) (h : Runnable (simulation.populate settings)) :
    let populated := simulation.populate settings
    let copies := min populated.coordinator.replicationFactor populated.initialUnits.length
    simulation.schedule.Perm (List.range simulation.keys) ∧
    (simulation.run populated).Flawless simulation.keys copies ∧
    (∀ (writers : Nat) (moves : List Load.Move),
      let l := (Load.start populated simulation.keys writers).play moves
      l.IsComplete → l.report.Flawless simulation.keys copies) ∧
    (∀ (writers : Nat) (moves : List Load.Move) (writers' : Nat) (moves' : List Load.Move),
      let l := (Load.start populated simulation.keys writers).play moves
      let l' := (Load.start populated simulation.keys writers').play moves'
      l.IsComplete → l'.IsComplete → ∀ unit,
        (l'.cluster.fleet.get unit).contents = (l.cluster.fleet.get unit).contents) ∧
    (∀ (writers : Nat) (moves : List Load.Move), ∃ later,
      ((Load.start populated simulation.keys writers).play (moves ++ later)).IsComplete) ∧
    ∃ moves, let l := (Load.start populated simulation.keys simulation.writers).play moves
      l.IsComplete ∧ l.report = simulation.run populated := by
  intro populated copies
  obtain ⟨course, hdone, hcourse⟩ := h.exists_course hgrow
  refine ⟨schedule_perm simulation, ?_, fun writers moves => h.flawless_play, ?_, ?_,
    course, hdone, hcourse⟩
  · rw [← hcourse]
    exact h.flawless_play hdone
  · intro writers moves writers' moves' l l' hdone hdone' unit
    refine Fleet.contents_of_copy fun key => ?_
    rw [(h.steady_play _ writers moves).copy_of_complete h.mirrors hdone,
      (h.steady_play _ writers' moves').copy_of_complete h.mirrors hdone']
  · intro writers moves
    obtain ⟨later, hlater⟩ := (h.steady_play simulation.keys writers moves).exists_completion
      h.mirrors.ring.sound h.replicas_ne_nil
    refine ⟨later, ?_⟩
    rw [Load.play_append]
    exact hlater

/-- Two generated units take three keys from two writers, of whom the second one begins. -/
theorem load_complete_generated :
    let simulation : Simulation := { keys := 3, writers := 2, units := 2 }
    let settings : Settings := { coordinator := { virtualNodes := 1 } }
    let populated := simulation.populate settings
    simulation.grow = false ∧ Runnable populated ∧
      (simulation.run populated).Flawless 3 2 ∧
      ∃ later, let l := (Load.start populated simulation.keys 2).play ([.start 1, .start 0] ++ later)
        l.IsComplete ∧ l.report.Flawless 3 2 := by
  intro simulation settings populated
  have hvalid : populated.problem? = none := by decide +kernel
  have hapart : LabelsApart populated.coordinator.virtualNodes
      (populated.initialUnits.map UnitSpec.id) := by decide +kernel
  have hunits : populated.initialUnits ≠ [] := by decide +kernel
  have hrunnable : Runnable populated := by
    refine ⟨?_, hunits, hapart⟩
    rw [Settings.validate, hvalid]
  have hcopies : min populated.coordinator.replicationFactor populated.initialUnits.length = 2 := by
    decide +kernel
  obtain ⟨-, hrun, hall, -, hcompletes, -⟩ := load_complete simulation settings rfl hrunnable
  obtain ⟨later, hdone⟩ := hcompletes 2 [.start 1, .start 0]
  have hcourse := hall 2 _ hdone
  rw [hcopies] at hrun hcourse
  exact ⟨rfl, hrunnable, hrun, later, hdone, hcourse⟩

end Simulation

end QuorumRing
