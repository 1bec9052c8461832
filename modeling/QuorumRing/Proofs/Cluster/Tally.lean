import Mathlib.Algebra.Order.BigOperators.Group.Finset
import QuorumRing.Proofs.Cluster.Members
import QuorumRing.Proofs.Cluster.Standstill

/-!
# The tally by unit id

The coordinator keeps a tally of operations by unit id, and each unit counts the operations that it
has accepted. The two differ: a read or a removal goes into the tally only if it found something, and
the coordinator knows nothing of what repairs, verifications, migrations and other clients ask of a
unit. But each time it counts an operation, the unit that served it has counted it too, so the tally
of an id stays below what all units of this id have counted together (`Cluster.Covered`).

A sum is needed, over the units that were registered at any time (`Session.registered`): the tally of
an id goes on when another unit is admitted under the id of one that was removed, and writes that
were queued before still reach the first of them.
-/

namespace QuorumRing

open Fleet (Work Turn)

/-! ## Operations of units -/

namespace Fleet

variable {fleet fleet' : Fleet} {unit : UnitRef} {units : Finset UnitRef}
  {allowed : String → String → Prop} {tally : Std.ExtTreeMap String Nat}

/-- The number of operations that those of the units with an id have accepted. -/
def operationsOf (fleet : Fleet) (units : Finset UnitRef) (id : String) : Nat :=
  ∑ unit ∈ units with unit.id = id, (fleet.get unit).operations

/-- No id is credited with more operations than those of the units with this id have accepted. -/
def Covers (fleet : Fleet) (units : Finset UnitRef) (tally : Std.ExtTreeMap String Nat) : Prop :=
  ∀ id, tally.getD id 0 ≤ fleet.operationsOf units id

theorem operations_attempt {α : Type} (operation : Contents → α × Contents) (fleet : Fleet)
    (unit w : UnitRef) : ((fleet.attempt unit (·.accept operation)).2.get w).operations =
      (fleet.get w).operations + if w = unit ∧ fleet.pool.isActive unit then 1 else 0 := by
  cases hactive : fleet.pool.isActive unit with
  | false => simp [attempt_of_inactive operation hactive]
  | true =>
    rw [attempt_of_active operation hactive]
    by_cases hw : w = unit
    · subst hw
      simp [get]
    · simp [get, Pool.get_set_of_ne, hw, Ne.symm hw]

theorem operations_attempt_le {α : Type} (operation : Contents → α × Contents) (fleet : Fleet)
    (unit w : UnitRef) : (fleet.get w).operations ≤
      ((fleet.attempt unit (·.accept operation)).2.get w).operations := by
  rw [operations_attempt]
  exact Nat.le_add_right _ _

theorem isActive_of_attempt_eq_ok {α : Type} {operation : Contents → α × Contents} {answer : α}
    (h : (fleet.attempt unit (·.accept operation)).1 = .ok answer) :
    fleet.pool.isActive unit = true := by
  cases hactive : fleet.pool.isActive unit with
  | false =>
    rw [attempt_of_inactive operation hactive] at h
    simp at h
  | true => rfl

theorem Work.operations_le (h : Work allowed fleet fleet') (w : UnitRef) :
    (fleet.get w).operations ≤ (fleet'.get w).operations := by
  induction h with
  | refl => exact Nat.le_refl _
  | trans _ _ ih ih' => exact Nat.le_trans ih ih'
  | read fleet unit key => exact operations_attempt_le _ fleet unit w
  | store fleet unit _ => exact operations_attempt_le _ fleet unit w
  | discard fleet unit _ => exact operations_attempt_le _ fleet unit w

/-- The counter of a unit that has been admitted never falls. -/
theorem Turn.operations_le (h : Turn allowed fleet fleet') {w : UnitRef}
    (hadmitted : w.serial < fleet.pool.admissions) :
    (fleet.get w).operations ≤ (fleet'.get w).operations := by
  cases h with
  | work hwork => exact hwork.operations_le w
  | switch _ hdata => exact (hdata.operations w).ge
  | @join _ _ _ newcomer hadded =>
    have hne : w ≠ newcomer := by
      rintro rfl
      have := (admissions_add? hadded).1
      omega
    rw [get_of_add? hadded hne]
  | leave _ hdata => exact (hdata.operations w).ge

/-! ### A tally that is covered -/

theorem operationsOf_mono {units' : Finset UnitRef} (hunits : units ⊆ units')
    (hle : ∀ w ∈ units, (fleet.get w).operations ≤ (fleet'.get w).operations) (id : String) :
    fleet.operationsOf units id ≤ fleet'.operationsOf units' id := by
  calc fleet.operationsOf units id
      ≤ fleet'.operationsOf units id :=
        Finset.sum_le_sum fun w hw => hle w (Finset.mem_filter.1 hw).1
    _ ≤ fleet'.operationsOf units' id :=
        Finset.sum_le_sum_of_subset (Finset.filter_subset_filter _ hunits)

theorem Covers.mono (h : fleet.Covers units tally) {units' : Finset UnitRef}
    (hunits : units ⊆ units')
    (hle : ∀ w ∈ units, (fleet.get w).operations ≤ (fleet'.get w).operations) :
    fleet'.Covers units' tally :=
  fun id => (h id).trans (operationsOf_mono hunits hle id)

theorem Covers.work (h : fleet.Covers units tally) (hwork : Work allowed fleet fleet') :
    fleet'.Covers units tally :=
  h.mono (Finset.Subset.refl units) fun w _ => hwork.operations_le w

/-- An operation that a unit has accepted may be credited to its id. -/
theorem Covers.credit {α : Type} {operation : Contents → α × Contents} {answer : α}
    (h : fleet.Covers units tally) (hunit : unit ∈ units)
    (hok : (fleet.attempt unit (·.accept operation)).1 = .ok answer) :
    (fleet.attempt unit (·.accept operation)).2.Covers units
      (tally.insert unit.id (tally.getD unit.id 0 + 1)) := by
  have hactive := isActive_of_attempt_eq_ok hok
  intro id
  have hbefore := h id
  -- of all the units that are summed up, the one that was asked has counted one more
  have hafter : (fleet.attempt unit (·.accept operation)).2.operationsOf units id =
      fleet.operationsOf units id + if unit.id = id then 1 else 0 := by
    simp only [operationsOf, operations_attempt, hactive, and_true, Finset.sum_add_distrib,
      Finset.sum_ite_eq', Finset.mem_filter, hunit, true_and]
  rw [hafter, Std.ExtTreeMap.getD_insert]
  by_cases hid : unit.id = id
  · subst hid
    simpa using hbefore
  · simpa [hid] using hbefore

end Fleet

/-! ## The tally of a cluster -/

/-- The unit that a task writes to. -/
def Task.target? : Task → Option UnitRef
  | .write target _ _ => some target
  | .join .. | .pull .. | .leave .. => none

/-- What is left of a task writes to no unit but that of the task. -/
theorem Task.Leaves.target? {task left : Task} {target : UnitRef} (h : task.Leaves left)
    (htarget : left.target? = some target) : task.target? = some target := by
  cases left with
  | write unit key value => rwa [h.eq_of_write rfl]
  | join | pull | leave => cases htarget

namespace Cluster

variable {c : Cluster} {key value : String} {units : Finset UnitRef} {tasks : List Task}

/-- The tally is covered by the operations of the units. -/
def Covered (c : Cluster) (units : Finset UnitRef) : Prop :=
  c.fleet.Covers units c.metrics.nodeOperations

/-- All units that the tasks write to are among the units. -/
def Targets (tasks : List Task) (units : Finset UnitRef) : Prop :=
  ∀ task ∈ tasks, ∀ target, task.target? = some target → target ∈ units

theorem Targets.stints {fleet fleet' : Fleet} {tasks' : List Task} {r : Nat}
    (h : Targets tasks units) (hstints : Stints r fleet tasks fleet' tasks') :
    Targets tasks' units := by
  intro left hleft target htarget
  obtain ⟨task, htask, hleaves⟩ := hstints.leaves hleft
  exact h task htask target (hleaves.target? htarget)

namespace Covered

/-! ### What the coordinator counts itself -/

theorem write (h : c.Covered units) {target : UnitRef} (htarget : target ∈ units)
    (key value : String) : (c.write target key value).2.Covered units := by
  have hwork : Work (fun _ _ => True) c.fleet (c.fleet.attempt target (·.put key value)).2 :=
    .store c.fleet target trivial
  unfold Cluster.write attempt
  dsimp only
  split
  next previous c' hanswer =>
    obtain ⟨hok, rfl⟩ := Prod.mk.inj hanswer
    exact Fleet.Covers.credit h htarget hok
  next e c' hanswer =>
    obtain ⟨-, rfl⟩ := Prod.mk.inj hanswer
    exact Fleet.Covers.work h hwork

theorem writeAll (h : c.Covered units) {targets : List UnitRef}
    (htargets : ∀ target ∈ targets, target ∈ units) (key value : String) :
    (c.writeAll key value targets).2.Covered units := by
  induction targets generalizing c with
  | nil => exact h
  | cons target targets ih =>
    obtain ⟨hfirst, hrest⟩ := List.forall_mem_cons.1 htargets
    exact ih (h.write hfirst key value) hrest

theorem run (h : c.Covered units) {task : Task}
    (htarget : ∀ target, task.target? = some target → target ∈ units) :
    (c.run task).Covered units := by
  have hwork : Work (fun _ _ => True) c.fleet (task.effect c.replicationFactor c.fleet) :=
    (task.fits_all c.fleet).work c.replicationFactor
  obtain ⟨hfleet, hmetrics⟩ := run_snd c task
  unfold Cluster.Covered
  rw [hfleet, hmetrics]
  cases task with
  | write target key value => exact h.write (htarget target rfl) key value
  | join | pull | leave => exact Fleet.Covers.work h hwork

theorem runAt (h : c.Covered units) (htargets : Targets c.queue units) (index : Nat) :
    (c.runAt index).Covered units := by
  unfold Cluster.runAt
  split
  next task hqueued =>
    have hleft : Cluster.Covered { c with queue := c.queue.eraseIdx index } units := h
    exact hleft.run (htargets task (List.mem_of_getElem? hqueued))
  · exact h

/-- The same while the targets of the tasks are kept. -/
theorem runAt_and_targets (h : c.Covered units ∧ Targets c.queue units) (index : Nat) :
    (c.runAt index).Covered units ∧ Targets (c.runAt index).queue units := by
  refine ⟨h.1.runAt h.2 index, ?_⟩
  obtain ⟨f, q, m, g, hrun, hstints⟩ := stints_runAt c index
  rw [hrun]
  exact h.2.stints hstints

theorem round (h : c.Covered units) (htargets : Targets c.queue units) :
    c.round.Covered units :=
  (round_induction (P := fun c => c.Covered units ∧ Targets c.queue units) ⟨h, htargets⟩
    fun _ hcovered => runAt_and_targets hcovered 0).1

theorem drain (h : c.Covered units) (htargets : Targets c.queue units) :
    c.drain.Covered units :=
  (drain_induction (P := fun c => c.Covered units ∧ Targets c.queue units) ⟨h, htargets⟩
    fun _ hcovered => runAt_and_targets hcovered 0).1

theorem shutdown (h : c.Covered units) (htargets : Targets c.queue units) (graceMillis : Nat) :
    (c.shutdown graceMillis).2.Covered units := by
  have hclosed : Cluster.Covered { c with closed := true } units := h
  unfold Cluster.shutdown
  dsimp only
  split
  · obtain ⟨g, hdropped⟩ := foldl_conclude c.queue { c with queue := [], closed := true }
    rw [hdropped]
    exact h
  · exact hclosed.drain htargets

theorem fanOut (h : c.Covered units) (hqueue : Targets c.queue units) {targets : List UnitRef}
    (htargets : ∀ target ∈ targets, target ∈ units) (key value : String) :
    (c.fanOut key value targets).2.Covered units := by
  unfold Cluster.fanOut
  split
  · exact h
  · split
    · exact h
    · exact (h.round hqueue).writeAll htargets key value

theorem put (h : c.Covered units) (hqueue : Targets c.queue units)
    (hreplicas : ∀ target ∈ c.replicas key, target ∈ units) (value : String) :
    (c.put key value).2.Covered units := by
  have hfan := h.fanOut hqueue hreplicas key value
  unfold Cluster.put store
  split
  · exact h
  · rw [writeQuorum]
    dsimp only
    cases Quorum.judge (c.replicas key).length (c.fanOut key value (c.replicas key)).1 with
    | ok acks => exact hfan
    | error e => exact hfan

theorem readFirst (h : c.Covered units) {candidates : List UnitRef}
    (hcandidates : ∀ unit ∈ candidates, unit ∈ units) (key : String) :
    (c.readFirst key candidates).2.Covered units := by
  induction candidates generalizing c with
  | nil => exact h
  | cons unit candidates ih =>
    obtain ⟨hfirst, hrest⟩ := List.forall_mem_cons.1 hcandidates
    have hwork : Work (fun _ _ => True) c.fleet (c.fleet.attempt unit (·.get key)).2 :=
      .read c.fleet unit key
    rw [Cluster.readFirst]
    split
    next value c' hanswer =>
      obtain ⟨hok, rfl⟩ := Prod.mk.inj hanswer
      exact Fleet.Covers.credit h hfirst hok
    next answer c' _ hanswer =>
      obtain ⟨-, rfl⟩ := Prod.mk.inj hanswer
      exact ih (Fleet.Covers.work h hwork) hrest

theorem get (h : c.Covered units) (hreplicas : ∀ unit ∈ c.replicas key, unit ∈ units) :
    (c.get key).2.Covered units := by
  have hread := h.readFirst hreplicas key
  unfold Cluster.get
  dsimp only
  split
  · exact h
  · exact hread

theorem removeFrom (h : c.Covered units) {targets : List UnitRef}
    (htargets : ∀ unit ∈ targets, unit ∈ units) (key : String) :
    (c.removeFrom key targets).2.Covered units := by
  induction targets generalizing c with
  | nil => exact h
  | cons unit targets ih =>
    obtain ⟨hfirst, hrest⟩ := List.forall_mem_cons.1 htargets
    have hwork : Work (fun _ _ => True) c.fleet (c.fleet.attempt unit (·.remove key)).2 :=
      .discard c.fleet unit fun _ _ => trivial
    rw [Cluster.removeFrom]
    split
    next value c' hanswer =>
      obtain ⟨hok, rfl⟩ := Prod.mk.inj hanswer
      exact ih (Fleet.Covers.credit h hfirst hok) hrest
    next answer c' _ hanswer =>
      obtain ⟨-, rfl⟩ := Prod.mk.inj hanswer
      exact ih (Fleet.Covers.work h hwork) hrest

theorem delete (h : c.Covered units) (hreplicas : ∀ unit ∈ c.replicas key, unit ∈ units) :
    (c.delete key).2.Covered units := by
  have hremoved := h.removeFrom hreplicas key
  unfold Cluster.delete
  dsimp only
  split
  · exact hremoved
  · exact hremoved

end Covered

end Cluster

/-! ## Acts that the tally takes no notice of -/

namespace Cluster

theorem metrics_launch (c : Cluster) (kind : MigrationKind) (id : String)
    (task : Registration → Task) : (c.launch kind id task).metrics = c.metrics := by
  obtain ⟨registration, g, hlaunch⟩ := launch_eq c kind id task
  rw [hlaunch]

theorem metrics_addNode (c : Cluster) (id host : String) (port : UInt16) :
    (c.addNode id host port).2.metrics =
      bif (c.addNode id host port).1 then c.metrics.recordNodeAdded else c.metrics := by
  unfold addNode
  cases c.fleet.add? { id, host, port } with
  | none => rfl
  | some added => exact metrics_launch _ _ _ _

theorem metrics_removeNode (c : Cluster) (id : String) : (c.removeNode id).2.metrics =
    bif (c.removeNode id).1 then c.metrics.recordNodeRemoved else c.metrics := by
  unfold removeNode
  cases c.fleet.ring.get? id with
  | none => rfl
  | some unit =>
    dsimp only
    cases (c.fleet.setActive unit false).remove? id with
    | none => rfl
    | some fleet =>
      dsimp only
      split
      · rfl
      · exact metrics_launch _ _ _ _

theorem metrics_submit (c : Cluster) (key value : String) :
    (c.submit key value).metrics = c.metrics := by
  obtain ⟨g, hsubmit⟩ := submit_snd c key value
  rw [hsubmit]

theorem metrics_switch (c : Cluster) (id : String) (active : Bool) :
    (c.switch id active).metrics = c.metrics := by
  unfold switch
  split
  · rfl
  · rfl

end Cluster

/-! ## The tally of a session -/

namespace Session

variable {s : Session} {units : Finset UnitRef}

/-- The units that were registered at some moment while the acts happened. -/
def registered (s : Session) : List Act → Finset UnitRef
  | [] => s.cluster.fleet.units.toFinset
  | a :: acts => s.cluster.fleet.units.toFinset ∪ registered (s.act a) acts

theorem units_subset_registered (s : Session) (acts : List Act) :
    s.cluster.fleet.units.toFinset ⊆ s.registered acts := by
  cases acts with
  | nil => exact Finset.Subset.refl _
  | cons a acts => exact Finset.subset_union_left

/-- The tally of the coordinator is covered by the operations of units that have been admitted, and
so is whatever the queued writes and the members can add to it. -/
structure Tallied (s : Session) (units : Finset UnitRef) : Prop where
  /-- The ring is sound. -/
  sound : s.cluster.fleet.ring.Sound
  /-- All members are among the units. -/
  members : ∀ unit ∈ s.cluster.fleet.units, unit ∈ units
  /-- The units have been admitted. -/
  admitted : ∀ unit ∈ units, unit.serial < s.cluster.fleet.pool.admissions
  /-- The queued writes go to them. -/
  targets : Cluster.Targets s.cluster.queue units
  /-- They cover the tally. -/
  covered : s.cluster.Covered units

namespace Tallied

theorem mem_of_mem_replicas (h : s.Tallied units) {key : String} :
    ∀ unit ∈ s.cluster.replicas key, unit ∈ units :=
  fun unit hunit => h.members unit (Fleet.mem_units_of_mem_replicas h.sound hunit)

/-- No new tasks write to units but to replicas. -/
theorem targets_act (h : s.Tallied units) (a : Act) :
    Cluster.Targets (s.act a).cluster.queue units := by
  have hwrites : ∀ (key value : String), Cluster.Targets
      (s.cluster.queue ++ (s.cluster.replicas key).map (.write · key value)) units := by
    intro key value task htask target htarget
    rcases List.mem_append.1 htask with hqueued | hnew
    · exact h.targets task hqueued target htarget
    · obtain ⟨replica, hreplica, rfl⟩ := List.mem_map.1 hnew
      obtain rfl : replica = target := Option.some.inj htarget
      exact h.mem_of_mem_replicas replica hreplica
  -- of the new tasks only writes have a target, and only puts queue any
  have hothers : a.supply? = none → Cluster.Targets (s.act a).cluster.queue units := by
    intro hsupply task htask target htarget
    rcases tasks_act htask with ⟨old, hqueued, hleaves⟩ | hfresh
    · exact h.targets old hqueued target (hleaves.target? htarget)
    · cases hfresh with
      | write _ hwrite => simp [hsupply] at hwrite
      | join => simp [Task.target?] at htarget
      | leave => simp [Task.target?] at htarget
  cases a with
  | request unit request => exact h.targets
  | event event =>
    cases event with
    | put key value =>
      rcases Cluster.put_snd s.cluster key value with ⟨m, hput⟩ | ⟨m, hput⟩ | ⟨m, g, hput⟩
      · rw [act, step, hput]
        exact h.targets
      · rw [act, step, hput]
        exact hwrites key value
      · rw [act, step, hput]
        exact h.targets.stints (Cluster.stints_of_round _ _ _)
    | submit key value =>
      obtain ⟨g, hsubmit⟩ := Cluster.submit_snd s.cluster key value
      rw [act, step, hsubmit]
      dsimp only
      split
      · rw [List.append_nil]
        exact h.targets
      · exact hwrites key value
    | _ => exact hothers rfl

/-- Whatever the coordinator counts, a unit has counted too. -/
theorem covered_act (h : s.Tallied units) (a : Act) : (s.act a).cluster.Covered units := by
  -- if the tally stays, it is enough that no unit counts backwards
  have hquiet : (s.act a).cluster.metrics.nodeOperations = s.cluster.metrics.nodeOperations →
      (s.act a).cluster.Covered units := by
    intro hsame
    unfold Cluster.Covered
    rw [hsame]
    exact Fleet.Covers.mono h.covered (Finset.Subset.refl units) fun unit hunit =>
      (turn_act s a).operations_le (h.admitted unit hunit)
  cases a with
  | request unit request => exact hquiet rfl
  | event event =>
    cases event with
    | put key value => exact h.covered.put h.targets h.mem_of_mem_replicas value
    | get key => exact h.covered.get h.mem_of_mem_replicas
    | delete key => exact h.covered.delete h.mem_of_mem_replicas
    | run index => exact h.covered.runAt h.targets index
    | reorder => exact hquiet rfl
    | drain => exact h.covered.drain h.targets
    | shutdown graceMillis => exact h.covered.shutdown h.targets graceMillis
    | addNode id host port =>
      refine hquiet ?_
      rw [act, step, Cluster.metrics_addNode]
      cases (s.cluster.addNode id host port).1 with
      | true => rfl
      | false => rfl
    | removeNode id =>
      refine hquiet ?_
      rw [act, step, Cluster.metrics_removeNode]
      cases (s.cluster.removeNode id).1 with
      | true => rfl
      | false => rfl
    | submit key value =>
      exact hquiet (congrArg Metrics.nodeOperations (Cluster.metrics_submit s.cluster key value))
    | switch id active =>
      exact hquiet (congrArg Metrics.nodeOperations (Cluster.metrics_switch s.cluster id active))
    | repair key => exact hquiet rfl
    | verify => exact hquiet rfl
    | check down => exact hquiet rfl

/-- The tally stays covered if the units that an act admits are taken in. -/
theorem act (h : s.Tallied units) (a : Act) :
    (s.act a).Tallied (units ∪ (s.act a).cluster.fleet.units.toFinset) where
  sound := sound_act h.sound a
  members unit hunit := Finset.mem_union_right units (List.mem_toFinset.2 hunit)
  admitted := by
    have hnumbered := numbered_act h.sound (fun unit hunit =>
      h.admitted unit (h.members unit hunit)) a
    intro unit hunit
    rcases Finset.mem_union.1 hunit with hold | hnew
    · exact Nat.lt_of_lt_of_le (h.admitted unit hold) (admissions_act_le s a)
    · exact hnumbered unit (List.mem_toFinset.1 hnew)
  targets task htask target htarget :=
    Finset.mem_union_left _ (h.targets_act a task htask target htarget)
  covered := Fleet.Covers.mono (h.covered_act a) Finset.subset_union_left fun _ _ => Nat.le_refl _

theorem play (h : s.Tallied units) (acts : List Act) :
    (s.play acts).Tallied (units ∪ s.registered acts) := by
  induction acts generalizing s units with
  | nil =>
    have hunits : units ∪ s.registered [] = units :=
      Finset.union_eq_left.2 fun unit hunit => h.members unit (List.mem_toFinset.1 hunit)
    rw [hunits]
    exact h
  | cons a acts ih =>
    have hlater := ih (h.act a)
    have hmembers : s.cluster.fleet.units.toFinset ⊆ units := fun unit hunit =>
      h.members unit (List.mem_toFinset.1 hunit)
    have hunits : units ∪ s.registered (a :: acts) =
        units ∪ (s.act a).cluster.fleet.units.toFinset ∪ (s.act a).registered acts := by
      rw [registered, ← Finset.union_assoc, Finset.union_eq_left.2 hmembers, Finset.union_assoc,
        Finset.union_eq_right.2 (units_subset_registered (s.act a) acts)]
    rw [hunits]
    exact hlater

end Tallied

theorem tallied_start (virtualNodes replicationFactor writeTimeout : Nat) (units : List UnitSpec) :
    let s := start virtualNodes replicationFactor writeTimeout units
    s.Tallied s.cluster.fleet.units.toFinset where
  sound := (working_start virtualNodes replicationFactor writeTimeout units).sound
  members unit hunit := List.mem_toFinset.2 hunit
  admitted unit hunit :=
    numbered_enlist virtualNodes units unit (List.mem_toFinset.1 hunit)
  targets task htask := absurd htask List.not_mem_nil
  covered id := by
    have hnone : (∅ : Std.ExtTreeMap String Nat).getD id 0 = 0 := Std.ExtTreeMap.getD_empty
    exact hnone ▸ Nat.zero_le _

end Session

end QuorumRing
