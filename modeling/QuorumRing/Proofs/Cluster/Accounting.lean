import QuorumRing.Proofs.Cluster.Tally

/-!
# What the metrics account for

Every way out of an operation counts its outcome once, and background work counts none: neither the
writes that end after a put has given up on them, nor migrations, redistributions and repairs. So the
counters of a run are the numbers of its outcomes (`Session.outcomes_counted`).
-/

namespace QuorumRing

/-! ## Counters of outcomes -/

/-- The counters of outcomes. -/
structure Counters where
  /-- Reads that found a replica to ask. -/
  reads : Nat
  /-- Writes that reached their quorum. -/
  writes : Nat
  /-- Deletes that removed something. -/
  deletes : Nat
  /-- Writes that failed. -/
  failures : Nat
  /-- Units admitted. -/
  nodesAdded : Nat
  /-- Units removed. -/
  nodesRemoved : Nat

/-- The counters of outcomes among the metrics. -/
def Metrics.counters (m : Metrics) : Counters :=
  ⟨m.reads, m.writes, m.deletes, m.failures, m.nodesAdded, m.nodesRemoved⟩

namespace Cluster

variable {c : Cluster} {key value : String}

theorem counters_write (c : Cluster) (target : UnitRef) (key value : String) :
    (c.write target key value).2.metrics.counters = c.metrics.counters := by
  unfold write attempt
  dsimp only
  split
  next h =>
    obtain ⟨-, rfl⟩ := Prod.mk.inj h
    rfl
  next h =>
    obtain ⟨-, rfl⟩ := Prod.mk.inj h
    rfl

theorem counters_writeAll (c : Cluster) (key value : String) (targets : List UnitRef) :
    (c.writeAll key value targets).2.metrics.counters = c.metrics.counters := by
  induction targets generalizing c with
  | nil => rfl
  | cons target targets ih => exact (ih _).trans (counters_write c target key value)

theorem counters_run (c : Cluster) (task : Task) :
    (c.run task).metrics.counters = c.metrics.counters := by
  rw [(run_snd c task).2]
  cases task with
  | write target key value => exact counters_write c target key value
  | join | pull | leave => rfl

theorem counters_runAt (c : Cluster) (index : Nat) :
    (c.runAt index).metrics.counters = c.metrics.counters := by
  unfold runAt
  split
  · exact counters_run _ _
  · rfl

theorem counters_round (c : Cluster) : c.round.metrics.counters = c.metrics.counters :=
  round_induction (P := fun c' => c'.metrics.counters = c.metrics.counters) rfl
    fun c' hsame => (counters_runAt c' 0).trans hsame

theorem counters_drain (c : Cluster) : c.drain.metrics.counters = c.metrics.counters :=
  drain_induction (P := fun c' => c'.metrics.counters = c.metrics.counters) rfl
    fun c' hsame => (counters_runAt c' 0).trans hsame

theorem counters_fanOut (c : Cluster) (key value : String) (targets : List UnitRef) :
    (c.fanOut key value targets).2.metrics.counters = c.metrics.counters := by
  unfold fanOut
  split
  · rfl
  · split
    · rfl
    · exact (counters_writeAll c.round key value targets).trans (counters_round c)

theorem counters_put (c : Cluster) (key value : String) : (c.put key value).2.metrics.counters =
    { c.metrics.counters with
      writes := c.metrics.writes + (c.put key value).1.isOk.toNat
      failures := c.metrics.failures + (!(c.put key value).1.isOk).toNat } := by
  have hfan := counters_fanOut c key value (c.replicas key)
  simp only [Metrics.counters, Counters.mk.injEq] at hfan
  unfold put store
  by_cases hnone : (c.replicas key).isEmpty = true
  · rw [if_pos hnone]
    rfl
  · rw [if_neg hnone, writeQuorum]
    dsimp only
    cases Quorum.judge (c.replicas key).length (c.fanOut key value (c.replicas key)).1 with
    | ok acks =>
      simp [record, Metrics.recordWrite, Metrics.counters, Except.isOk, Except.toBool, hfan]
    | error e =>
      simp [record, Metrics.recordFailure, Metrics.counters, Except.isOk, Except.toBool, hfan]

theorem counters_readFirst (c : Cluster) (key : String) (units : List UnitRef) :
    (c.readFirst key units).2.metrics.counters = c.metrics.counters := by
  induction units generalizing c with
  | nil => rfl
  | cons unit units ih =>
    rw [readFirst]
    split
    next value c' h =>
      obtain ⟨-, rfl⟩ := Prod.mk.inj h
      rfl
    next answer c' hanswer h =>
      obtain ⟨-, rfl⟩ := Prod.mk.inj h
      exact ih _

theorem counters_get (c : Cluster) (key : String) : (c.get key).2.metrics.counters =
    { c.metrics.counters with
      reads := c.metrics.reads + (!(c.replicas key).isEmpty).toNat } := by
  have hread := counters_readFirst c key (c.replicas key)
  simp only [Metrics.counters, Counters.mk.injEq] at hread
  unfold get
  dsimp only
  cases hnone : (c.replicas key).isEmpty with
  | true => rfl
  | false => simp [record, Metrics.recordRead, Metrics.counters, hread]

theorem counters_removeFrom (c : Cluster) (key : String) (units : List UnitRef) :
    (c.removeFrom key units).2.metrics.counters = c.metrics.counters := by
  induction units generalizing c with
  | nil => rfl
  | cons unit units ih =>
    rw [removeFrom]
    split
    next value c' h =>
      obtain ⟨-, rfl⟩ := Prod.mk.inj h
      exact ih _
    next answer c' hanswer h =>
      obtain ⟨-, rfl⟩ := Prod.mk.inj h
      exact ih _

theorem counters_delete (c : Cluster) (key : String) : (c.delete key).2.metrics.counters =
    { c.metrics.counters with deletes := c.metrics.deletes + (c.delete key).1.toNat } := by
  have hremove := counters_removeFrom c key (c.replicas key)
  simp only [Metrics.counters, Counters.mk.injEq] at hremove
  unfold delete
  dsimp only
  cases (c.removeFrom key (c.replicas key)).1 with
  | true => simp [record, Metrics.recordDelete, Metrics.counters, hremove]
  | false => simp [Metrics.counters, hremove]

theorem counters_shutdown (c : Cluster) (graceMillis : Nat) :
    (c.shutdown graceMillis).2.metrics.counters = c.metrics.counters := by
  unfold shutdown
  dsimp only
  split
  · obtain ⟨g, hdropped⟩ := foldl_conclude c.queue { c with queue := [], closed := true }
    rw [hdropped]
  · exact counters_drain _

end Cluster

/-! ## Outcomes -/

namespace Session

/-- A put that is waited for. -/
def isPut (_ : Session) : Act → Bool
  | .event (.put ..) => true
  | _ => false

/-- A put that is acknowledged. -/
def isAcknowledged (s : Session) : Act → Bool
  | .event (.put key value) => (s.cluster.put key value).1.isOk
  | _ => false

/-- A read of a key that has a replica. -/
def isServedRead (s : Session) : Act → Bool
  | .event (.get key) => !(s.cluster.replicas key).isEmpty
  | _ => false

/-- A delete that answers that it has removed something. -/
def isEffectiveDelete (s : Session) : Act → Bool
  | .event (.delete key) => (s.cluster.delete key).1
  | _ => false

/-- An admission that is accepted. -/
def isAdmission (s : Session) : Act → Bool
  | .event (.addNode id host port) => (s.cluster.addNode id host port).1
  | _ => false

/-- A removal that is accepted. -/
def isRemoval (s : Session) : Act → Bool
  | .event (.removeNode id) => (s.cluster.removeNode id).1
  | _ => false

/-- The number of those acts in a row that pass a test, each in the state in which it happens. -/
def count (test : Session → Act → Bool) (s : Session) : List Act → Nat
  | [] => 0
  | a :: acts => (test s a).toNat + count test (s.act a) acts

/-- A quantity that grows by one in each act that passes a test counts these acts. -/
theorem count_of_act (quantity : Session → Nat) {test : Session → Act → Bool}
    (h : ∀ s a, quantity (s.act a) = quantity s + (test s a).toNat) (s : Session)
    (acts : List Act) : quantity (s.play acts) = quantity s + s.count test acts := by
  induction acts generalizing s with
  | nil => rfl
  | cons a acts ih =>
    have hlater : quantity (s.play (a :: acts)) = quantity (s.act a) + (s.act a).count test acts :=
      ih (s.act a)
    rw [hlater, h, count, Nat.add_assoc]

/-- Each act counts its own outcome, and nothing else. -/
theorem counters_act (s : Session) (a : Act) : (s.act a).cluster.metrics.counters =
    let m := s.cluster.metrics
    { reads := m.reads + (s.isServedRead a).toNat
      writes := m.writes + (s.isAcknowledged a).toNat
      deletes := m.deletes + (s.isEffectiveDelete a).toNat
      failures := m.failures + (s.isPut a && !s.isAcknowledged a).toNat
      nodesAdded := m.nodesAdded + (s.isAdmission a).toNat
      nodesRemoved := m.nodesRemoved + (s.isRemoval a).toNat } := by
  cases a with
  | request unit request => rfl
  | event event =>
    cases event with
    | put key value =>
      have hput := Cluster.counters_put s.cluster key value
      rw [act, step, hput]
      rfl
    | get key =>
      have hget := Cluster.counters_get s.cluster key
      rw [act, step, hget]
      rfl
    | delete key =>
      have hdelete := Cluster.counters_delete s.cluster key
      rw [act, step, hdelete]
      rfl
    | addNode id host port =>
      rw [act, step, Cluster.metrics_addNode, isAdmission]
      cases (s.cluster.addNode id host port).1 with
      | true => rfl
      | false => rfl
    | removeNode id =>
      rw [act, step, Cluster.metrics_removeNode, isRemoval]
      cases (s.cluster.removeNode id).1 with
      | true => rfl
      | false => rfl
    | submit key value => exact congrArg Metrics.counters (Cluster.metrics_submit s.cluster key value)
    | repair key => rfl
    | verify => rfl
    | check down => rfl
    | switch id active => exact congrArg Metrics.counters (Cluster.metrics_switch s.cluster id active)
    | run index => exact Cluster.counters_runAt s.cluster index
    | reorder => rfl
    | drain => exact Cluster.counters_drain s.cluster
    | shutdown graceMillis => exact Cluster.counters_shutdown s.cluster graceMillis

/-- Every put that is waited for is counted, as a write or as a failure. -/
theorem puts_act (s : Session) (a : Act) :
    (s.act a).cluster.metrics.writes + (s.act a).cluster.metrics.failures =
      s.cluster.metrics.writes + s.cluster.metrics.failures + (s.isPut a).toNat := by
  have hput : s.isAcknowledged a = true → s.isPut a = true := by
    intro hacknowledged
    cases a with
    | request => simp [isAcknowledged] at hacknowledged
    | event event =>
      cases event with
      | put => rfl
      | _ => simp [isAcknowledged] at hacknowledged
  have hcounters := counters_act s a
  have hwrites := congrArg Counters.writes hcounters
  have hfailures := congrArg Counters.failures hcounters
  dsimp only [Metrics.counters] at hwrites hfailures
  rw [hwrites, hfailures]
  cases hacknowledged : s.isAcknowledged a with
  | true =>
    rw [hput hacknowledged]
    simp only [Bool.not_true, Bool.and_false, Bool.toNat_true, Bool.toNat_false]
    omega
  | false =>
    simp only [Bool.not_false, Bool.and_true, Bool.toNat_false]
    omega

end Session

/-! ## The number of members -/

namespace Session

variable {s : Session}

theorem length_units_act (s : Session) (a : Act) :
    (s.act a).cluster.fleet.units.length + (s.isRemoval a).toNat =
      s.cluster.fleet.units.length + (s.isAdmission a).toNat := by
  have hother : a.isMembership = false →
      (s.act a).cluster.fleet.units.length = s.cluster.fleet.units.length :=
    fun ha => congrArg List.length (sameMembers_act s ha).units
  cases a with
  | request unit request => exact hother rfl
  | event event =>
    cases event with
    | addNode id host port =>
      have hadmission : s.isAdmission (.event (.addNode id host port)) =
          (s.cluster.addNode id host port).1 := rfl
      have hremoval : s.isRemoval (.event (.addNode id host port)) = false := rfl
      rw [act, step, hadmission, hremoval]
      cases haccepted : (s.cluster.addNode id host port).1 with
      | false => rw [Cluster.addNode_of_refused haccepted]
      | true =>
        obtain ⟨unit, fleet, hadded, hfleet⟩ := Cluster.fleet_addNode_of_accepted haccepted
        have hinserted := (Fleet.admission_of_add? hadded).2.inserted
        rw [hfleet]
        exact Ring.length_units_insert? hinserted
    | removeNode id =>
      have hadmission : s.isAdmission (.event (.removeNode id)) = false := rfl
      have hremoval : s.isRemoval (.event (.removeNode id)) = (s.cluster.removeNode id).1 := rfl
      rw [act, step, hadmission, hremoval]
      cases haccepted : (s.cluster.removeNode id).1 with
      | false => rw [Cluster.removeNode_of_refused haccepted]
      | true => exact Ring.length_units_erase? (Cluster.ring_removeNode_of_accepted haccepted)
    | _ => exact hother rfl

theorem length_units_play (s : Session) (acts : List Act) :
    (s.play acts).cluster.fleet.units.length + s.count isRemoval acts =
      s.cluster.fleet.units.length + s.count isAdmission acts := by
  induction acts generalizing s with
  | nil => rfl
  | cons a acts ih =>
    have hfirst := length_units_act s a
    have hlater := ih (s.act a)
    have hplay : s.play (a :: acts) = (s.act a).play acts := rfl
    rw [hplay, count, count]
    omega

end Session

/-! ## The account of a run -/

namespace Session

/-- A run of a cluster from its start, with requests to single units in between: the counters are the
numbers of the outcomes, the size of the ring follows from them, and no unit id is credited with more
operations than all units ever registered under it have counted. A put that nobody waits for has no
outcome and is no put in this account. -/
theorem outcomes_counted (virtualNodes replicationFactor writeTimeout : Nat)
    (units : List UnitSpec) (acts : List Act) :
    let s := start virtualNodes replicationFactor writeTimeout units
    let final := (s.play acts).cluster
    final.metrics.writes = s.count isAcknowledged acts ∧
      final.metrics.writes + final.metrics.failures = s.count isPut acts ∧
      final.metrics.reads = s.count isServedRead acts ∧
      final.metrics.deletes = s.count isEffectiveDelete acts ∧
      final.metrics.nodesAdded = s.count isAdmission acts ∧
      final.metrics.nodesRemoved = s.count isRemoval acts ∧
      final.fleet.units.length + final.metrics.nodesRemoved =
        s.cluster.fleet.units.length + final.metrics.nodesAdded ∧
      ∀ id, final.metrics.nodeOperations.getD id 0 ≤
        ∑ unit ∈ s.registered acts with unit.id = id, (final.fleet.get unit).operations := by
  intro s final
  have hwrites := count_of_act (·.cluster.metrics.writes)
    (fun s a => congrArg Counters.writes (counters_act s a)) s acts
  have hputs := count_of_act (fun s => s.cluster.metrics.writes + s.cluster.metrics.failures)
    puts_act s acts
  have hreads := count_of_act (·.cluster.metrics.reads)
    (fun s a => congrArg Counters.reads (counters_act s a)) s acts
  have hdeletes := count_of_act (·.cluster.metrics.deletes)
    (fun s a => congrArg Counters.deletes (counters_act s a)) s acts
  have hadded := count_of_act (·.cluster.metrics.nodesAdded)
    (fun s a => congrArg Counters.nodesAdded (counters_act s a)) s acts
  have hremoved := count_of_act (·.cluster.metrics.nodesRemoved)
    (fun s a => congrArg Counters.nodesRemoved (counters_act s a)) s acts
  have hunits := length_units_play s acts
  have htallied := (tallied_start virtualNodes replicationFactor writeTimeout units).play acts
  have hregistered : s.cluster.fleet.units.toFinset ∪ s.registered acts = s.registered acts :=
    Finset.union_eq_right.2 (units_subset_registered s acts)
  rw [hregistered] at htallied
  -- all counters are zero in the beginning
  have hzero : s.cluster.metrics = {} := rfl
  simp only [hzero, Nat.zero_add] at hwrites hputs hreads hdeletes hadded hremoved
  refine ⟨hwrites, hputs, hreads, hdeletes, hadded, hremoved, ?_, htallied.covered⟩
  rw [hadded, hremoved]
  exact hunits

end Session

end QuorumRing
