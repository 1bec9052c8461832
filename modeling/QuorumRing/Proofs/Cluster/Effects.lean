import QuorumRing.Cluster.Bootstrap
import QuorumRing.Cluster.Data
import QuorumRing.Proofs.Cluster.Stints
import QuorumRing.Proofs.Fleet.Inspection

/-!
# What the operations of a cluster do to its fleet

Every operation of a coordinator is described by what becomes of the fleet and of the queue. The
metrics and the registry are of no consequence for the data and stay unnamed.
-/

namespace QuorumRing

/-! ## Verdicts -/

namespace Quorum

/-- Waiting for the outcomes counts the acknowledgements among as many waits as may be made, up to
the number that is asked for. -/
theorem collect_eq {goal seen : Nat} (h : seen ≤ goal) (pending : Nat) (waits : List Wait) :
    collect goal pending seen waits =
      min goal (seen + (waits.take pending).count .acknowledged) := by
  induction waits generalizing pending seen with
  | nil => cases pending <;> simp [collect, h]
  | cons wait waits ih =>
    cases pending with
    | zero => simp [collect, h]
    | succ pending =>
      rw [collect, List.take_succ_cons, List.count_cons]
      by_cases hgoal : seen < goal
      · rw [if_pos hgoal]
        by_cases hwait : wait = .acknowledged
        · rw [if_pos hwait, ih (by omega), hwait]
          simp only [beq_self_eq_true, if_true]
          omega
        · rw [if_neg hwait, ih h]
          simp [hwait]
      · rw [if_neg hgoal]
        omega

/-- A write succeeds if a majority of the units has acknowledged it in the first waits, of which
there is one for each unit; else it tells how many have. -/
theorem judge_eq (n : Nat) (waits : List Wait) : judge n waits =
    if needed n ≤ (waits.take n).count .acknowledged then .ok (needed n)
    else .error (.quorumNotReached (needed n) ((waits.take n).count .acknowledged)) := by
  unfold judge
  dsimp only
  rw [collect_eq (Nat.zero_le _), Nat.zero_add]
  by_cases h : needed n ≤ (waits.take n).count .acknowledged
  · rw [if_pos h, Nat.min_eq_left h, if_neg (Nat.lt_irrefl _)]
  · rw [if_neg h, Nat.min_eq_right (by omega), if_pos (by omega)]

end Quorum

namespace Cluster

variable {c : Cluster} {key value : String}

/-! ## Writing -/

theorem writeAll_snd (c : Cluster) (key value : String) (targets : List UnitRef) :
    ∃ m, (c.writeAll key value targets).2 =
      { c with fleet := (c.fleet.storeOn key value targets).2, metrics := m } := by
  induction targets generalizing c with
  | nil => exact ⟨_, rfl⟩
  | cons target targets ih =>
    obtain ⟨m, hfirst⟩ := write_snd c target key value
    obtain ⟨m', htail⟩ := ih (c.write target key value).2
    refine ⟨m', htail.trans ?_⟩
    rw [hfirst]
    rfl

theorem writeAll_fst (key value : String) {targets : List UnitRef}
    (h : ∀ target ∈ targets, c.fleet.pool.isActive target = true) :
    (c.writeAll key value targets).1 = List.replicate targets.length .acknowledged := by
  induction targets generalizing c with
  | nil => rfl
  | cons target targets ih =>
    obtain ⟨htarget, htargets⟩ := List.forall_mem_cons.1 h
    have hfirst := write_fst c target key value
    rw [htarget, if_pos rfl] at hfirst
    obtain ⟨m, hsnd⟩ := write_snd c target key value
    have hshape := Fleet.sameShape_attempt_put c.fleet target key value
    have htail := ih (c := (c.write target key value).2) fun u hu => by
      rw [hsnd]
      exact (congrFun hshape.active u).trans (htargets u hu)
    exact congrArg₂ List.cons hfirst htail

/-- If all replicas acknowledge, the quorum is reached. -/
theorem judge_acknowledged {n : Nat} (h : 0 < n) :
    Quorum.judge n (List.replicate n .acknowledged) = .ok (Quorum.needed n) := by
  have hneeded : Quorum.needed n ≤ n := by
    unfold Quorum.needed
    omega
  rw [Quorum.judge_eq, List.take_replicate, Nat.min_self, List.count_replicate_self, if_pos hneeded]

theorem store_snd (c : Cluster) (key value : String) {targets : List UnitRef} (h : targets ≠ []) :
    ∃ m, (c.store key value targets).2 = { (c.fanOut key value targets).2 with metrics := m } := by
  unfold store writeQuorum
  rw [if_neg (by simpa using h)]
  dsimp only
  split
  next heq =>
    obtain ⟨-, rfl⟩ := Prod.mk.inj heq
    exact ⟨_, rfl⟩
  next heq =>
    obtain ⟨-, rfl⟩ := Prod.mk.inj heq
    exact ⟨_, rfl⟩

theorem store_fst (c : Cluster) (key value : String) {targets : List UnitRef} (h : targets ≠ []) :
    (c.store key value targets).1 =
      (Quorum.judge targets.length (c.fanOut key value targets).1).map fun _ => () := by
  unfold store writeQuorum
  rw [if_neg (by simpa using h)]
  dsimp only
  split
  next heq =>
    obtain ⟨hjudge, -⟩ := Prod.mk.inj heq
    rw [hjudge]
    rfl
  next heq =>
    obtain ⟨hjudge, -⟩ := Prod.mk.inj heq
    rw [hjudge]
    rfl

/-- A put with time to wait lets every queued task do a stint and writes to all replicas. -/
theorem put_snd_of_open (hopen : c.closed = false) (htime : 0 < c.writeTimeout)
    (hne : c.replicas key ≠ []) (value : String) :
    ∃ m g, (c.put key value).2 =
      { c with
        fleet := ((settled c.replicationFactor c.fleet c.queue).storeOn key value
          (c.replicas key)).2
        queue := rests c.replicationFactor c.fleet c.queue
        metrics := m
        registry := g } := by
  obtain ⟨m, hstore⟩ := store_snd c key value hne
  obtain ⟨m', g, hround⟩ := round_eq c
  obtain ⟨m'', hwrite⟩ := writeAll_snd c.round key value (c.replicas key)
  refine ⟨m, g, ?_⟩
  rw [put, hstore, fanOut, if_neg (by simp [hopen]), if_neg (by omega), hwrite, hround]

/-- A put without time to wait leaves its writes in the queue. -/
theorem put_snd_of_no_time (hopen : c.closed = false) (htime : c.writeTimeout = 0)
    (hne : c.replicas key ≠ []) (value : String) : ∃ m, (c.put key value).2 =
      { c with
        queue := c.queue ++ (c.replicas key).map (.write · key value)
        metrics := m } := by
  obtain ⟨m, hstore⟩ := store_snd c key value hne
  exact ⟨m, by rw [put, hstore, fanOut, if_neg (by simp [hopen]), if_pos htime]⟩

/-- After a shutdown a put does nothing but fail. -/
theorem put_snd_of_closed (hclosed : c.closed = true) (key value : String) :
    ∃ m, (c.put key value).2 = { c with metrics := m } := by
  by_cases hnone : c.replicas key = []
  · refine ⟨c.metrics.recordFailure, ?_⟩
    rw [put, store, hnone, if_pos (by rfl)]
    rfl
  · obtain ⟨m, hstore⟩ := store_snd c key value hnone
    exact ⟨m, by rw [put, hstore, fanOut, if_pos hclosed]⟩

/-- What becomes of the cluster in a put: nothing if there is no replica or the cluster was shut
down, new tasks if there is no time to wait, and else every task does a stint first. -/
theorem put_snd (c : Cluster) (key value : String) :
    (∃ m, (c.put key value).2 = { c with metrics := m }) ∨
    (∃ m, (c.put key value).2 =
      { c with queue := c.queue ++ (c.replicas key).map (.write · key value), metrics := m }) ∨
    (∃ m g, (c.put key value).2 =
      { c with
        fleet := ((settled c.replicationFactor c.fleet c.queue).storeOn key value
          (c.replicas key)).2
        queue := rests c.replicationFactor c.fleet c.queue
        metrics := m
        registry := g }) := by
  by_cases hclosed : c.closed = true
  · exact Or.inl (put_snd_of_closed hclosed key value)
  · have hopen : c.closed = false := by simpa using hclosed
    by_cases hnone : c.replicas key = []
    · refine Or.inl ⟨c.metrics.recordFailure, ?_⟩
      rw [put, store, hnone, if_pos (by rfl)]
      rfl
    · by_cases htime : c.writeTimeout = 0
      · exact Or.inr (Or.inl (put_snd_of_no_time hopen htime hnone value))
      · exact Or.inr (Or.inr (put_snd_of_open hopen (by omega) hnone value))

/-- With time to wait and a replica, a put is acknowledged. -/
theorem put_fst_of_open (hs : c.fleet.ring.Sound) (hopen : c.closed = false)
    (htime : 0 < c.writeTimeout) (hne : c.replicas key ≠ []) (value : String) :
    (c.put key value).1 = .ok () := by
  obtain ⟨m, g, hround⟩ := round_eq c
  have hactive : ∀ u ∈ c.replicas key, c.round.fleet.pool.isActive u = true := by
    intro u hu
    rw [hround]
    refine (congrFun (sameShape_settled _ c.fleet c.queue).active u).trans ?_
    exact Fleet.isActive_of_mem_replicas hs hu
  have hwaits : (c.fanOut key value (c.replicas key)).1 =
      List.replicate (c.replicas key).length .acknowledged := by
    rw [fanOut, hopen, if_neg (by simp), if_neg (by omega), writeAll_fst key value hactive]
  rw [put, store_fst c key value hne, hwaits, judge_acknowledged (List.length_pos_iff.2 hne)]
  rfl

/-! ## Reading -/

/-- Reading changes no copy. -/
theorem readFirst_snd (c : Cluster) (key : String) (units : List UnitRef) :
    ∃ f m, (c.readFirst key units).2 = { c with fleet := f, metrics := m } ∧
      Fleet.SameShape c.fleet f ∧ ∀ w j, f.copy w j = c.fleet.copy w j := by
  induction units generalizing c with
  | nil => exact ⟨_, _, rfl, Fleet.SameShape.refl _, fun _ _ => rfl⟩
  | cons unit units ih =>
    have hshape := Fleet.sameShape_attempt_get c.fleet unit key
    have hcopy := fun w j => Fleet.copy_attempt_get c.fleet unit w key j
    rw [readFirst]
    split
    next value c' h =>
      obtain ⟨-, rfl⟩ := Prod.mk.inj h
      exact ⟨_, _, rfl, hshape, hcopy⟩
    next answer c' hanswer h =>
      obtain ⟨-, rfl⟩ := Prod.mk.inj h
      obtain ⟨f, m, heq, hshape', hcopy'⟩ :=
        ih { c with fleet := (c.fleet.attempt unit (·.get key)).2 }
      exact ⟨f, m, heq, hshape.trans hshape', fun w j => (hcopy' w j).trans (hcopy w j)⟩

theorem readFirst_fst (key : String) {units : List UnitRef}
    (h : ∀ unit ∈ units, c.fleet.pool.isActive unit = true) :
    (c.readFirst key units).1 = units.findSome? (c.fleet.copy · key) := by
  induction units generalizing c with
  | nil => rfl
  | cons unit units ih =>
    obtain ⟨hunit, hunits⟩ := List.forall_mem_cons.1 h
    have hread := Fleet.attempt_get_fst hunit key
    have hshape := Fleet.sameShape_attempt_get c.fleet unit key
    have hcopy := fun w => Fleet.copy_attempt_get c.fleet unit w key key
    rw [readFirst, List.findSome?_cons, attempt]
    dsimp only
    rw [hread]
    cases hheld : c.fleet.copy unit key with
    | some value => rfl
    | none =>
      have htail := ih (c := { c with fleet := (c.fleet.attempt unit (·.get key)).2 })
        fun u hu => (congrFun hshape.active u).trans (hunits u hu)
      simp only [hcopy] at htail
      exact htail

theorem get_snd (c : Cluster) (key : String) :
    ∃ f m, (c.get key).2 = { c with fleet := f, metrics := m } ∧ Fleet.SameShape c.fleet f ∧
      ∀ w j, f.copy w j = c.fleet.copy w j := by
  unfold get
  dsimp only
  split
  · exact ⟨_, _, rfl, Fleet.SameShape.refl _, fun _ _ => rfl⟩
  · obtain ⟨f, m, heq, hshape, hcopy⟩ := readFirst_snd c key (c.replicas key)
    exact ⟨f, _, by rw [heq]; rfl, hshape, hcopy⟩

/-- A read answers with the copy of the closest replica that holds one. -/
theorem get_fst (hs : c.fleet.ring.Sound) (key : String) :
    (c.get key).1 = (c.replicas key).findSome? (c.fleet.copy · key) := by
  unfold get
  dsimp only
  split
  next h => rw [List.isEmpty_iff.1 h, List.findSome?_nil]
  · exact readFirst_fst key fun u hu => Fleet.isActive_of_mem_replicas hs hu

/-! ## Deleting -/

theorem removeFrom_snd (c : Cluster) (key : String) (units : List UnitRef) :
    ∃ f m, (c.removeFrom key units).2 = { c with fleet := f, metrics := m } ∧
      Fleet.SameShape c.fleet f ∧ ∀ w j, f.copy w j =
        if w ∈ units ∧ j = key ∧ c.fleet.pool.isActive w then none else c.fleet.copy w j := by
  induction units generalizing c with
  | nil => exact ⟨_, _, rfl, Fleet.SameShape.refl _, fun _ _ => by simp⟩
  | cons unit units ih =>
    have hshape := Fleet.sameShape_attempt_remove c.fleet unit key
    have hcopy := fun w j => Fleet.copy_attempt_remove c.fleet unit w key j
    have hstep : ∀ m, ∃ f m', (removeFrom
          { c with fleet := (c.fleet.attempt unit (·.remove key)).2, metrics := m } key units).2 =
          { c with fleet := f, metrics := m' } ∧ Fleet.SameShape c.fleet f ∧ ∀ w j, f.copy w j =
            if w ∈ unit :: units ∧ j = key ∧ c.fleet.pool.isActive w then none
            else c.fleet.copy w j := by
      intro m
      obtain ⟨f, m', heq, hshape', hcopy'⟩ :=
        ih { c with fleet := (c.fleet.attempt unit (·.remove key)).2, metrics := m }
      refine ⟨f, m', heq, hshape.trans hshape', fun w j => ?_⟩
      rw [hcopy', hshape.active, hcopy]
      by_cases hw : w = unit
      · subst hw
        cases c.fleet.pool.isActive w <;> by_cases hj : j = key <;> simp [hj]
      · simp [hw]
    rw [removeFrom]
    split
    next value c' h =>
      obtain ⟨-, rfl⟩ := Prod.mk.inj h
      exact hstep _
    next answer c' hanswer h =>
      obtain ⟨-, rfl⟩ := Prod.mk.inj h
      exact hstep c.metrics

theorem removeFrom_fst (key : String) {units : List UnitRef}
    (h : ∀ unit ∈ units, c.fleet.pool.isActive unit = true) :
    (c.removeFrom key units).1 = units.any fun unit => (c.fleet.copy unit key).isSome := by
  induction units generalizing c with
  | nil => rfl
  | cons unit units ih =>
    obtain ⟨hunit, hunits⟩ := List.forall_mem_cons.1 h
    have hremove := Fleet.attempt_remove_fst hunit key
    have hshape := Fleet.sameShape_attempt_remove c.fleet unit key
    have hcopy := fun w => Fleet.copy_attempt_remove c.fleet unit w key key
    rw [removeFrom, List.any_cons, attempt]
    dsimp only
    rw [hremove]
    cases hheld : c.fleet.copy unit key with
    | some value => rfl
    | none =>
      have hsame : ∀ w,
          (c.fleet.attempt unit (·.remove key)).2.copy w key = c.fleet.copy w key := by
        intro w
        rw [hcopy]
        split
        next hw => rw [hw.1, hheld]
        · rfl
      have htail := ih (c := { c with fleet := (c.fleet.attempt unit (·.remove key)).2 })
        fun u hu => (congrFun hshape.active u).trans (hunits u hu)
      simp only [hsame] at htail
      exact htail

theorem delete_snd (hs : c.fleet.ring.Sound) (key : String) :
    ∃ f m, (c.delete key).2 = { c with fleet := f, metrics := m } ∧
      Fleet.SameShape c.fleet f ∧ ∀ w j, f.copy w j =
        if w ∈ c.replicas key ∧ j = key then none else c.fleet.copy w j := by
  obtain ⟨f, m, heq, hshape, hcopy⟩ := removeFrom_snd c key (c.replicas key)
  have hcopy' : ∀ w j, f.copy w j =
      if w ∈ c.replicas key ∧ j = key then none else c.fleet.copy w j := by
    intro w j
    rw [hcopy]
    by_cases hw : w ∈ c.replicas key
    · simp [hw, Fleet.isActive_of_mem_replicas hs hw]
    · simp [hw]
  unfold delete
  dsimp only
  rw [heq]
  split
  · exact ⟨_, _, rfl, hshape, hcopy'⟩
  · exact ⟨_, _, rfl, hshape, hcopy'⟩

/-- A delete answers whether a replica held the key. -/
theorem delete_fst (hs : c.fleet.ring.Sound) (key : String) :
    (c.delete key).1 = (c.replicas key).any fun unit => (c.fleet.copy unit key).isSome :=
  removeFrom_fst key fun _ hu => Fleet.isActive_of_mem_replicas hs hu

/-! ## Changes of membership -/

theorem spawn_eq (c : Cluster) (task : Task) :
    ∃ g, c.spawn task =
      { c with queue := c.queue ++ if c.closed then [] else [task], registry := g } := by
  unfold spawn
  split
  · obtain ⟨g, hconclude⟩ := conclude_eq c task
    exact ⟨g, by rw [hconclude, List.append_nil]⟩
  · exact ⟨_, rfl⟩

theorem launch_eq (c : Cluster) (kind : MigrationKind) (id : String) (task : Registration → Task) :
    ∃ registration g, c.launch kind id task =
      { c with
        queue := c.queue ++ if c.closed then [] else [task registration]
        registry := g } := by
  obtain ⟨g, hspawn⟩ := spawn_eq { c with registry := (c.registry.enter kind id).2 }
    (task (c.registry.enter kind id).1)
  exact ⟨_, g, hspawn⟩

theorem addNode_of_taken {id host : String} {port : UInt16}
    (h : c.fleet.add? { id, host, port } = none) : c.addNode id host port = (false, c) := by
  rw [addNode, h]

theorem addNode_of_free {id host : String} {port : UInt16} {unit : UnitRef} {fleet : Fleet}
    (h : c.fleet.add? { id, host, port } = some (unit, fleet)) :
    (c.addNode id host port).1 = true ∧ ∃ registration m g, (c.addNode id host port).2 =
      { c with
        fleet
        queue := c.queue ++ if c.closed then [] else [.join unit registration]
        metrics := m
        registry := g } := by
  obtain ⟨registration, g, hlaunch⟩ :=
    launch_eq ({ c with fleet }.record (·.recordNodeAdded)) .join id (.join unit)
  rw [addNode, h]
  exact ⟨rfl, registration, _, g, hlaunch⟩

/-- If nothing else is queued, the migration onto a new unit is all that is left to do. -/
theorem drain_addNode (hopen : c.closed = false) (hidle : c.queue = []) {id host : String}
    {port : UInt16} {unit : UnitRef} {fleet : Fleet}
    (h : c.fleet.add? { id, host, port } = some (unit, fleet)) :
    ∃ m g, (c.addNode id host port).2.drain =
      { c with
        fleet := (fleet.migrate unit c.replicationFactor).2, queue := [], metrics := m
        registry := g } := by
  obtain ⟨-, registration, m, g, hadd⟩ := addNode_of_free h
  have hqueue : (c.addNode id host port).2.queue = [.join unit registration] := by
    rw [hadd, hidle, hopen]
    rfl
  obtain ⟨m', g', hdrain⟩ := drain_of_single hqueue
  refine ⟨m', g', hdrain.trans ?_⟩
  rw [hadd]
  rfl

theorem removeNode_of_absent {id : String} (h : c.fleet.ring.get? id = none) :
    c.removeNode id = (false, c) := by
  rw [removeNode, h]

/-- A removal switches the unit off and takes it out of the ring. It queues a task, unless there are
no entries or nobody to take them, or the cluster was shut down. -/
theorem removeNode_of_registered {id : String} {unit : UnitRef}
    (h : c.fleet.ring.get? id = some unit) :
    (c.removeNode id).1 = true ∧ ∃ fleet tail m g, (c.removeNode id).2 =
      { c with fleet, queue := c.queue ++ tail, metrics := m, registry := g } ∧
      (c.fleet.setActive unit false).remove? id = some fleet ∧
      (tail = [] ∧ (c.closed = true ∨ (∀ j, c.fleet.copy unit j = none) ∨ fleet.activeUnits = []) ∨
        ∃ registration, tail = [.leave (c.fleet.get unit).contents.toList registration]) := by
  obtain ⟨fleet, hfleet⟩ : ∃ fleet, (c.fleet.setActive unit false).remove? id = some fleet := by
    obtain ⟨m, hm, -⟩ := Ring.get?_eq_some_iff.1 h
    exact ⟨_, Option.map_eq_some_iff.2 ⟨_, Ring.erase?_eq_some_iff.2 ⟨m, hm, rfl⟩, rfl⟩⟩
  rw [removeNode, h]
  dsimp only
  rw [hfleet]
  dsimp only
  split
  next hidle =>
    refine ⟨rfl, fleet, [], _, c.registry, by rw [List.append_nil]; rfl, rfl,
      Or.inl ⟨rfl, Or.inr ?_⟩⟩
    rcases Bool.or_eq_true_iff.1 hidle with hempty | hnone
    · refine Or.inl fun j => ?_
      rw [Fleet.copy, Std.ExtTreeMap.isEmpty_iff.1 hempty]
      simp
    · exact Or.inr (List.isEmpty_iff.1 hnone)
  next hbusy =>
    obtain ⟨registration, g, hlaunch⟩ :=
      launch_eq ({ c with fleet }.record (·.recordNodeRemoved)) .leave id
        (.leave (c.fleet.get unit).contents.toList)
    refine ⟨rfl, fleet, _, _, g, hlaunch, rfl, ?_⟩
    by_cases hclosed : c.closed = true
    · exact Or.inl ⟨if_pos hclosed, Or.inl hclosed⟩
    · exact Or.inr ⟨registration, if_neg hclosed⟩

theorem removeNode_of_present {id : String} {unit : UnitRef} (hs : c.fleet.ring.Sound)
    (h : c.fleet.ring.get? id = some unit) :
    (c.removeNode id).1 = true ∧ ∃ fleet tail m g, (c.removeNode id).2 =
      { c with fleet, queue := c.queue ++ tail, metrics := m, registry := g } ∧
      Fleet.Departure c.fleet fleet unit ∧
      (tail = [] ∧ (c.closed = true ∨ (∀ j, c.fleet.copy unit j = none) ∨ fleet.activeUnits = []) ∨
        ∃ registration, tail = [.leave (c.fleet.get unit).contents.toList registration]) := by
  obtain ⟨hfound, fleet, tail, m, g, heq, hremoved, htail⟩ := removeNode_of_registered h
  have hdeparture := Fleet.departure_of_remove? hs h hremoved
  exact ⟨hfound, fleet, tail, m, g, heq, hdeparture, htail⟩

/-- Whatever becomes of a removal, at most the entries of the unit are queued. -/
theorem removeNode_snd (c : Cluster) (id : String) : (c.removeNode id).2 = c ∨
    ∃ unit fleet tail m g, (c.removeNode id).2 =
        { c with fleet, queue := c.queue ++ tail, metrics := m, registry := g } ∧
      (c.fleet.setActive unit false).remove? id = some fleet ∧
      ∀ t ∈ tail, ∃ registration, t = .leave (c.fleet.get unit).contents.toList registration := by
  cases hunit : c.fleet.ring.get? id with
  | none =>
    rw [removeNode_of_absent hunit]
    exact Or.inl rfl
  | some unit =>
    obtain ⟨-, fleet, tail, m, g, heq, hremoved, htail⟩ := removeNode_of_registered hunit
    refine Or.inr ⟨unit, fleet, tail, m, g, heq, hremoved, fun t ht => ?_⟩
    rcases htail with ⟨rfl, -⟩ | ⟨registration, rfl⟩
    · exact absurd ht List.not_mem_nil
    · exact ⟨registration, List.mem_singleton.1 ht⟩

/-- If nothing else is queued and somebody is left to take them, the entries of the removed unit are
on the replicas of their keys in the end. -/
theorem drain_removeNode {id : String} {unit : UnitRef} (hs : c.fleet.ring.Sound)
    (hopen : c.closed = false) (hidle : c.queue = []) (h : c.fleet.ring.get? id = some unit) :
    ∃ fleet final m g, (c.removeNode id).2.drain =
        { c with fleet := final, queue := [], metrics := m, registry := g } ∧
      Fleet.Departure c.fleet fleet unit ∧ Fleet.SameShape fleet final ∧
      (fleet.activeUnits ≠ [] → ∀ w j, final.copy w j =
        if w ∈ fleet.replicas j c.replicationFactor then
          (c.fleet.copy unit j).or (fleet.copy w j)
        else fleet.copy w j) := by
  obtain ⟨-, fleet, tail, m, g, hremove, hdeparture, htail⟩ := removeNode_of_present hs h
  rcases htail with ⟨rfl, hnothing⟩ | ⟨registration, rfl⟩
  · refine ⟨fleet, fleet, m, g, ?_, hdeparture, .refl fleet, fun hleft w j => ?_⟩
    · rw [drain_of_queue_eq_nil (by rw [hremove, hidle]; rfl), hremove, hidle]
      rfl
    · have hempty := (hnothing.resolve_left (by simp [hopen])).resolve_right hleft
      rw [hempty, Option.none_or, ite_self]
  · have hqueue : (c.removeNode id).2.queue =
        [.leave (c.fleet.get unit).contents.toList registration] := by
      rw [hremove, hidle]
      rfl
    obtain ⟨m', g', hdrain⟩ := drain_of_single hqueue
    refine ⟨fleet, _, m', g', hdrain.trans (by rw [hremove]), hdeparture, ?_, fun _ w j => ?_⟩
    · exact Fleet.sameShape_redistribute _ _ _
    · exact Fleet.copy_redistribute_contents (hs.erase? hdeparture.erased) _ _ w j

end Cluster

end QuorumRing
