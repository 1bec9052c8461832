import QuorumRing.Proofs.Cluster.Acknowledgement
import QuorumRing.Proofs.Cluster.Acts

/-!
# Reads that survive failures

When replicas of a key fail, other units stand in for them, and these may hold older values of the
key. They come behind the replicas that are left, since failures move nobody in the order of
closeness. So a read finds the value on which the replicas agreed as long as one of them is active
and nobody is active that was not active then.

What value that is does not only depend on the put. A redistribution that has more to do than it does
in a stint may come to the key when the put has long been acknowledged, and store what the removed
unit held (`Session.get_of_survivor_overtaken`). But it stores it on all replicas at once, so that
these agree at any moment (`agreed_stints`).

That the replicas still hold the value is a matter of what has happened since
(`Cluster.Undisturbed`): nobody has worked on the key, and without a change of the ring no migration
has been queued that would.
-/

namespace QuorumRing

namespace Fleet

variable {fleet fleet' : Fleet} {r : Nat} {key value : String}

/-- When units fail and nobody recovers, the others keep their order. -/
theorem ranking_of_failures (hs : fleet.ring.Sound) (hring : fleet'.ring = fleet.ring)
    (hfewer : ∀ unit ∈ fleet'.activeUnits, unit ∈ fleet.activeUnits) (key : String) :
    fleet'.ranking key = (fleet.ranking key).filter fleet'.pool.isActive := by
  unfold ranking
  rw [hring, List.filter_filter]
  refine List.filter_congr fun unit hunit => ?_
  cases hactive : fleet'.pool.isActive unit with
  | false => rw [Bool.false_and]
  | true =>
    have hmember : unit ∈ fleet'.units := by
      rw [units, hring]
      exact (mem_units hs).2 (Ring.get?_of_mem_order hs hunit)
    have hbefore := hfewer unit (mem_activeUnits.2 ⟨hmember, hactive⟩)
    rw [(mem_activeUnits.1 hbefore).2, Bool.and_true]

/-- If the replicas of before the failures hold a value and one of them is left, then the first of
those that are left is the closest active unit. -/
theorem findSome?_of_survivor (hs : fleet.ring.Sound) (hring : fleet'.ring = fleet.ring)
    (hfewer : ∀ unit ∈ fleet'.activeUnits, unit ∈ fleet.activeUnits)
    (hcopies : ∀ unit ∈ fleet.replicas key r, fleet'.copy unit key = some value)
    (hsurvivor : ∃ unit ∈ fleet.replicas key r, fleet'.pool.isActive unit = true) :
    (fleet'.replicas key r).findSome? (fleet'.copy · key) = some value := by
  have hs' : fleet'.ring.Sound := hring ▸ hs
  rw [replicas_eq hs] at hcopies hsurvivor
  obtain ⟨unit, hunit, hactive⟩ := hsurvivor
  have hpos : 0 < r := by
    rcases Nat.eq_zero_or_pos r with rfl | hpos
    · simp at hunit
    · exact hpos
  obtain ⟨first, left, hleft⟩ := List.exists_cons_of_ne_nil
    (List.ne_nil_of_mem (List.mem_filter.2 ⟨hunit, hactive⟩))
  have hfirst : first ∈ (fleet.ranking key).take r := by
    have hmem : first ∈ ((fleet.ranking key).take r).filter fleet'.pool.isActive := by
      rw [hleft]
      exact List.mem_cons_self
    exact (List.mem_filter.1 hmem).1
  -- the stand-ins come from behind the replicas of before
  have hranking : fleet'.ranking key =
      first :: (left ++ ((fleet.ranking key).drop r).filter fleet'.pool.isActive) := by
    rw [ranking_of_failures hs hring hfewer, ← List.cons_append, ← hleft, ← List.filter_append,
      List.take_append_drop]
  rw [replicas_eq hs', hranking]
  obtain ⟨n, rfl⟩ := Nat.exists_eq_succ_of_ne_zero (Nat.ne_of_gt hpos)
  rw [List.take_succ_cons, List.findSome?_cons, hcopies first hfirst]

variable {allowed : String → String → Prop}

/-- Without a change of the ring, a key of which nothing may be stored keeps its copies. -/
theorem Turn.copy_of_forbidden (h : Turn allowed fleet fleet') (hring : fleet'.ring = fleet.ring)
    (hnone : ∀ value, ¬allowed key value) (w : UnitRef) :
    fleet'.copy w key = fleet.copy w key := by
  cases h with
  | work hwork => exact hwork.copy_of_forbidden hnone w
  | switch _ hdata => exact hdata.copy w key
  | join hadded =>
    exact absurd hring (Ring.ne_of_insert? (admission_of_add? hadded).2.inserted)
  | leave _ hdata => exact hdata.copy w key

end Fleet

/-! ## What an acknowledgement says -/

namespace Quorum

theorem judge_of_no_acknowledgement {waits : List Wait} (h : .acknowledged ∉ waits) (n : Nat) :
    judge n waits = .error (.quorumNotReached (needed n) 0) := by
  have hcount : (waits.take n).count .acknowledged = 0 :=
    List.count_eq_zero.2 fun hmem => h (List.mem_of_mem_take hmem)
  rw [judge_eq, hcount, if_neg]
  unfold needed
  omega

end Quorum

namespace Cluster

variable {c c' : Cluster} {key value : String}

/-- A put succeeds only if tasks are taken, there is time to wait and there is a replica. -/
theorem of_put_eq_ok (h : (c.put key value).1 = .ok ()) :
    c.closed = false ∧ 0 < c.writeTimeout ∧ c.replicas key ≠ [] := by
  have hne : c.replicas key ≠ [] := by
    intro hnil
    rw [put_of_replicas_eq_nil hnil] at h
    simp at h
  have hacknowledged : .acknowledged ∈ (c.fanOut key value (c.replicas key)).1 := by
    by_contra hnone
    rw [put, store_fst c key value hne, Quorum.judge_of_no_acknowledgement hnone] at h
    simp [Except.map] at h
  unfold fanOut at hacknowledged
  split at hacknowledged
  · simp at hacknowledged
  next hopen =>
    split at hacknowledged
    · simp at hacknowledged
    next htime => exact ⟨by simpa using hopen, Nat.pos_of_ne_zero htime, hne⟩

/-- A put that is waited for by nobody, or whose tasks are dropped, sees no acknowledgement. -/
theorem put_fst_of_unanswered (h : c.closed = true ∨ c.writeTimeout = 0)
    (hne : c.replicas key ≠ []) (value : String) : (c.put key value).1 =
      .error (.quorumNotReached (Quorum.needed (c.replicas key).length) 0) := by
  have hnone : .acknowledged ∉ (c.fanOut key value (c.replicas key)).1 := by
    unfold fanOut
    split
    · simp
    next hopen =>
      rw [if_pos (h.resolve_left hopen)]
      simp
  rw [put, store_fst c key value hne, Quorum.judge_of_no_acknowledgement hnone]
  rfl

/-! ## What has happened since -/

/-- The second cluster comes from the first one without a change of the ring and without anything
done to the key, nor is anything queued that will be. -/
structure Undisturbed (key : String) (c c' : Cluster) : Prop where
  /-- The ring is the same. -/
  ring : c'.fleet.ring = c.fleet.ring
  /-- The number of replicas is the same. -/
  replicationFactor : c'.replicationFactor = c.replicationFactor
  /-- The copies of the key are the same. -/
  copy : ∀ unit, c'.fleet.copy unit key = c.fleet.copy unit key
  /-- Only writes of other keys are queued. -/
  tasks : ∀ task ∈ c'.queue, ∃ target j value, task = .write target j value ∧ j ≠ key

end Cluster

theorem Act.key?_of_supply? {a : Act} {key value : String} (h : a.supply? = some (key, value)) :
    a.key? = some key := by
  unfold Act.supply? at h
  split at h
  · cases h
    rfl
  · cases h
    rfl
  · cases h
    rfl
  · simp at h

namespace Cluster.Undisturbed

variable {c : Cluster} {s : Session} {key : String}

theorem refl (hidle : c.queue = []) (key : String) : c.Undisturbed key c := by
  refine ⟨rfl, rfl, fun _ => rfl, fun task hmem => ?_⟩
  rw [hidle] at hmem
  exact absurd hmem List.not_mem_nil

theorem act {a : Act} (hs : c.fleet.ring.Sound) (h : c.Undisturbed key s.cluster)
    (hkey : a.key? ≠ some key) (hunits : (s.act a).cluster.fleet.units = c.fleet.units) :
    c.Undisturbed key (s.act a).cluster := by
  have hsame : (s.act a).cluster.fleet.ring = s.cluster.fleet.ring := by
    refine (Session.turn_act s a).ring_of_units (h.ring ▸ hs) (hunits.trans ?_)
    rw [Fleet.units, Fleet.units, h.ring]
  have hother : ∀ j, a.key? = some j → j ≠ key := by
    rintro j hj rfl
    exact hkey hj
  have hturn : Fleet.Turn (fun j _ => j ≠ key) s.cluster.fleet (s.act a).cluster.fleet := by
    refine Session.turn (fun task hmem => ?_) ⟨fun j value hsupply => ?_, fun j hj _ _ _ => ?_⟩
    · obtain ⟨target, j, value, rfl, hne⟩ := h.tasks task hmem
      exact hne
    · exact hother j (Act.key?_of_supply? hsupply)
    · exact hother j hj
  refine ⟨hsame.trans h.ring, (Session.replicationFactor_act s a).trans h.replicationFactor,
    fun unit => ?_, fun task hmem => ?_⟩
  · have hcopy := hturn.copy_of_forbidden hsame (fun _ hne => hne rfl) unit
    exact hcopy.trans (h.copy unit)
  · rcases Session.tasks_act hmem with ⟨old, hold, hleaves⟩ | hfresh
    · obtain ⟨target, j, value, rfl, hne⟩ := h.tasks old hold
      exact ⟨target, j, value, hleaves.eq_write, hne⟩
    · cases hfresh with
      | write target supply =>
        exact ⟨target, _, _, rfl, hother _ (Act.key?_of_supply? supply)⟩
      | join _ _ hchanged => exact absurd hsame hchanged
      | leave _ _ hchanged => exact absurd hsame hchanged

theorem play {acts : List Act} (hs : c.fleet.ring.Sound) (h : c.Undisturbed key s.cluster)
    (hkey : ∀ a ∈ acts, a.key? ≠ some key)
    (hunits : ∀ n ≤ acts.length, (s.play (acts.take n)).cluster.fleet.units = c.fleet.units) :
    c.Undisturbed key (s.play acts).cluster := by
  induction acts generalizing s with
  | nil => exact h
  | cons a acts ih =>
    obtain ⟨hfirst, htail⟩ := List.forall_mem_cons.1 hkey
    have hnow : (s.act a).cluster.fleet.units = c.fleet.units :=
      hunits 1 (Nat.le_add_left 1 acts.length)
    exact ih (h.act hs hfirst hnow) htail fun n hn => hunits (n + 1) (Nat.succ_le_succ hn)

end Cluster.Undisturbed

/-! ## What the older tasks have left to do -/

/-- If all replicas of a key hold the same value, they still do after stints of tasks that do not write
the key: a redistribution stores an entry on all replicas within one stint, if at all. -/
theorem agreed_stints (allowed : String → Prop) {key : String} {r : Nat} {fleet fleet' : Fleet}
    {queue queue' : List Task} (hs : fleet.ring.Sound)
    (hkeys : ∀ task ∈ queue, task.key? ≠ some key)
    (hcarried : ∀ task ∈ queue, ∀ w, task.Carries key w → allowed w)
    (hheld : ∃ w, allowed w ∧ ∀ unit ∈ fleet.replicas key r, fleet.copy unit key = some w)
    (hstints : Stints r fleet queue fleet' queue') :
    ∃ w, allowed w ∧ ∀ unit ∈ fleet.replicas key r, fleet'.copy unit key = some w := by
  refine hstints.induction (P := fun f _ => ∃ w, allowed w ∧
    ∀ unit ∈ fleet.replicas key r, f.copy unit key = some w) hheld ?_ fun _ _ _ _ hagreed => hagreed
  rintro f q index task hbefore queued ⟨w, hallowed, hcopies⟩
  have hmem : task ∈ q := List.mem_of_getElem? queued
  have hshape := hbefore.sameShape
  obtain ⟨stored, hstored, hcopy⟩ := Task.copy_effect_of_mem_replicas (hshape.ring ▸ hs) r
    (hbefore.key?_ne hkeys task hmem)
  have hafter : ∀ unit ∈ fleet.replicas key r,
      (task.effect r f).copy unit key = stored.or (some w) := by
    intro unit hunit
    rw [hcopy unit (by rwa [hshape.replicas]) (by rw [hcopies unit hunit]; rfl), hcopies unit hunit]
  cases stored with
  | none => exact ⟨w, hallowed, hafter⟩
  | some v => exact ⟨v, hbefore.carried hcarried task hmem v (hstored v rfl), hafter⟩

/-- When a put has been acknowledged and the queue is drained, all replicas hold the same value: that
of the put, unless a redistribution had another one left to store. -/
theorem Cluster.agreed_drain_put {c : Cluster} (hs : c.fleet.ring.Sound) (hopen : c.closed = false)
    (htime : 0 < c.writeTimeout) {key : String} (hne : c.replicas key ≠ []) (value : String) :
    let after := (c.put key value).2
    Fleet.SameShape c.fleet after.drain.fleet ∧ after.drain.queue = [] ∧
      after.drain.replicationFactor = c.replicationFactor ∧
      ∃ w, (w = value ∨ ∃ entries registration,
          Task.leave entries registration ∈ after.queue ∧ (key, w) ∈ entries) ∧
        ∀ unit ∈ c.replicas key, after.drain.fleet.copy unit key = some w := by
  intro after
  obtain ⟨hqueue, hshape, hfactor, hcopies⟩ := put_of_open hs hopen htime hne value
  obtain ⟨f, m, g, hdrain, hstints⟩ := drain_eq after
  rw [hdrain]
  refine ⟨hshape.trans hstints.sameShape, rfl, hfactor, ?_⟩
  -- what is queued is left of older tasks
  have hleft : ∀ left ∈ after.queue, ∃ task fleet, Task.rest fleet task = some left := by
    intro left hmem
    rw [hqueue] at hmem
    obtain ⟨task, -, fleet, hrest⟩ := mem_queue_round hmem
    exact ⟨task, fleet, hrest⟩
  have hkeys : ∀ left ∈ after.queue, left.key? ≠ some key := by
    intro left hmem
    obtain ⟨task, fleet, hrest⟩ := hleft left hmem
    rw [Task.key?_rest hrest]
    simp
  have hagreed := agreed_stints (fun w => w = value ∨ ∃ entries registration,
    Task.leave entries registration ∈ after.queue ∧ (key, w) ∈ entries) (hshape.ring ▸ hs) hkeys
    (fun left hmem w hcarries => ?_) ⟨value, Or.inl rfl, ?_⟩ hstints
  · rwa [hshape.replicas, hfactor] at hagreed
  · obtain ⟨task, fleet, hrest⟩ := hleft left hmem
    obtain ⟨entries, registration, rfl, hentry⟩ := Task.leave_of_rest hrest hcarries
    exact Or.inr ⟨entries, registration, hmem, hentry⟩
  · rw [hshape.replicas, hfactor]
    exact hcopies

namespace Session

variable {virtualNodes replicationFactor writeTimeout : Nat} {units : List UnitSpec}

/-- A put has been acknowledged and the queue drained. Later, units may have failed and recovered in
any way, and other keys may have been worked on: if the members have stayed the same throughout,
nobody is active that was not active then and one of the replicas of then is active, a read finds the
value that all replicas held then. This is the value of the put, or one that a redistribution had left
to store when the put was acknowledged. -/
theorem get_of_survivor (before : List Act) (key value : String) :
    let s := (start virtualNodes replicationFactor writeTimeout units).play before
    let t := (s.act (.event (.put key value))).act (.event .drain)
    (s.cluster.put key value).1 = .ok () →
    ∃ w, (w = value ∨ ∃ entries registration,
        Task.leave entries registration ∈ (s.cluster.put key value).2.queue ∧ (key, w) ∈ entries) ∧
      ∀ later : List Act,
        (∀ a ∈ later, a.key? ≠ some key) →
        (∀ n ≤ later.length,
          (t.play (later.take n)).cluster.fleet.units = t.cluster.fleet.units) →
        (∀ unit ∈ (t.play later).cluster.fleet.activeUnits, unit ∈ t.cluster.fleet.activeUnits) →
        (∃ unit ∈ t.cluster.replicas key,
          (t.play later).cluster.fleet.pool.isActive unit = true) →
        ((t.play later).cluster.get key).1 = some w := by
  intro s t hok
  obtain ⟨hopen, htime, hne⟩ := Cluster.of_put_eq_ok hok
  have hsound : s.cluster.fleet.ring.Sound :=
    sound_play (working_start virtualNodes replicationFactor writeTimeout units).sound before
  obtain ⟨hshape, hidle, hfactor, w, hw, hcopies⟩ :=
    Cluster.agreed_drain_put hsound hopen htime hne value
  have ht : t.cluster = (s.cluster.put key value).2.drain := rfl
  rw [← ht] at hshape hidle hfactor hcopies
  have hsound' : t.cluster.fleet.ring.Sound := hshape.ring ▸ hsound
  have hreplicas : t.cluster.replicas key = s.cluster.replicas key := by
    rw [Cluster.replicas, hfactor]
    exact hshape.replicas key _
  refine ⟨w, hw, fun later hkey hunits hfewer hsurvivor => ?_⟩
  have hundisturbed : t.cluster.Undisturbed key (t.play later).cluster :=
    (Cluster.Undisturbed.refl hidle key).play hsound' hkey hunits
  have hheld : ∀ unit ∈ t.cluster.replicas key,
      (t.play later).cluster.fleet.copy unit key = some w := by
    intro unit hunit
    rw [hundisturbed.copy]
    exact hcopies unit (hreplicas ▸ hunit)
  rw [Cluster.get_fst (hundisturbed.ring ▸ hsound'), Cluster.replicas,
    hundisturbed.replicationFactor]
  exact Fleet.findSome?_of_survivor hsound' hundisturbed.ring hfewer hheld hsurvivor

set_option maxRecDepth 4096 in
/-- The closest replica fails in a health check, and the unit that stands in for it holds an older
value. -/
theorem get_of_survivor_stale_standin :
    let units : List UnitSpec := [⟨"a", "localhost", 8000⟩, ⟨"b", "localhost", 8001⟩,
      ⟨"c", "localhost", 8002⟩]
    let before : List Act := [.event (.switch "c" false), .event (.put "x" "old"),
      .event (.switch "c" true)]
    let s := (start 1 2 5000 units).play before
    let t := (s.act (.event (.put "x" "new"))).act (.event .drain)
    let later : List Act := [.event (.check ["b"]), .event (.submit "k" "v"), .event (.run 0),
      .event (.check ["c"]), .request ⟨"a", 0⟩ (.put "y" "w"), .event .verify]
    (t.cluster.replicas "x").map (·.id) = ["c", "b"] ∧
      ((t.play later).cluster.replicas "x").map (·.id) = ["b", "a"] ∧
      (t.play later).cluster.fleet.copy ⟨"a", 0⟩ "x" = some "old" ∧
      ((t.play later).cluster.get "x").1 = some "new" := by
  intro units before s t later
  have h : (s.cluster.put "x" "new").1 = .ok () ∧
      (s.cluster.put "x" "new").2.queue.isEmpty = true ∧ (∀ a ∈ later, a.key? ≠ some "x") ∧
      (∀ n ≤ later.length,
        (t.play (later.take n)).cluster.fleet.units = t.cluster.fleet.units) ∧
      (∀ unit ∈ (t.play later).cluster.fleet.activeUnits, unit ∈ t.cluster.fleet.activeUnits) ∧
      (∃ unit ∈ t.cluster.replicas "x",
        (t.play later).cluster.fleet.pool.isActive unit = true) ∧
      (t.cluster.replicas "x").map (·.id) = ["c", "b"] ∧
      ((t.play later).cluster.replicas "x").map (·.id) = ["b", "a"] ∧
      (t.play later).cluster.fleet.copy ⟨"a", 0⟩ "x" = some "old" := by
    decide +kernel
  obtain ⟨hok, hidle, hkey, hunits, hfewer, hsurvivor, hbefore, hafter, hstale⟩ := h
  -- now the hypotheses of the theorem can be told to be these without running the session
  subst t s
  obtain ⟨w, hw, hread⟩ := get_of_survivor before "x" "new" hok
  rcases hw with rfl | ⟨entries, registration, hmem, -⟩
  · exact ⟨hbefore, hafter, hstale, hread later hkey hunits hfewer hsurvivor⟩
  · rw [List.isEmpty_iff.1 hidle] at hmem
    exact absurd hmem List.not_mem_nil

/-- If not all entries are served at first, the last one is among those that are left. -/
theorem lookup_drop_of_greatest {contents : Contents} {key value : String} {n : Nat}
    (hheld : contents[key]? = some value) (hgreatest : ∀ other ∈ contents, ¬key < other)
    (hlong : n < contents.toList.length) :
    (contents.toList.drop n).reverse.lookup key = some value := by
  have hmem := Std.ExtTreeMap.mem_toList_iff_getElem?_eq_some.2 hheld
  have hordered := contents.ordered_keys_toList
  have hdistinct := (contents.distinct_keys_toList.imp fun h =>
    (Std.ReflCmp.ne_of_cmp_ne_eq h).symm).sublist (List.drop_sublist n _)
  rw [← List.take_append_drop n contents.toList] at hmem hordered
  refine Fleet.lookup_of_distinct (List.pairwise_reverse.2 hdistinct) (List.mem_reverse.2 ?_)
  refine (List.mem_append.1 hmem).resolve_left fun hfirst => ?_
  obtain ⟨⟨other, v⟩, hother⟩ := List.exists_mem_of_length_pos
    (l := contents.toList.drop n) (by rw [List.length_drop]; omega)
  have hless := (List.pairwise_append.1 hordered).2.2 _ hfirst _ hother
  refine hgreatest other ?_ (compare_lt_iff_lt.1 hless)
  have hentry := Std.ExtTreeMap.mem_toList_iff_getElem?_eq_some.1 (List.mem_of_mem_drop hother)
  rw [Std.ExtTreeMap.mem_iff_isSome_getElem?, hentry]
  rfl

/-- The redistribution of a removed unit that holds more keys than it serves in a stint comes to the
last of them after the put of that key. -/
theorem get_of_survivor_overtaken {n : Nat} (hlong : Task.stint ≤ n) :
    let s := (start 1 2 5000 [⟨"a", "localhost", 8000⟩, ⟨"b", "localhost", 8001⟩]).run
      (((List.range n).map fun i => .put ("k" ++ toString i) "old") ++
        [.put "z" "old", .removeNode "a"])
    let t := (s.step (.put "z" "new")).step .drain
    (s.cluster.put "z" "new").1 = .ok () ∧ t.cluster.queue = [] ∧
      (∃ unit ∈ t.cluster.replicas "z", t.cluster.fleet.pool.isActive unit = true) ∧
      (t.cluster.get "z").1 = some "old" := by
  intro s t
  let entries := ((List.range n).map fun i => ("k" ++ toString i, "old")) ++ [("z", "old")]
  have hputs : entries.map (fun entry => Event.put entry.1 entry.2) =
      ((List.range n).map fun i => .put ("k" ++ toString i) "old") ++ [.put "z" "old"] := by
    rw [List.map_append, List.map_map]
    rfl
  have hkeys : entries.map (·.1) = ((List.range n).map fun i => "k" ++ toString i) ++ ["z"] := by
    rw [List.map_append, List.map_map]
    rfl
  have hless : ∀ i : Nat, ¬"z" < "k" ++ toString i := by
    intro i h
    rw [String.lt_iff_toList_lt, String.toList_append] at h
    simp [List.cons_lt_cons_iff] at h
  have hdistinct : (entries.map (·.1)).Nodup := by
    rw [hkeys, List.nodup_append]
    refine ⟨List.nodup_range.map fun i j heq => append_decimal_inj.1 heq, List.nodup_singleton _, ?_⟩
    intro key hkey z hz heq
    obtain ⟨i, -, rfl⟩ := List.mem_map.1 hkey
    have hfirst := congrArg (·.toList.head?) (heq.trans (List.mem_singleton.1 hz))
    simp at hfirst
  have hentries : entries ≠ [] := by simp [entries]
  have htwo := leave_of_two hentries
  rw [hputs, List.append_assoc] at htwo
  obtain ⟨⟨contents, registration, hqueue, hcontents⟩, hsound, hopen, htime, hne⟩ := htwo
  have hlength := length_le_of_lookup hcontents hdistinct
  have hmore : Task.stint < contents.toList.length := by
    simp only [entries, List.length_append, List.length_map, List.length_range,
      List.length_singleton] at hlength
    omega
  -- the entry of the put that came before is not served in the first stint
  have hleft : (contents.toList.drop Task.stint).reverse.lookup "z" = some "old" := by
    have hheld : contents["z"]? = some "old" := by
      rw [hcontents, List.reverse_append]
      rfl
    refine lookup_drop_of_greatest hheld (fun other hother => ?_) hmore
    rw [Std.ExtTreeMap.mem_iff_isSome_getElem?, hcontents, Fleet.lookup_reverse_isSome, hkeys,
      List.mem_append, List.mem_singleton] at hother
    rcases hother with hmany | rfl
    · obtain ⟨i, -, rfl⟩ := List.mem_map.1 hmany
      exact hless i
    · exact lt_irrefl "z"
  exact Cluster.get_drain_put_of_leave hsound hopen htime (hne "z") hqueue hmore hleft "new"

/-- This happens as soon as there is one such key. -/
theorem older_value_after_drain :
    let s := (start 1 2 5000 [⟨"a", "localhost", 8000⟩, ⟨"b", "localhost", 8001⟩]).run
      (((List.range 256).map fun i => .put ("k" ++ toString i) "old") ++
        [.put "z" "old", .removeNode "a"])
    let t := (s.step (.put "z" "new")).step .drain
    (s.cluster.put "z" "new").1 = .ok () ∧ t.cluster.queue = [] ∧
      (∃ unit ∈ t.cluster.replicas "z", t.cluster.fleet.pool.isActive unit = true) ∧
      (t.cluster.get "z").1 = some "old" :=
  get_of_survivor_overtaken (by decide)

end Session

end QuorumRing
