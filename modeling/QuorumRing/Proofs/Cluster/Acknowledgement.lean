import QuorumRing.Proofs.Cluster.Survival
import QuorumRing.Proofs.Cluster.Work
import QuorumRing.Proofs.Text.Numerals

/-!
# Reading what was acknowledged

A put waits behind everything that was queued before it. The tasks that do a stint meanwhile may store
older values of the key on its replicas, or take copies away from them, but none of them changes the
ring or the liveness of a unit. So the replicas are still the same when the writes of the put run,
which come behind these stints, and a read finds what they stored (`Cluster.put_of_open`).

What the tasks have left to do goes on after the put. A redistribution may then come to an entry of
the key that is older than the put, and store it on the replicas again
(`Cluster.copy_drain_put_of_leave`). More than that cannot happen, in whatever order stints and writes
follow each other: a replica on which the write has run holds the value of the put or one that an older
task carried (`underway_stints`).
-/

namespace QuorumRing

/-! ## Writes that are under way -/

section Underway

variable {allowed : String → Prop} {key value : String} {r : Nat} {fleet fleet' : Fleet}
  {queue queue' : List Task} {task : Task} {unit : UnitRef}

/-- After a stint of a task that carries allowed values only, a replica that held an allowed value
still does. -/
theorem Task.held_effect (hs : fleet.ring.Sound) (hunit : unit ∈ fleet.replicas key r)
    (hcarried : ∀ w, task.Carries key w → allowed w)
    (hheld : ∃ w, fleet.copy unit key = some w ∧ allowed w) :
    ∃ w, (task.effect r fleet).copy unit key = some w ∧ allowed w := by
  obtain ⟨w, hw, hallowed⟩ := hheld
  by_cases hkey : task.key? = some key
  · cases task with
    | write target j v =>
      obtain rfl := Option.some.inj hkey
      rw [effect, Fleet.copy_attempt_put]
      split
      · exact ⟨v, rfl, hcarried v ⟨rfl, rfl⟩⟩
      · exact ⟨w, hw, hallowed⟩
    | join | pull | leave => simp [key?] at hkey
  · obtain ⟨stored, hstored, hcopy⟩ := copy_effect_of_mem_replicas hs r hkey
    rw [hcopy unit hunit (by rw [hw]; rfl), hw]
    cases stored with
    | none => exact ⟨w, rfl, hallowed⟩
    | some v => exact ⟨v, rfl, hcarried v (hstored v rfl)⟩

/-- Whatever comes first, a replica has the write ahead of it or holds a value that is allowed, if the
tasks carry no others. -/
theorem underway_stints (allowed : String → Prop) (hs : fleet.ring.Sound)
    (hcarried : ∀ task ∈ queue, ∀ w, task.Carries key w → allowed w)
    (hqueued : ∀ unit ∈ fleet.replicas key r, .write unit key value ∈ queue)
    (hstints : Stints r fleet queue fleet' queue') :
    ∀ unit ∈ fleet.replicas key r, .write unit key value ∈ queue' ∨
      ∃ w, fleet'.copy unit key = some w ∧ allowed w := by
  intro unit hunit
  refine hstints.induction (P := fun f q => .write unit key value ∈ q ∨
    ∃ w, f.copy unit key = some w ∧ allowed w) (Or.inl (hqueued unit hunit)) ?_ ?_
  · intro f q index task hbefore queued hheld
    have hmem : task ∈ q := List.mem_of_getElem? queued
    have hshape := hbefore.sameShape
    have hreplica : unit ∈ f.replicas key r := by rwa [hshape.replicas]
    have hallowed := hbefore.carried hcarried task hmem
    rcases hheld with hwrite | hheld
    · rcases (mem_queue_iff queued).1 hwrite with rfl | hother
      · have hactive := Fleet.isActive_of_mem_replicas (hshape.ring ▸ hs) hreplica
        refine Or.inr ⟨value, ?_, hallowed value ⟨rfl, rfl⟩⟩
        rw [Task.effect, Fleet.copy_attempt_put, if_pos ⟨rfl, rfl, hactive⟩]
      · exact Or.inl (List.mem_append_left _ hother)
    · exact Or.inr (Task.held_effect (hshape.ring ▸ hs) hreplica hallowed hheld)
  · intro f q index entries hheld
    exact hheld.imp_left fun hwrite => (mem_modify_queue index (·.reorder entries) hwrite).elim id id

end Underway

namespace Cluster

variable {c : Cluster} {key value : String} {entries : List (String × String)}
  {registration : Registration}

/-- After a put with time to wait all replicas hold the value. Queued is what the older tasks have left
after a stint each. -/
theorem put_of_open (hs : c.fleet.ring.Sound) (hopen : c.closed = false)
    (htime : 0 < c.writeTimeout) (hne : c.replicas key ≠ []) (value : String) :
    let after := (c.put key value).2
    after.queue = c.round.queue ∧ Fleet.SameShape c.fleet after.fleet ∧
      after.replicationFactor = c.replicationFactor ∧
      ∀ unit ∈ c.replicas key, after.fleet.copy unit key = some value := by
  obtain ⟨m, g, hput⟩ := put_snd_of_open hopen htime hne value
  obtain ⟨m', g', hround⟩ := round_eq c
  rw [hput, hround]
  -- what runs before the writes of the put leaves the placement of the key alone
  have hsettled := sameShape_settled c.replicationFactor c.fleet c.queue
  refine ⟨rfl, hsettled.trans (Fleet.sameShape_storeOn _ key value _), rfl, fun unit hunit => ?_⟩
  have hactive := Fleet.isActive_of_mem_replicas hs hunit
  rw [← hsettled.active] at hactive
  exact (Fleet.copy_storeOn _ key value _ unit key).trans (if_pos ⟨hunit, rfl, hactive⟩)

theorem mem_queue_round {left : Task} (h : left ∈ c.round.queue) :
    ∃ task ∈ c.queue, ∃ fleet, task.rest fleet = some left := by
  obtain ⟨m, g, hround⟩ := round_eq c
  rw [hround] at h
  exact mem_rests h

/-- A read finds a value that all replicas hold. -/
theorem get_of_copies {value : String} (hs : c.fleet.ring.Sound) (hne : c.replicas key ≠ [])
    (hcopies : ∀ unit ∈ c.replicas key, c.fleet.copy unit key = some value) :
    (c.get key).1 = some value :=
  (get_fst hs key).trans (Fleet.findSome?_eq_of_forall hcopies fun hnil => absurd hnil hne)

/-- Without a replica a put fails before anything is queued or run. -/
theorem put_of_replicas_eq_nil (hnil : c.replicas key = []) (value : String) :
    c.put key value = (.error .noActiveUnits, c.record (·.recordFailure)) := by
  rw [put, store, hnil, if_pos (by rfl)]

/-! ## Puts that overtake a redistribution -/

/-- A redistribution that takes longer than a stint has entries left after a put. -/
theorem queue_put_of_leave (hopen : c.closed = false) (htime : 0 < c.writeTimeout)
    (hne : c.replicas key ≠ []) (hqueue : c.queue = [.leave entries registration])
    (hlong : Task.stint < entries.length) (value : String) :
    (c.put key value).2.queue = [.leave (entries.drop Task.stint) registration] := by
  obtain ⟨m, g, hput⟩ := put_snd_of_open hopen htime hne value
  rw [hput, hqueue]
  show ((Task.remainder? entries).map (Task.leave · registration)).toList ++ [] = _
  rw [Task.remainder?_eq_some_iff.2 ⟨hlong, rfl⟩, Option.map_some, Option.toList_some,
    List.append_nil]

/-- The entries that are left are stored in the end, over the values of the put. -/
theorem copy_drain_put_of_leave (hs : c.fleet.ring.Sound) (hopen : c.closed = false)
    (htime : 0 < c.writeTimeout) (hne : c.replicas key ≠ [])
    (hqueue : c.queue = [.leave entries registration]) (hlong : Task.stint < entries.length)
    (value : String) :
    let after := (c.put key value).2.drain
    after.queue = [] ∧ Fleet.SameShape c.fleet after.fleet ∧
      after.replicationFactor = c.replicationFactor ∧
      ∀ unit ∈ c.replicas key, after.fleet.copy unit key =
        ((entries.drop Task.stint).reverse.lookup key).or (some value) := by
  obtain ⟨-, hshape, hfactor, hcopies⟩ := put_of_open hs hopen htime hne value
  obtain ⟨m, g, hdrain⟩ := drain_of_single (queue_put_of_leave hopen htime hne hqueue hlong value)
  rw [hdrain]
  refine ⟨rfl, hshape.trans (Fleet.sameShape_redistribute _ _ _), hfactor, fun unit hunit => ?_⟩
  have hunit' : unit ∈ (c.put key value).2.fleet.replicas key c.replicationFactor := by
    rwa [hshape.replicas]
  show ((c.put key value).2.fleet.redistribute _ (entries.drop Task.stint)).2.copy unit key = _
  rw [hfactor, Fleet.copy_redistribute (hshape.ring ▸ hs), if_pos hunit', hcopies unit hunit]

/-- So a read finds what the last of them has for the key, although the put was acknowledged. -/
theorem get_drain_put_of_leave {older : String} (hs : c.fleet.ring.Sound)
    (hopen : c.closed = false) (htime : 0 < c.writeTimeout) (hne : c.replicas key ≠ [])
    (hqueue : c.queue = [.leave entries registration]) (hlong : Task.stint < entries.length)
    (hleft : (entries.drop Task.stint).reverse.lookup key = some older) (value : String) :
    let after := (c.put key value).2.drain
    (c.put key value).1 = .ok () ∧ after.queue = [] ∧
      (∃ unit ∈ after.replicas key, after.fleet.pool.isActive unit = true) ∧
      (after.get key).1 = some older := by
  intro after
  obtain ⟨hidle, hshape, hfactor, hcopies⟩ :=
    copy_drain_put_of_leave hs hopen htime hne hqueue hlong value
  have hsound : after.fleet.ring.Sound := hshape.ring ▸ hs
  have hreplicas : after.replicas key = c.replicas key := by
    rw [replicas, hfactor]
    exact hshape.replicas key _
  rw [← hreplicas] at hcopies
  have hne' : after.replicas key ≠ [] := by rwa [hreplicas]
  obtain ⟨unit, hunit⟩ := List.exists_mem_of_ne_nil _ hne'
  refine ⟨put_fst_of_open hs hopen htime hne value, hidle,
    ⟨unit, hunit, Fleet.isActive_of_mem_replicas hsound hunit⟩, ?_⟩
  refine get_of_copies hsound hne' fun w hw => ?_
  rw [hcopies w hw, hleft, Option.some_or]

/-- If the removed unit holds something and somebody is left to take it, that is what is queued. -/
theorem removeNode_of_busy {id : String} {unit other : UnitRef} (hs : c.fleet.ring.Sound)
    (hopen : c.closed = false) (hidle : c.queue = []) (hget : c.fleet.ring.get? id = some unit)
    (hheld : (c.fleet.copy unit key).isSome) (hother : other ∈ c.fleet.activeUnits)
    (hne : other ≠ unit) : ∃ fleet registration m g, (c.removeNode id).2 =
      { c with
        fleet
        queue := [.leave (c.fleet.get unit).contents.toList registration]
        metrics := m
        registry := g } ∧ Fleet.Departure c.fleet fleet unit := by
  obtain ⟨-, fleet, tail, m, g, hremove, hdeparture, htail⟩ := removeNode_of_present hs hget
  rcases htail with ⟨-, hclosed | hnothing | hnone⟩ | ⟨registration, rfl⟩
  · rw [hopen] at hclosed
    exact Bool.noConfusion hclosed
  · rw [hnothing] at hheld
    exact Bool.noConfusion hheld
  · have hleft := (hdeparture.mem_activeUnits hs).2 ⟨hother, hne⟩
    rw [hnone] at hleft
    exact absurd hleft List.not_mem_nil
  · rw [hidle] at hremove
    exact ⟨fleet, registration, m, g, hremove, hdeparture⟩

end Cluster

namespace Session

variable {s : Session}

/-- If nothing is queued, puts one after the other store what they are given. -/
theorem run_puts (hopen : s.cluster.closed = false) (htime : 0 < s.cluster.writeTimeout)
    (hidle : s.cluster.queue = []) (entries : List (String × String)) :
    ∃ m g, (s.run (entries.map fun entry => .put entry.1 entry.2)).cluster =
      { s.cluster with
        fleet := (s.cluster.fleet.redistribute s.cluster.replicationFactor entries).2
        metrics := m
        registry := g } := by
  induction entries generalizing s with
  | nil => exact ⟨_, _, rfl⟩
  | cons entry entries ih =>
    obtain ⟨key, value⟩ := entry
    have hfirst : ∃ m g, (s.step (.put key value)).cluster =
        { s.cluster with
          fleet := (s.cluster.fleet.storeOn key value (s.cluster.replicas key)).2
          metrics := m
          registry := g } := by
      by_cases hnil : s.cluster.replicas key = []
      · rw [step, Cluster.put_of_replicas_eq_nil hnil, hnil]
        exact ⟨_, _, rfl⟩
      · obtain ⟨m, g, hput⟩ := Cluster.put_snd_of_open hopen htime hnil value
        rw [hidle] at hput
        exact ⟨m, g, by rw [step, hput]; dsimp only; rw [hidle]; rfl⟩
    obtain ⟨m, g, hfirst⟩ := hfirst
    obtain ⟨m', g', hlater⟩ := ih (s := s.step (.put key value)) (by rw [hfirst]; exact hopen)
      (by rw [hfirst]; exact htime) (by rw [hfirst]; exact hidle)
    refine ⟨m', g', ?_⟩
    show ((s.step (.put key value)).run _).cluster = _
    rw [hlater, hfirst, Fleet.redistribute_cons]
    rfl

/-- If a unit takes part in all puts, then its redistribution is about all of them. -/
theorem leave_after_puts {id : String} {unit other : UnitRef} (hs : s.cluster.fleet.ring.Sound)
    (hu : s.cluster.fleet.ring.Undisputed) (hv : 0 < s.cluster.fleet.ring.virtualNodes)
    (hopen : s.cluster.closed = false) (htime : 0 < s.cluster.writeTimeout)
    (hidle : s.cluster.queue = []) (hget : s.cluster.fleet.ring.get? id = some unit)
    (hfew : s.cluster.fleet.activeUnits.length ≤ s.cluster.replicationFactor)
    (hunit : unit ∈ s.cluster.fleet.activeUnits) (hother : other ∈ s.cluster.fleet.activeUnits)
    (hne : other ≠ unit) (hempty : ∀ key, s.cluster.fleet.copy unit key = none)
    {entries : List (String × String)} (hentries : entries ≠ []) :
    let c := (s.run ((entries.map fun entry => .put entry.1 entry.2) ++ [.removeNode id])).cluster
    (∃ (contents : Contents) (registration : Registration),
      c.queue = [.leave contents.toList registration] ∧
        ∀ key, contents[key]? = entries.reverse.lookup key) ∧
      c.fleet.ring.Sound ∧ c.closed = false ∧ 0 < c.writeTimeout ∧
      ∀ key, other ∈ c.replicas key := by
  intro c
  obtain ⟨m, g, hputs⟩ := run_puts hopen htime hidle entries
  have hc : c = ((s.run (entries.map fun entry => .put entry.1 entry.2)).cluster.removeNode id).2 :=
    congrArg cluster (run_append s _ _)
  rw [hputs] at hc
  have hshape := Fleet.sameShape_redistribute s.cluster.fleet s.cluster.replicationFactor entries
  have hsound := hshape.ring ▸ hs
  have hheld : ∀ key, (s.cluster.fleet.redistribute s.cluster.replicationFactor entries).2.copy
      unit key = entries.reverse.lookup key := by
    intro key
    have hreplica := Fleet.mem_replicas_of_few hs hu hv hfew hunit key
    rw [Fleet.copy_redistribute hs, if_pos hreplica, hempty, Option.or_none]
  obtain ⟨⟨key, value⟩, hentry⟩ := List.exists_mem_of_ne_nil entries hentries
  have hsome := Fleet.lookup_reverse_isSome.2 (List.mem_map_of_mem (f := (·.1)) hentry)
  rw [← hheld] at hsome
  obtain ⟨fleet, registration, m', g', hremove, hdeparture⟩ :=
    Cluster.removeNode_of_busy (c := { s.cluster with
      fleet := (s.cluster.fleet.redistribute s.cluster.replicationFactor entries).2
      metrics := m
      registry := g }) hsound hopen hidle ((congrArg (·.get? id) hshape.ring).trans hget) hsome
      (by rwa [hshape.activeUnits]) hne
  rw [hc, hremove]
  refine ⟨⟨_, registration, rfl, hheld⟩, hdeparture.sound hsound, hopen, htime, fun key => ?_⟩
  refine (hdeparture.oneMore hsound).mem_replicas_of_mem ?_ hne
  rw [hshape.replicas]
  exact Fleet.mem_replicas_of_few hs hu hv hfew hother key

/-- The entries of a unit are as many as the keys put, if these are different. -/
theorem length_le_of_lookup {contents : Contents} {entries : List (String × String)}
    (hcontents : ∀ key, contents[key]? = entries.reverse.lookup key)
    (hdistinct : (entries.map (·.1)).Nodup) : entries.length ≤ contents.toList.length := by
  have hsub : entries.map (·.1) ⊆ contents.keys := by
    intro key hkey
    rw [Std.ExtTreeMap.mem_keys, Std.ExtTreeMap.mem_iff_isSome_getElem?, hcontents]
    exact Fleet.lookup_reverse_isSome.2 hkey
  have hlength := (hdistinct.subperm hsub).length_le
  rwa [List.length_map, Std.ExtTreeMap.length_keys, ← Std.ExtTreeMap.length_toList] at hlength

/-- Two units take part in all puts, and one of them is removed. -/
theorem leave_of_two {entries : List (String × String)} (hentries : entries ≠ []) :
    let c := ((start 1 2 5000 [⟨"a", "localhost", 8000⟩, ⟨"b", "localhost", 8001⟩]).run
      ((entries.map fun entry => .put entry.1 entry.2) ++ [.removeNode "a"])).cluster
    (∃ (contents : Contents) (registration : Registration),
      c.queue = [.leave contents.toList registration] ∧
        ∀ key, contents[key]? = entries.reverse.lookup key) ∧
      c.fleet.ring.Sound ∧ c.closed = false ∧ 0 < c.writeTimeout ∧
      ∀ key, c.replicas key ≠ [] := by
  intro c
  let s := start 1 2 5000 [⟨"a", "localhost", 8000⟩, ⟨"b", "localhost", 8001⟩]
  have hring : s.cluster.fleet.ring.Apart ["a", "b"] :=
    (steady_start (by decide +kernel) (by decide) 2 5000).ring
  have hget : s.cluster.fleet.ring.get? "a" = some ⟨"a", 0⟩ := by decide +kernel
  have hother : (⟨"b", 1⟩ : UnitRef) ∈ s.cluster.fleet.activeUnits := by decide +kernel
  obtain ⟨hqueue, hsound, hopen, htime, hmem⟩ := leave_after_puts hring.sound hring.undisputed
    (by decide +kernel) rfl (by decide) rfl hget (by decide +kernel) (by decide +kernel) hother
    (by decide) (copy_enlist _ _ _) hentries
  exact ⟨hqueue, hsound, hopen, htime, fun key => List.ne_nil_of_mem (hmem key)⟩

/-! ## What a put says -/

/-- Tasks that are let go on one after the other do stints. -/
theorem stints_runs (s : Session) (indices : List Nat) : ∃ f q m g,
    (s.run (indices.map .run)).cluster =
        { s.cluster with fleet := f, queue := q, metrics := m, registry := g } ∧
      Stints s.cluster.replicationFactor s.cluster.fleet s.cluster.queue f q := by
  induction indices generalizing s with
  | nil => exact ⟨_, _, _, _, rfl, .refl _ _⟩
  | cons index indices ih =>
    obtain ⟨f, q, m, g, hrun, hfirst⟩ := Cluster.stints_runAt s.cluster index
    obtain ⟨f', q', m', g', hlater, hstints⟩ := ih (s.step (.run index))
    have hstep : (s.step (.run index)).cluster =
        { s.cluster with fleet := f, queue := q, metrics := m, registry := g } := hrun
    rw [hstep] at hlater hstints
    exact ⟨f', q', m', g', hlater, hfirst.trans hstints⟩

/-- A replica on which the write has run holds the value of the put or one that a task carried which
was queued before. -/
theorem held_of_submit (hs : s.cluster.fleet.ring.Sound) (hopen : s.cluster.closed = false)
    (key value : String) (indices : List Nat) :
    let later := ((s.step (.submit key value)).run (indices.map .run)).cluster
    ∀ unit ∈ s.cluster.replicas key, .write unit key value ∉ later.queue →
      ∃ w, later.fleet.copy unit key = some w ∧
        (w = value ∨ ∃ task ∈ s.cluster.queue, task.Carries key w) := by
  intro later unit hunit hran
  obtain ⟨g, hsubmit⟩ := Cluster.submit_snd s.cluster key value
  rw [if_neg (by simp [hopen])] at hsubmit
  obtain ⟨f, q, m, g', hlater, hstints⟩ := stints_runs (s.step (.submit key value)) indices
  rw [show (s.step (.submit key value)).cluster = _ from hsubmit] at hlater hstints
  rw [show later.queue = q from congrArg Cluster.queue hlater] at hran
  rw [show later.fleet = f from congrArg Cluster.fleet hlater]
  have hunderway := underway_stints (fun w => w = value ∨ ∃ task ∈ s.cluster.queue,
    task.Carries key w) hs (fun task hmem w hcarries => ?_)
    (fun unit hunit => List.mem_append_right _ (List.mem_map_of_mem hunit)) hstints
  · exact (hunderway unit hunit).resolve_left hran
  · rcases List.mem_append.1 hmem with hold | hnew
    · exact Or.inr ⟨task, hold, hcarries⟩
    · obtain ⟨target, -, rfl⟩ := List.mem_map.1 hnew
      exact Or.inl hcarries.2.symm

variable {virtualNodes replicationFactor writeTimeout : Nat} {units : List UnitSpec}

/-- Whatever has happened before and whatever is queued: as long as background work goes on and
there is time to wait, a put of a key that has a replica is acknowledged, all replicas hold its value,
and a read finds it. Queued is then no write, but what is left of the older tasks after a stint of
each. In whatever order the tasks go on, a replica on which the write has run holds the value or one
that an older task carried. A put of a key that has no replica fails and changes nothing but the count
of failures. -/
theorem get_after_put (events : List Event) :
    let s := (start virtualNodes replicationFactor writeTimeout units).run events
    let c := s.cluster
    ∀ key value,
      (c.closed = false → 0 < c.writeTimeout → c.replicas key ≠ [] →
        let after := (c.put key value).2
        (c.put key value).1 = .ok () ∧
          after.queue = c.round.queue ∧
          (∀ left ∈ after.queue,
            left.key? = none ∧ ∃ task ∈ c.queue, ∃ fleet, task.rest fleet = some left) ∧
          after.replicas key = c.replicas key ∧
          (∀ unit ∈ c.replicas key, after.fleet.copy unit key = some value) ∧
          (after.get key).1 = some value) ∧
      (c.closed = false → ∀ indices : List Nat,
        let later := ((s.step (.submit key value)).run (indices.map .run)).cluster
        ∀ unit ∈ c.replicas key, .write unit key value ∉ later.queue →
          ∃ w, later.fleet.copy unit key = some w ∧
            (w = value ∨ ∃ task ∈ c.queue, task.Carries key w)) ∧
      (c.replicas key = [] → c.put key value = (.error .noActiveUnits,
        { c with metrics := { c.metrics with failures := c.metrics.failures + 1 } })) := by
  intro s c key value
  have hworking : c.closed = false → s.Working := fun hopen =>
    (working_start virtualNodes replicationFactor writeTimeout units).run (goesOn_of_open hopen)
  refine ⟨fun hopen htime hne => ?_, fun hopen => ?_, fun hnil => ?_⟩
  · intro after
    have hsound := (hworking hopen).sound
    obtain ⟨hqueue, hshape, hfactor, hcopies⟩ :=
      Cluster.put_of_open hsound hopen htime hne value
    have hreplicas : after.replicas key = c.replicas key := by
      rw [Cluster.replicas, hfactor]
      exact hshape.replicas key _
    have hok := Cluster.put_fst_of_open hsound hopen htime hne value
    refine ⟨hok, hqueue, fun left hleft => ?_, hreplicas, hcopies, ?_⟩
    · rw [hqueue] at hleft
      obtain ⟨task, hmem, fleet, hrest⟩ := Cluster.mem_queue_round hleft
      exact ⟨Task.key?_rest hrest, task, hmem, fleet, hrest⟩
    · refine Cluster.get_of_copies (hshape.ring ▸ hsound) (by rwa [hreplicas]) fun unit hunit => ?_
      rw [hreplicas] at hunit
      exact hcopies unit hunit
  · exact held_of_submit (hworking hopen).sound hopen key value
  · exact Cluster.put_of_replicas_eq_nil hnil value

set_option maxRecDepth 4096 in
/-- Two writes of an older value, a migration onto a new unit and the entries of a removed one, which
hold a value older still, are queued in front of this put. If it is not waited for and the older write
on a replica runs last, then that is what the replica holds. -/
theorem get_after_put_behind_queue :
    let s := (start 1 2 5000 [⟨"a", "localhost", 8000⟩, ⟨"b", "localhost", 8001⟩,
      ⟨"c", "localhost", 8002⟩]).run [.put "x" "old", .switch "b" false, .submit "x" "older",
        .addNode "d" "localhost" 8003, .removeNode "c"]
    let c := s.cluster
    let later := ((s.step (.submit "x" "new")).run ([0, 3, 3, 0].map .run)).cluster
    c.queue.length = 4 ∧ (c.put "x" "new").1 = .ok () ∧
      ((c.put "x" "new").2.get "x").1 = some "new" ∧
      ∀ unit ∈ c.replicas "x", ∃ w, later.fleet.copy unit "x" = some w ∧
        (w = "new" ∨ ∃ task ∈ c.queue, task.Carries "x" w) := by
  intro s c later
  have h : c.queue.length = 4 ∧ c.closed = false ∧ 0 < c.writeTimeout ∧
      (c.replicas "x").length = 2 ∧ later.queue.all (·.key? != some "x") = true := by
    decide +kernel
  obtain ⟨hqueue, hopen, htime, hlength, hran⟩ := h
  have hne : c.replicas "x" ≠ [] := fun hnil => by simp [hnil] at hlength
  obtain ⟨hok, -, -, -, -, hread⟩ := (get_after_put _ "x" "new").1 hopen htime hne
  refine ⟨hqueue, hok, hread, fun unit hunit => ?_⟩
  refine (get_after_put _ "x" "new").2.1 hopen [0, 3, 3, 0] unit hunit fun hmem => ?_
  exact absurd (List.all_eq_true.1 hran _ hmem) (by simp [Task.key?])

/-- A redistribution of more keys than it serves in a stint is still queued after a put. -/
theorem queue_put_after_puts {n : Nat} (hlong : Task.stint < n) :
    let c := ((start 1 2 5000 [⟨"a", "localhost", 8000⟩, ⟨"b", "localhost", 8001⟩]).run
      (((List.range n).map fun i => .put ("k" ++ toString i) "old") ++ [.removeNode "a"])).cluster
    c.closed = false ∧ 0 < c.writeTimeout ∧ c.replicas "z" ≠ [] ∧
      (c.put "z" "new").1 = .ok () ∧ (c.put "z" "new").2.queue ≠ [] := by
  intro c
  have hputs : (((List.range n).map fun i => ("k" ++ toString i, "old")).map fun entry =>
      Event.put entry.1 entry.2) = (List.range n).map fun i => .put ("k" ++ toString i) "old" :=
    List.map_map
  have hdistinct : (((List.range n).map fun i => ("k" ++ toString i, "old")).map (·.1)).Nodup := by
    rw [List.map_map]
    exact List.nodup_range.map fun i j heq => append_decimal_inj.1 heq
  have hsome : ((List.range n).map fun i => ("k" ++ toString i, "old")) ≠ [] := by
    refine List.ne_nil_of_length_pos ?_
    rw [List.length_map, List.length_range]
    exact Nat.zero_lt_of_lt hlong
  have htwo := leave_of_two hsome
  rw [hputs] at htwo
  obtain ⟨⟨contents, registration, hqueue, hcontents⟩, hsound, hopen, htime, hne⟩ := htwo
  have hlength := length_le_of_lookup hcontents hdistinct
  rw [List.length_map, List.length_range] at hlength
  refine ⟨hopen, htime, hne "z", Cluster.put_fst_of_open hsound hopen htime (hne "z") "new", ?_⟩
  rw [Cluster.queue_put_of_leave hopen htime (hne "z") hqueue (Nat.lt_of_lt_of_le hlong hlength)]
  exact List.cons_ne_nil _ _

/-- One key more than that is enough. -/
theorem queue_after_put_not_empty :
    let c := ((start 1 2 5000 [⟨"a", "localhost", 8000⟩, ⟨"b", "localhost", 8001⟩]).run
      (((List.range 257).map fun i => .put ("k" ++ toString i) "old") ++ [.removeNode "a"])).cluster
    c.closed = false ∧ 0 < c.writeTimeout ∧ c.replicas "z" ≠ [] ∧
      (c.put "z" "new").1 = .ok () ∧ (c.put "z" "new").2.queue ≠ [] :=
  queue_put_after_puts (by decide)

end Session

end QuorumRing
