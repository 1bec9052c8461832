import QuorumRing.Proofs.Cluster.Failover
import QuorumRing.Proofs.Fleet.Verdicts

/-!
# Writes that land later

Without time to wait, a put fails and its writes stay in the queue. They are not lost: what the units
will hold once the queue has run (`Cluster.pending`) is the same as if each put had stored its value
at once (`Fleet.absorb`). With time to wait the same is true, so both runs end with the same entries,
although all puts of the one have failed and all puts of the other have succeeded.

The two runs are compared with a third one, in which nothing is ever queued. What they differ in are
the counters of the units, which reads increase at different moments. It is essential that all queued
tasks end within a stint, as writes do (`Task.isBrief`): what another one has left would come behind
writes that have been queued later.
-/

namespace QuorumRing

namespace Fleet

variable {fleet fleet' : Fleet} {r : Nat} {key : String}

/-! ## Fleets with the same entries -/

/-- The two fleets have the same ring, the same active units and the same entries. -/
structure SameEntries (fleet fleet' : Fleet) : Prop where
  /-- The ring and the active units are the same. -/
  shape : SameShape fleet fleet'
  /-- All copies are the same. -/
  copy : ∀ w j, fleet'.copy w j = fleet.copy w j

namespace SameEntries

theorem refl (fleet : Fleet) : SameEntries fleet fleet :=
  ⟨SameShape.refl fleet, fun _ _ => rfl⟩

theorem trans {a b c : Fleet} (h : SameEntries a b) (h' : SameEntries b c) : SameEntries a c :=
  ⟨h.shape.trans h'.shape, fun w j => (h'.copy w j).trans (h.copy w j)⟩

theorem attempt_put (h : SameEntries fleet fleet') (unit : UnitRef) (key value : String) :
    SameEntries (fleet.attempt unit (·.put key value)).2
      (fleet'.attempt unit (·.put key value)).2 := by
  have hshape := sameShape_attempt_put fleet unit key value
  have hshape' := h.shape.trans (sameShape_attempt_put fleet' unit key value)
  constructor
  · exact ⟨hshape'.ring.trans hshape.ring.symm, hshape'.active.trans hshape.active.symm⟩
  · intro w j
    rw [copy_attempt_put, copy_attempt_put, h.shape.active, h.copy]

theorem storeOn (h : SameEntries fleet fleet') (key value : String) (units : List UnitRef) :
    SameEntries (fleet.storeOn key value units).2 (fleet'.storeOn key value units).2 := by
  induction units generalizing fleet fleet' with
  | nil => exact h
  | cons unit units ih => exact ih (h.attempt_put unit key value)

theorem redistribute (h : SameEntries fleet fleet') (r : Nat) (entries : List (String × String)) :
    SameEntries (fleet.redistribute r entries).2 (fleet'.redistribute r entries).2 := by
  induction entries generalizing fleet fleet' with
  | nil => exact h
  | cons entry entries ih =>
    obtain ⟨key, value⟩ := entry
    rw [redistribute_cons, redistribute_cons, h.shape.replicas]
    exact ih (h.storeOn key value _)

theorem pullAll (h : SameEntries fleet fleet') (r : Nat) (target : UnitRef)
    (others : List UnitRef) (report : MigrationReport) (keys : List String) :
    SameEntries (fleet.pullAll r target others report keys).2
      (fleet'.pullAll r target others report keys).2 := by
  have hshape := sameShape_pullAll fleet r target others report keys
  have hshape' := h.shape.trans (sameShape_pullAll fleet' r target others report keys)
  constructor
  · exact ⟨hshape'.ring.trans hshape.ring.symm, hshape'.active.trans hshape.active.symm⟩
  · intro w j
    rw [copy_pullAll, copy_pullAll, copy_pull, copy_pull, h.shape.active,
      donor?_congr h.shape (h.copy · j)]
    simp only [h.copy]

end SameEntries

end Fleet

/-! ## Tasks that end within a stint -/

/-- Whether the task ends within a stint, whatever the fleet. -/
def Task.isBrief : Task → Bool
  | .write .. => true
  | .join .. => false
  | .pull _ _ keys _ => keys.length ≤ stint
  | .leave entries _ => entries.length ≤ stint

section Brief

variable {fleet fleet' : Fleet} {r : Nat} {task : Task} {tasks : List Task}

theorem Task.rest_of_isBrief (h : task.isBrief = true) (fleet : Fleet) : task.rest fleet = none := by
  cases task with
  | write => rfl
  | join => simp [isBrief] at h
  | pull | leave => exact Option.map_eq_none_iff.2 (remainder?_eq_none_iff.2 (of_decide_eq_true h))

theorem Cluster.rests_of_isBrief (h : ∀ task ∈ tasks, task.isBrief = true) (r : Nat)
    (fleet : Fleet) : rests r fleet tasks = [] := by
  induction tasks generalizing fleet with
  | nil => rfl
  | cons task tasks ih =>
    obtain ⟨hfirst, hrest⟩ := List.forall_mem_cons.1 h
    rw [rests, Task.rest_of_isBrief hfirst, ih hrest]
    rfl

theorem Fleet.SameEntries.effect (h : SameEntries fleet fleet') (hbrief : task.isBrief = true)
    (r : Nat) : SameEntries (task.effect r fleet) (task.effect r fleet') := by
  cases task with
  | write target key value => exact h.attempt_put target key value
  | join => simp [Task.isBrief] at hbrief
  | pull unit others keys _ => exact h.pullAll r unit others _ _
  | leave entries _ => exact h.redistribute r _

theorem Fleet.SameEntries.settled (h : SameEntries fleet fleet')
    (hbrief : ∀ task ∈ tasks, task.isBrief = true) (r : Nat) :
    SameEntries (Cluster.settled r fleet tasks) (Cluster.settled r fleet' tasks) := by
  induction tasks generalizing fleet fleet' with
  | nil => exact h
  | cons task tasks ih =>
    obtain ⟨hfirst, hrest⟩ := List.forall_mem_cons.1 hbrief
    exact ih (h.effect hfirst r) hrest

end Brief

namespace Fleet

variable {fleet fleet' : Fleet} {r : Nat} {key : String}

/-! ## The run in which nothing is queued -/

/-- What becomes of a fleet if a put stores its value on all replicas at once, and nothing else does
anything. -/
def absorb (r : Nat) (fleet : Fleet) : Event → Fleet
  | .put key value => (fleet.storeOn key value (fleet.replicas key r)).2
  | _ => fleet

theorem sameShape_absorb (r : Nat) (fleet : Fleet) (event : Event) :
    SameShape fleet (fleet.absorb r event) := by
  cases event with
  | put key value => exact sameShape_storeOn fleet key value _
  | _ => exact SameShape.refl fleet

theorem SameEntries.absorb (h : SameEntries fleet fleet') (r : Nat) (event : Event) :
    SameEntries (fleet.absorb r event) (fleet'.absorb r event) := by
  cases event with
  | put key value =>
    unfold Fleet.absorb
    dsimp only
    rw [h.shape.replicas]
    exact h.storeOn key value _
  | _ => exact h

theorem copy_absorb_of_ne {event : Event} (hother : ∀ value, event ≠ .put key value)
    (w : UnitRef) : (fleet.absorb r event).copy w key = fleet.copy w key := by
  cases event with
  | put j value =>
    have hne : key ≠ j := by
      rintro rfl
      exact hother value rfl
    exact (copy_storeOn fleet j value _ w key).trans (if_neg fun h => hne h.2.1)
  | _ => rfl

theorem sameShape_absorbAll (r : Nat) (fleet : Fleet) (events : List Event) :
    SameShape fleet (events.foldl (absorb r) fleet) := by
  induction events generalizing fleet with
  | nil => exact SameShape.refl fleet
  | cons event events ih => exact (sameShape_absorb r fleet event).trans (ih _)

/-- The last put of a key decides what its replicas hold. -/
theorem copy_absorbAll (hs : fleet.ring.Sound) (front : List Event) (value : String)
    {back : List Event} (hlast : ∀ later, .put key later ∉ back) {unit : UnitRef}
    (hunit : unit ∈ fleet.replicas key r) :
    ((front ++ .put key value :: back).foldl (absorb r) fleet).copy unit key = some value := by
  have hback : ∀ (back : List Event) (fleet : Fleet), (∀ later, .put key later ∉ back) →
      (back.foldl (absorb r) fleet).copy unit key = fleet.copy unit key := by
    intro back
    induction back with
    | nil => exact fun _ _ => rfl
    | cons event back ih =>
      intro fleet hlast
      have hother : ∀ later, event ≠ .put key later := by
        rintro later rfl
        exact hlast later List.mem_cons_self
      rw [List.foldl_cons, ih _ fun later hmem => hlast later (List.mem_cons_of_mem _ hmem),
        copy_absorb_of_ne hother]
  have hfront := sameShape_absorbAll r fleet front
  have hactive : (front.foldl (absorb r) fleet).pool.isActive unit = true := by
    rw [hfront.active]
    exact isActive_of_mem_replicas hs hunit
  have hreplica : unit ∈ (front.foldl (absorb r) fleet).replicas key r := by
    rw [hfront.replicas]
    exact hunit
  rw [List.foldl_append, List.foldl_cons, hback back _ hlast]
  exact (copy_storeOn _ key value _ unit key).trans (if_pos ⟨hreplica, rfl, hactive⟩)

end Fleet

/-! ## Queues -/

namespace Cluster

variable {c : Cluster} {key value : String}

/-- The fleet as it will be when the queued tasks have run. -/
def pending (c : Cluster) : Fleet := settled c.replicationFactor c.fleet c.queue

/-- All queued tasks end within a stint. -/
def Brief (c : Cluster) : Prop := ∀ task ∈ c.queue, task.isBrief = true

theorem fleet_drain (h : c.Brief) : c.drain.fleet = c.pending := by
  obtain ⟨m, g, hround⟩ := round_eq c
  rw [rests_of_isBrief h] at hround
  rw [drain_eq_round (by rw [hround]), hround]
  rfl

theorem settled_writes (r : Nat) (fleet : Fleet) (key value : String) (targets : List UnitRef) :
    settled r fleet (targets.map (.write · key value)) = (fleet.storeOn key value targets).2 := by
  induction targets generalizing fleet with
  | nil => rfl
  | cons target targets ih => exact ih (fleet.attempt target (·.put key value)).2

/-- With or without time to wait, a put stores its value behind what is queued. -/
theorem pending_put (h : c.Brief) (hopen : c.closed = false) (key value : String) :
    (c.put key value).2.pending = c.pending.absorb c.replicationFactor (.put key value) := by
  have hreplicas : c.pending.replicas key c.replicationFactor = c.replicas key :=
    (sameShape_settled c.replicationFactor c.fleet c.queue).replicas key c.replicationFactor
  unfold Fleet.absorb
  dsimp only
  rw [hreplicas]
  by_cases hnil : c.replicas key = []
  · rw [put_of_replicas_eq_nil hnil, hnil]
    rfl
  · rcases Nat.eq_zero_or_pos c.writeTimeout with htime | htime
    · obtain ⟨m, hput⟩ := put_snd_of_no_time hopen htime hnil value
      rw [hput, pending, ← settled_writes c.replicationFactor]
      exact List.foldl_append
    · obtain ⟨m, g, hput⟩ := put_snd_of_open hopen htime hnil value
      rw [rests_of_isBrief h] at hput
      rw [hput]
      rfl

theorem Brief.put (h : c.Brief) (key value : String) : (c.put key value).2.Brief := by
  rcases put_snd c key value with ⟨m, hput⟩ | ⟨m, hput⟩ | ⟨m, g, hput⟩
  · rw [hput]
    exact h
  · rw [hput]
    intro task htask
    rcases List.mem_append.1 htask with hqueued | hnew
    · exact h task hqueued
    · obtain ⟨target, -, rfl⟩ := List.mem_map.1 hnew
      rfl
  · rw [rests_of_isBrief h] at hput
    rw [hput]
    exact fun task htask => absurd htask List.not_mem_nil

theorem Brief.runAt (h : c.Brief) (index : Nat) : (c.runAt index).Brief := by
  unfold Cluster.runAt
  cases hqueued : c.queue[index]? with
  | none => exact h
  | some task =>
    have hbrief := h task (List.mem_of_getElem? hqueued)
    obtain ⟨m, g, hrun⟩ := run_eq { c with queue := c.queue.eraseIdx index } task
    dsimp only
    rw [hrun, Task.rest_of_isBrief hbrief, Option.toList_none, List.append_nil]
    exact fun other hother => h other (List.mem_of_mem_eraseIdx hother)

end Cluster

/-! ## The simulation -/

/-- Whether the event is a put that is waited for, a read, or the run of what is at the front of the
queue. -/
def Event.isTraffic : Event → Bool
  | .put .. | .get _ | .drain | .run 0 => true
  | _ => false

namespace Session

variable {s : Session} {event : Event} {events : List Event}

/-- The session with another time to wait. -/
def withTimeout (s : Session) (millis : Nat) : Session :=
  { s with cluster := { s.cluster with writeTimeout := millis } }

theorem closed_step_of_isTraffic (h : event.isTraffic = true) :
    (s.step event).cluster.closed = s.cluster.closed := by
  refine closed_step_of_goesOn ?_
  cases event with
  | shutdown => simp [Event.isTraffic] at h
  | _ => rfl

theorem brief_step (h : s.cluster.Brief) (htraffic : event.isTraffic = true) :
    (s.step event).cluster.Brief := by
  cases event with
  | put key value => exact h.put key value
  | get key =>
    obtain ⟨f, m, hget, -⟩ := Cluster.get_snd s.cluster key
    rw [step, hget]
    exact h
  | drain =>
    obtain ⟨f, m, g, hdrain, -⟩ := Cluster.drain_eq s.cluster
    rw [step, hdrain]
    exact fun task htask => absurd htask List.not_mem_nil
  | run index => exact h.runAt index
  | _ => simp [Event.isTraffic] at htraffic

theorem pending_step (h : s.cluster.Brief) (hopen : s.cluster.closed = false)
    (htraffic : event.isTraffic = true) :
    Fleet.SameEntries (s.cluster.pending.absorb s.cluster.replicationFactor event)
      (s.step event).cluster.pending := by
  cases event with
  | put key value =>
    rw [step, Cluster.pending_put h hopen]
    exact Fleet.SameEntries.refl _
  | get key =>
    obtain ⟨f, m, hget, hshape, hcopy⟩ := Cluster.get_snd s.cluster key
    rw [step, hget]
    exact Fleet.SameEntries.settled ⟨hshape, hcopy⟩ h s.cluster.replicationFactor
  | drain =>
    have hfleet := Cluster.fleet_drain h
    obtain ⟨f, m, g, hdrain, -⟩ := Cluster.drain_eq s.cluster
    rw [hdrain] at hfleet
    rw [step, hdrain, ← hfleet]
    exact Fleet.SameEntries.refl _
  | run index =>
    obtain rfl : index = 0 := by
      cases index with
      | zero => rfl
      | succ index => simp [Event.isTraffic] at htraffic
    rw [step, Cluster.runAt]
    cases hqueue : s.cluster.queue with
    | nil => exact Fleet.SameEntries.refl _
    | cons task tasks =>
      obtain ⟨m, g, hrun⟩ := Cluster.run_eq { s.cluster with queue := tasks } task
      have hbrief := h task (hqueue ▸ List.mem_cons_self)
      have hpending : s.cluster.pending =
          Cluster.settled s.cluster.replicationFactor s.cluster.fleet (task :: tasks) := by
        rw [Cluster.pending, hqueue]
      rw [hpending]
      dsimp only [List.getElem?_cons_zero, List.eraseIdx_cons_zero]
      rw [hrun, Task.rest_of_isBrief hbrief, Option.toList_none, List.append_nil]
      exact Fleet.SameEntries.refl _
  | _ => simp [Event.isTraffic] at htraffic

/-- Whatever waits in the queue, the fleet will have the entries that it would have if nothing had
ever been queued. -/
theorem pending_run {fleet : Fleet} (hsame : Fleet.SameEntries fleet s.cluster.pending)
    (h : s.cluster.Brief) (hopen : s.cluster.closed = false)
    (htraffic : ∀ e ∈ events, e.isTraffic = true) :
    Fleet.SameEntries (events.foldl (Fleet.absorb s.cluster.replicationFactor) fleet)
      (s.run events).cluster.pending ∧ (s.run events).cluster.Brief := by
  induction events generalizing s fleet with
  | nil => exact ⟨hsame, h⟩
  | cons event events ih =>
    obtain ⟨hfirst, hrest⟩ := List.forall_mem_cons.1 htraffic
    have hstep :=
      (hsame.absorb s.cluster.replicationFactor event).trans (pending_step h hopen hfirst)
    have hfactor : (s.step event).cluster.replicationFactor = s.cluster.replicationFactor :=
      replicationFactor_act s (.event event)
    have hlater := ih hstep (brief_step h hfirst)
      ((closed_step_of_isTraffic hfirst).trans hopen) hrest
    rw [hfactor] at hlater
    exact hlater

theorem closed_run_of_isTraffic (htraffic : ∀ e ∈ events, e.isTraffic = true) :
    (s.run events).cluster.closed = s.cluster.closed := by
  induction events generalizing s with
  | nil => rfl
  | cons event events ih =>
    obtain ⟨hfirst, hrest⟩ := List.forall_mem_cons.1 htraffic
    exact (@ih (s.step event) hrest).trans (closed_step_of_isTraffic hfirst)

theorem sameShape_run_of_isTraffic (htraffic : ∀ e ∈ events, e.isTraffic = true) :
    Fleet.SameShape s.cluster.fleet (s.run events).cluster.fleet := by
  induction events generalizing s with
  | nil => exact Fleet.SameShape.refl _
  | cons event events ih =>
    obtain ⟨hfirst, hrest⟩ := List.forall_mem_cons.1 htraffic
    have hkeeps : event.reorganizes = false := by
      cases event with
      | addNode | removeNode | check | switch => simp [Event.isTraffic] at hfirst
      | _ => rfl
    exact (sameShape_step s hkeeps).trans (ih hrest)

theorem replicas_run_of_isTraffic (htraffic : ∀ e ∈ events, e.isTraffic = true) (key : String) :
    (s.run events).cluster.replicas key = s.cluster.replicas key := by
  rw [Cluster.replicas, (settings_run s events).1]
  exact (sameShape_run_of_isTraffic htraffic).replicas key _

/-- After the queue has run at the end, the fleet has the entries of the run in which nothing is
queued. -/
theorem sameEntries_drain_run (h : s.cluster.Brief) (hopen : s.cluster.closed = false)
    (htraffic : ∀ e ∈ events, e.isTraffic = true) :
    Fleet.SameEntries
      (events.foldl (Fleet.absorb s.cluster.replicationFactor) s.cluster.pending)
      (s.run events).cluster.drain.fleet := by
  obtain ⟨hsame, hbrief⟩ := pending_run (Fleet.SameEntries.refl _) h hopen htraffic
  rw [Cluster.fleet_drain hbrief]
  exact hsame

/-- The replicas of a key stay the same, also when the rest of the queue runs in the end. -/
theorem replicas_drain_run (htraffic : ∀ e ∈ events, e.isTraffic = true) (key : String) :
    (s.run events).cluster.drain.replicas key = s.cluster.replicas key := by
  have hdrain : (s.run (events ++ [.drain])).cluster = (s.run events).cluster.drain := by
    rw [run_append]
    rfl
  rw [← hdrain]
  refine replicas_run_of_isTraffic (fun e he => ?_) key
  rcases List.mem_append.1 he with hevent | hlast
  · exact htraffic e hevent
  · rw [List.mem_singleton.1 hlast]
    rfl

variable {virtualNodes replicationFactor writeTimeout : Nat} {units : List UnitSpec}

/-- Puts, reads and runs of the queue on an open cluster, once without and once with time to wait,
and the rest of the queue runs in the end. What was queued at first are writes, or other tasks that end
within a stint. Without time all puts fail that succeed with time, but all units hold the same entries,
the replicas of a key the value of its last put. -/
theorem entries_without_time (acts : List Act) (events : List Event) (millis : Nat) :
    let s := (start virtualNodes replicationFactor writeTimeout units).play acts
    let late := ((s.withTimeout 0).run events).cluster.drain
    let timely := ((s.withTimeout millis).run events).cluster.drain
    s.cluster.closed = false → (∀ task ∈ s.cluster.queue, task.isBrief = true) →
    (∀ e ∈ events, e.isTraffic = true) → 0 < millis →
    (∀ unit, (late.fleet.get unit).contents = (timely.fleet.get unit).contents) ∧
    (∀ key, late.replicas key = s.cluster.replicas key ∧
      timely.replicas key = s.cluster.replicas key) ∧
    ∀ front back key value, events = front ++ .put key value :: back →
      ((∀ later, .put key later ∉ back) → ∀ unit ∈ s.cluster.replicas key,
        late.fleet.copy unit key = some value ∧ timely.fleet.copy unit key = some value) ∧
      (s.cluster.replicas key ≠ [] →
        (((s.withTimeout 0).run front).cluster.put key value).1 =
          .error (.quorumNotReached ((s.cluster.replicas key).length / 2 + 1) 0) ∧
        (((s.withTimeout millis).run front).cluster.put key value).1 = .ok ()) := by
  intro s late timely hopen hbrief htraffic htime
  have hs : s.cluster.fleet.ring.Sound :=
    sound_play (working_start virtualNodes replicationFactor writeTimeout units).sound acts
  -- both runs are compared with the one in which nothing is queued, from the same fleet
  have hlate : Fleet.SameEntries (events.foldl (Fleet.absorb s.cluster.replicationFactor)
      s.cluster.pending) late.fleet :=
    sameEntries_drain_run (s := s.withTimeout 0) hbrief hopen htraffic
  have htimely : Fleet.SameEntries (events.foldl (Fleet.absorb s.cluster.replicationFactor)
      s.cluster.pending) timely.fleet :=
    sameEntries_drain_run (s := s.withTimeout millis) hbrief hopen htraffic
  refine ⟨fun unit => ?_, fun key => ⟨?_, ?_⟩, fun front back key value hsplit => ⟨?_, ?_⟩⟩
  · exact Fleet.contents_of_copy fun key => (hlate.copy unit key).trans (htimely.copy unit key).symm
  · exact replicas_drain_run (s := s.withTimeout 0) htraffic key
  · exact replicas_drain_run (s := s.withTimeout millis) htraffic key
  · intro hlast unit hunit
    have hpending := Cluster.sameShape_settled s.cluster.replicationFactor s.cluster.fleet
      s.cluster.queue
    have hs' : s.cluster.pending.ring.Sound := hpending.ring ▸ hs
    have hunit' : unit ∈ s.cluster.pending.replicas key s.cluster.replicationFactor := by
      rw [Cluster.pending, hpending.replicas]
      exact hunit
    have hvalue := Fleet.copy_absorbAll hs' front value hlast hunit'
    rw [← hsplit] at hvalue
    exact ⟨(hlate.copy unit key).trans hvalue, (htimely.copy unit key).trans hvalue⟩
  · intro hne
    have hfront : ∀ e ∈ front, e.isTraffic = true := fun e he =>
      htraffic e (by rw [hsplit]; exact List.mem_append_left _ he)
    -- what a put finds does not depend on the time it has
    have hfinds : ∀ time, ((s.withTimeout time).run front).cluster.replicas key =
        s.cluster.replicas key := fun time =>
      replicas_run_of_isTraffic (s := s.withTimeout time) hfront key
    have hstill : ((s.withTimeout millis).run front).cluster.closed = false :=
      (closed_run_of_isTraffic (s := s.withTimeout millis) hfront).trans hopen
    have htimeout : ∀ time, ((s.withTimeout time).run front).cluster.writeTimeout = time :=
      fun time => (settings_run (s.withTimeout time) front).2
    have hsound : ((s.withTimeout millis).run front).cluster.fleet.ring.Sound :=
      (sameShape_run_of_isTraffic (s := s.withTimeout millis) hfront).ring ▸ hs
    constructor
    · rw [Cluster.put_fst_of_unanswered (Or.inr (htimeout 0)) (by rwa [hfinds 0]), hfinds 0]
      rfl
    · refine Cluster.put_fst_of_open hsound hstill ?_ (by rwa [hfinds millis]) value
      rw [htimeout millis]
      exact htime

set_option maxRecDepth 4096 in
/-- Of three puts of one key the first and the second are still queued when the third is made, behind
an older one that nobody waits for. One replica of the key is off. -/
theorem entries_without_time_piled_up :
    let s := (start 1 3 5000 [⟨"a", "localhost", 8000⟩, ⟨"b", "localhost", 8001⟩,
      ⟨"c", "localhost", 8002⟩]).play [.event (.submit "x" "old"), .event (.switch "b" false)]
    let front : List Event := [.put "x" "1", .get "x", .run 0, .put "y" "1", .put "x" "2", .get "y"]
    let events := front ++ .put "x" "3" :: [.get "x", .put "z" "1"]
    let late := ((s.withTimeout 0).run events).cluster
    let timely := ((s.withTimeout 5000).run events).cluster
    late.queue.length = 12 ∧
      (∀ unit, (late.drain.fleet.get unit).contents = (timely.drain.fleet.get unit).contents) ∧
      (∀ unit ∈ s.cluster.replicas "x", late.drain.fleet.copy unit "x" = some "3") ∧
      (((s.withTimeout 0).run front).cluster.put "x" "3").1 =
        .error (.quorumNotReached 2 0) := by
  intro s front events late timely
  have h : s.cluster.closed = false ∧ (∀ task ∈ s.cluster.queue, task.isBrief = true) ∧
      (∀ e ∈ events, e.isTraffic = true) ∧ late.queue.length = 12 ∧ (s.cluster.replicas "x").length = 2 := by decide +kernel
  obtain ⟨hopen, hbrief, htraffic, hqueue, hlength⟩ := h
  have hne : s.cluster.replicas "x" ≠ [] := fun hnil => by simp [hnil] at hlength
  obtain ⟨hcontents, -, hputs⟩ := entries_without_time _ events 5000 hopen hbrief htraffic (by decide)
  obtain ⟨hcopies, hanswers⟩ := hputs front [.get "x", .put "z" "1"] "x" "3" rfl
  have hlast : ∀ later, Event.put "x" later ∉ [.get "x", .put "z" "1"] := by simp
  have hanswer := (hanswers hne).1
  rw [hlength] at hanswer
  exact ⟨hqueue, hcontents, fun unit hunit => (hcopies hlast unit hunit).1, hanswer⟩

end Session

end QuorumRing
