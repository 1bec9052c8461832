import QuorumRing.Proofs.Cluster.Effects
import QuorumRing.Settings.Basic

/-!
# Sessions

A session is a cluster to which one thing happens after the other (`Session.run`): clients and
operators do their work, units are switched on and off, and queued tasks do their stints at any moment
and in any order. A put is either waited for, or it is submitted and its tasks are left to run
whenever they may. A unit has its entries in no particular order, so those of a queued redistribution
may be put in any order before they are served.

What one event can do to the fleet and to the queue is listed in `Effect`. Everything that is said
about all sessions goes through this list.
-/

namespace QuorumRing

namespace Cluster

/-- Hands out the tasks of a put and waits for none of them. -/
def submit (c : Cluster) (key value : String) : Cluster :=
  (c.replicas key).foldl (fun c target => c.spawn (.write target key value)) c

/-- Lets the queued task at an index do a stint, if there is one, ahead of all others. -/
def runAt (c : Cluster) (index : Nat) : Cluster :=
  match c.queue[index]? with
  | some task => { c with queue := c.queue.eraseIdx index }.run task
  | none => c

/-- Puts the entries of the queued task at an index in another order. -/
def reorderAt (c : Cluster) (index : Nat) (entries : List (String × String)) : Cluster :=
  { c with queue := c.queue.modify index (·.reorder entries) }

/-- Switches the unit registered under an id on or off. -/
def switch (c : Cluster) (id : String) (active : Bool) : Cluster :=
  match c.fleet.ring.get? id with
  | some unit => { c with fleet := c.fleet.setActive unit active }
  | none => c

end Cluster

/-- A cluster and the monitor that checks its health. -/
structure Session where
  /-- The cluster. -/
  cluster : Cluster
  /-- The monitor. -/
  monitor : Monitor := {}

/-- Something that happens to a cluster. -/
inductive Event where
  /-- A put that is waited for. -/
  | put (key value : String)
  /-- A put that is not waited for. -/
  | submit (key value : String)
  /-- A read. -/
  | get (key : String)
  /-- A delete. -/
  | delete (key : String)
  /-- The admission of a unit. -/
  | addNode (id host : String) (port : UInt16)
  /-- The removal of a unit. -/
  | removeNode (id : String)
  /-- The repair of a key. -/
  | repair (key : String)
  /-- A verification. -/
  | verify
  /-- A health check in which the probes of these ids fail. -/
  | check (down : List String)
  /-- A member is switched on or off. -/
  | switch (id : String) (active : Bool)
  /-- The queued task at this index does a stint. -/
  | run (index : Nat)
  /-- The queued task at this index, if it is a redistribution of these entries, will come to them in
  this order. -/
  | reorder (index : Nat) (entries : List (String × String))
  /-- All queued tasks are run to their end. -/
  | drain
  /-- The end of background work. -/
  | shutdown (graceMillis : Nat)
deriving DecidableEq, Repr

namespace Event

/-- The ids under which units may be admitted. -/
def admits : Event → List String
  | .addNode id _ _ => [id]
  | _ => []

/-- Whether background work goes on. -/
def goesOn : Event → Bool
  | .shutdown _ => false
  | _ => true

/-- Whether the event takes the same course after a shutdown. -/
def isIndifferent : Event → Bool
  | .submit .. | .addNode .. | .removeNode .. | .shutdown .. => false
  | _ => true

end Event

namespace Session

/-- What happens in an event. -/
def step (s : Session) : Event → Session
  | .put key value => { s with cluster := (s.cluster.put key value).2 }
  | .submit key value => { s with cluster := s.cluster.submit key value }
  | .get key => { s with cluster := (s.cluster.get key).2 }
  | .delete key => { s with cluster := (s.cluster.delete key).2 }
  | .addNode id host port => { s with cluster := (s.cluster.addNode id host port).2 }
  | .removeNode id => { s with cluster := (s.cluster.removeNode id).2 }
  | .repair key => { s with cluster := (s.cluster.repair key).2 }
  | .verify => { s with cluster := s.cluster.verify.2 }
  | .check down =>
    let (_, monitor, fleet) := s.monitor.check (.failingFor down) s.cluster.fleet
    { monitor, cluster := { s.cluster with fleet } }
  | .switch id active => { s with cluster := s.cluster.switch id active }
  | .run index => { s with cluster := s.cluster.runAt index }
  | .reorder index entries => { s with cluster := s.cluster.reorderAt index entries }
  | .drain => { s with cluster := s.cluster.drain }
  | .shutdown graceMillis => { s with cluster := (s.cluster.shutdown graceMillis).2 }

/-- What happens in a row of events. -/
def run (s : Session) (events : List Event) : Session := events.foldl step s

/-- A fleet of units without entries. Of several with the same id the first is admitted. -/
def enlist (virtualNodes : Nat) (units : List UnitSpec) : Fleet :=
  units.foldl
    (fun fleet unit =>
      match fleet.add? { id := unit.id, host := unit.host, port := unit.port } with
      | some (_, fleet) => fleet
      | none => fleet)
    (.empty virtualNodes)

/-- A new session. -/
def start (virtualNodes replicationFactor writeTimeout : Nat) (units : List UnitSpec) : Session :=
  { cluster := { fleet := enlist virtualNodes units, replicationFactor, writeTimeout } }

theorem run_append (s : Session) (events later : List Event) :
    s.run (events ++ later) = (s.run events).run later :=
  List.foldl_append

end Session

/-! ## What an event can do -/

/-- What becomes of the fleet and of the queue of a cluster in an event, as long as background work
goes on. -/
inductive Effect (c : Cluster) : Event → Fleet → List Task → Prop where
  /-- Nothing happens but that units are asked. -/
  | look {event : Event} {fleet : Fleet} (shape : Fleet.SameShape c.fleet fleet)
      (copy : ∀ w j, fleet.copy w j = c.fleet.copy w j) : Effect c event fleet c.queue
  /-- A put that is waited for lets tasks do stints and writes to the replicas. -/
  | store (key value : String) {fleet : Fleet} {queue : List Task}
      (stints : Stints c.replicationFactor c.fleet c.queue fleet queue) :
      Effect c (.put key value) (fleet.storeOn key value (c.replicas key)).2 queue
  /-- A put that is not waited for queues a task for each replica. -/
  | submit {event : Event} (key value : String) :
      Effect c event c.fleet (c.queue ++ (c.replicas key).map (.write · key value))
  /-- A delete empties the replicas of a key. -/
  | delete {key : String} {fleet : Fleet} (shape : Fleet.SameShape c.fleet fleet)
      (copy : ∀ w j, fleet.copy w j =
        if w ∈ c.replicas key ∧ j = key then none else c.fleet.copy w j) :
      Effect c (.delete key) fleet c.queue
  /-- An admission queues a migration. -/
  | join {host : String} {port : UInt16} {unit : UnitRef} {fleet : Fleet}
      (registration : Registration) (admission : Fleet.Admission c.fleet fleet unit) :
      Effect c (.addNode unit.id host port) fleet (c.queue ++ [.join unit registration])
  /-- The removal of a unit without entries, or of the last active unit, queues nothing. -/
  | depart {unit : UnitRef} {fleet : Fleet} (departure : Fleet.Departure c.fleet fleet unit)
      (idle : (∀ j, c.fleet.copy unit j = none) ∨ fleet.activeUnits = []) :
      Effect c (.removeNode unit.id) fleet c.queue
  /-- The removal of any other unit queues a redistribution. -/
  | leave {unit : UnitRef} {fleet : Fleet} (registration : Registration)
      (departure : Fleet.Departure c.fleet fleet unit) :
      Effect c (.removeNode unit.id) fleet
        (c.queue ++ [.leave (c.fleet.get unit).contents.toList registration])
  /-- A repair mends the replicas of a key. -/
  | repair (key : String) :
      Effect c (.repair key) (c.fleet.repair key c.replicationFactor).2 c.queue
  /-- A health check, or an operator, switches members. -/
  | switch {event : Event} {fleet : Fleet} (switching : Fleet.Switching c.fleet fleet) :
      Effect c event fleet c.queue
  /-- Queued tasks do stints, or their entries are put in another order. -/
  | work {event : Event} {fleet : Fleet} {queue : List Task}
      (stints : Stints c.replicationFactor c.fleet c.queue fleet queue) : Effect c event fleet queue

namespace Cluster

variable {c : Cluster}

theorem submit_snd (c : Cluster) (key value : String) : ∃ g, c.submit key value =
    { c with
      queue := c.queue ++ if c.closed then [] else (c.replicas key).map (.write · key value)
      registry := g } := by
  have hfold : ∀ (targets : List UnitRef) (c : Cluster), ∃ g,
      targets.foldl (fun c target => c.spawn (.write target key value)) c =
        { c with
          queue := c.queue ++ if c.closed then [] else targets.map (.write · key value)
          registry := g } := by
    intro targets
    induction targets with
    | nil => exact fun c => ⟨c.registry, by simp⟩
    | cons target targets ih =>
      intro c
      obtain ⟨g, hspawn⟩ := spawn_eq c (.write target key value)
      obtain ⟨g', htail⟩ := ih (c.spawn (.write target key value))
      refine ⟨g', ?_⟩
      rw [List.foldl_cons, htail, hspawn]
      cases c.closed <;> simp
  exact hfold _ c

/-- Whatever a write that is queued or refused keeps is kept by a put that nobody waits for. -/
theorem submit_induction {P : Cluster → Prop} {key value : String} (h : P c)
    (hspawn : ∀ c' target, P c' → P (c'.spawn (.write target key value))) :
    P (c.submit key value) :=
  List.foldlRecOn (c.replicas key) _ h fun c' hc target _ => hspawn c' target hc

theorem stints_runAt (c : Cluster) (index : Nat) :
    ∃ f q m g, c.runAt index = { c with fleet := f, queue := q, metrics := m, registry := g } ∧
      Stints c.replicationFactor c.fleet c.queue f q := by
  unfold runAt
  cases h : c.queue[index]? with
  | none => exact ⟨_, _, _, _, rfl, .refl _ _⟩
  | some task =>
    obtain ⟨m, g, hrun⟩ := run_eq { c with queue := c.queue.eraseIdx index } task
    exact ⟨_, _, m, g, hrun, .single h⟩

theorem stints_reorderAt (c : Cluster) (index : Nat) (entries : List (String × String)) :
    Stints c.replicationFactor c.fleet c.queue c.fleet (c.reorderAt index entries).queue :=
  .reorder (.refl _ _)

/-! ### One stint after the other -/

theorem perform_behind (c : Cluster) (front : List Task) (task : Task) :
    ({ c with queue := front ++ c.queue } : Cluster).perform task =
      ((c.perform task).1, { (c.perform task).2 with queue := front ++ (c.perform task).2.queue }) := by
  cases task with
  | write target key value =>
    unfold perform write attempt
    dsimp only
    cases (c.fleet.attempt target (·.put key value)).1 with
    | ok => rfl
    | error => rfl
  | join | pull | leave => rfl

theorem run_behind (c : Cluster) (front : List Task) (task : Task) :
    ({ c with queue := front ++ c.queue } : Cluster).run task =
      { c.run task with queue := front ++ (c.run task).queue } := by
  unfold run
  rw [perform_behind]
  cases c.perform task with
  | mk left c' =>
  cases left with
  | none =>
    dsimp only [conclude]
    split
    · rfl
    · rfl
  | some left =>
    dsimp only
    rw [List.append_assoc]

theorem foldl_run_eq_iterate (tasks : List Task) (c : Cluster) :
    tasks.foldl run c = (·.runAt 0)^[tasks.length] { c with queue := tasks ++ c.queue } := by
  induction tasks generalizing c with
  | nil => rfl
  | cons task tasks ih =>
    rw [List.foldl_cons, ih, List.length_cons, Function.iterate_succ_apply]
    exact congrArg _ (run_behind c tasks task).symm

theorem round_eq_iterate (c : Cluster) : c.round = (·.runAt 0)^[c.queue.length] c := by
  have hround := foldl_run_eq_iterate c.queue { c with queue := [] }
  dsimp only at hround
  rwa [List.append_nil] at hround

/-- What is kept whenever the first of the queued tasks does a stint is kept by a round. -/
theorem round_induction {P : Cluster → Prop} (h : P c) (hstint : ∀ c, P c → P (c.runAt 0)) :
    P c.round := by
  rw [round_eq_iterate]
  exact Function.Iterate.rec P h hstint _

theorem drain_induction {P : Cluster → Prop} (h : P c) (hstint : ∀ c, P c → P (c.runAt 0)) :
    P c.drain := by
  have hrounds : ∀ (n : Nat) (c : Cluster), P c → P (rounds n c) := by
    intro n
    induction n with
    | zero => exact fun c h => h
    | succ n ih => exact fun c h => ih c.round (round_induction h hstint)
  exact hrounds _ _ (round_induction h hstint)

/-! ### Changes of membership -/

theorem addNode_effect (hopen : c.closed = false) (id host : String) (port : UInt16) :
    ∃ f q m g, (c.addNode id host port).2 =
        { c with fleet := f, queue := q, metrics := m, registry := g } ∧
      Effect c (.addNode id host port) f q := by
  cases h : c.fleet.add? { id, host, port } with
  | none =>
    rw [addNode_of_taken h]
    exact ⟨_, _, _, _, rfl, .look (.refl _) fun _ _ => rfl⟩
  | some added =>
    obtain ⟨unit, fleet⟩ := added
    obtain ⟨-, registration, m, g, heq⟩ := addNode_of_free h
    obtain ⟨rfl, hadmission⟩ := Fleet.admission_of_add? h
    refine ⟨_, _, m, g, heq, ?_⟩
    rw [if_neg (by simp [hopen])]
    exact .join registration hadmission

theorem removeNode_effect (hs : c.fleet.ring.Sound) (hopen : c.closed = false) (id : String) :
    ∃ f q m g, (c.removeNode id).2 =
        { c with fleet := f, queue := q, metrics := m, registry := g } ∧
      Effect c (.removeNode id) f q := by
  cases h : c.fleet.ring.get? id with
  | none =>
    rw [removeNode_of_absent h]
    exact ⟨_, _, _, _, rfl, .look (.refl _) fun _ _ => rfl⟩
  | some unit =>
    obtain ⟨-, fleet, tail, m, g, heq, hdeparture, htail⟩ := removeNode_of_present hs h
    refine ⟨_, _, m, g, heq, ?_⟩
    rw [← hs.id_of_get? h]
    rcases htail with ⟨rfl, hidle⟩ | ⟨registration, rfl⟩
    · rw [List.append_nil]
      exact .depart hdeparture (hidle.resolve_left (by simp [hopen]))
    · exact .leave registration hdeparture

theorem switch_effect (hs : c.fleet.ring.Sound) (id : String) (active : Bool) :
    ∃ f, c.switch id active = { c with fleet := f } ∧ Fleet.Switching c.fleet f := by
  unfold switch
  cases h : c.fleet.ring.get? id with
  | none => exact ⟨_, rfl, .refl _⟩
  | some unit =>
    have hmember : unit ∈ c.fleet.units := (Fleet.mem_units hs).2 (by rw [hs.id_of_get? h, h])
    exact ⟨_, rfl, Fleet.switching_setActive hmember active⟩

end Cluster

namespace Session

variable {s : Session} {event : Event}

theorem step_effect_of_isIndifferent (hs : s.cluster.fleet.ring.Sound)
    (hindifferent : event.isIndifferent = true) :
    ∃ f q m g, (s.step event).cluster =
        { s.cluster with fleet := f, queue := q, metrics := m, registry := g } ∧
      Effect s.cluster event f q := by
  cases event with
  | put key value =>
    rcases Cluster.put_snd s.cluster key value with ⟨m, h⟩ | ⟨m, h⟩ | ⟨m, g, h⟩
    · exact ⟨_, _, m, _, h, .look (.refl _) fun _ _ => rfl⟩
    · exact ⟨_, _, m, _, h, .submit key value⟩
    · exact ⟨_, _, m, g, h, .store key value (Cluster.stints_of_round _ _ _)⟩
  | get key =>
    obtain ⟨f, m, h, hshape, hcopy⟩ := Cluster.get_snd s.cluster key
    exact ⟨f, _, m, _, h, .look hshape hcopy⟩
  | delete key =>
    obtain ⟨f, m, h, hshape, hcopy⟩ := Cluster.delete_snd hs key
    exact ⟨f, _, m, _, h, .delete hshape hcopy⟩
  | repair key => exact ⟨_, _, _, _, rfl, .repair key⟩
  | verify =>
    exact ⟨_, _, _, _, rfl, .look (Fleet.sameShape_verify _ _) (Fleet.copy_verify _ _)⟩
  | check down =>
    exact ⟨_, _, _, _, rfl, .switch (Fleet.switching_check down s.monitor s.cluster.fleet)⟩
  | switch id active =>
    obtain ⟨f, h, hswitching⟩ := Cluster.switch_effect hs id active
    exact ⟨f, _, _, _, h, .switch hswitching⟩
  | run index =>
    obtain ⟨f, q, m, g, h, hstints⟩ := Cluster.stints_runAt s.cluster index
    exact ⟨f, q, m, g, h, .work hstints⟩
  | reorder index entries => exact ⟨_, _, _, _, rfl, .work (s.cluster.stints_reorderAt index entries)⟩
  | drain =>
    obtain ⟨f, m, g, h, hstints⟩ := Cluster.drain_eq s.cluster
    exact ⟨f, _, m, g, h, .work hstints⟩
  | _ => simp [Event.isIndifferent] at hindifferent

/-- As long as background work goes on, an event changes the fleet and the queue in one of the ways
listed, and the settings of the cluster not at all. -/
theorem step_effect (hs : s.cluster.fleet.ring.Sound) (hopen : s.cluster.closed = false)
    (hgoes : event.goesOn = true) :
    ∃ f q m g, (s.step event).cluster =
        { s.cluster with fleet := f, queue := q, metrics := m, registry := g } ∧
      Effect s.cluster event f q := by
  cases event with
  | submit key value =>
    obtain ⟨g, h⟩ := Cluster.submit_snd s.cluster key value
    rw [if_neg (by simp [hopen])] at h
    exact ⟨_, _, _, g, h, .submit key value⟩
  | addNode id host port => exact Cluster.addNode_effect hopen id host port
  | removeNode id => exact Cluster.removeNode_effect hs hopen id
  | shutdown graceMillis => simp [Event.goesOn] at hgoes
  | _ => exact step_effect_of_isIndifferent hs rfl

end Session

/-- The ring stays as it is, or a unit is admitted to it, or a unit is removed from it. -/
theorem Effect.ring {c : Cluster} {event : Event} {fleet : Fleet} {queue : List Task}
    (h : Effect c event fleet queue) : fleet.ring = c.fleet.ring ∨
    (∃ unit, c.fleet.ring.insert? unit = some fleet.ring ∧ unit.id ∈ event.admits) ∨
    (∃ id, c.fleet.ring.erase? id = some fleet.ring) := by
  cases h with
  | look shape _ => exact Or.inl shape.ring
  | store key value stints =>
    exact Or.inl (stints.sameShape.trans (Fleet.sameShape_storeOn _ _ _ _)).ring
  | submit => exact Or.inl rfl
  | delete shape _ => exact Or.inl shape.ring
  | @join _ _ unit _ _ admission =>
    exact Or.inr (Or.inl ⟨unit, admission.inserted, List.mem_singleton_self _⟩)
  | depart departure _ => exact Or.inr (Or.inr ⟨_, departure.erased⟩)
  | leave _ departure => exact Or.inr (Or.inr ⟨_, departure.erased⟩)
  | repair key => exact Or.inl (Fleet.sameShape_repair _ _ _).ring
  | switch switching => exact Or.inl switching.ring
  | work stints => exact Or.inl stints.sameShape.ring

/-! ## Sessions whose background work goes on -/

/-- The ring is sound and background work goes on. -/
structure Session.Working (s : Session) : Prop where
  /-- The ring is sound. -/
  sound : s.cluster.fleet.ring.Sound
  /-- Tasks are taken. -/
  opened : s.cluster.closed = false

namespace Session

variable {s : Session}

theorem Working.step (h : s.Working) {event : Event} (hgoes : event.goesOn = true) :
    (s.step event).Working := by
  obtain ⟨f, q, m, g, heq, heffect⟩ := step_effect h.sound h.opened hgoes
  constructor
  · rw [heq]
    rcases heffect.ring with hsame | ⟨unit, hinsert, -⟩ | ⟨id, herase⟩
    · exact hsame ▸ h.sound
    · exact h.sound.insert? hinsert
    · exact h.sound.erase? herase
  · rw [heq]
    exact h.opened

theorem Working.run (h : s.Working) {events : List Event} (hgoes : ∀ e ∈ events, e.goesOn = true) :
    (s.run events).Working := by
  induction events generalizing s with
  | nil => exact h
  | cons event events ih =>
    obtain ⟨hfirst, htail⟩ := List.forall_mem_cons.1 hgoes
    exact ih (h.step hfirst) htail

theorem run_settings (h : s.Working) {events : List Event}
    (hgoes : ∀ e ∈ events, e.goesOn = true) :
    (s.run events).cluster.replicationFactor = s.cluster.replicationFactor ∧
      (s.run events).cluster.fleet.ring.virtualNodes = s.cluster.fleet.ring.virtualNodes := by
  induction events generalizing s with
  | nil => exact ⟨rfl, rfl⟩
  | cons event events ih =>
    obtain ⟨hfirst, htail⟩ := List.forall_mem_cons.1 hgoes
    obtain ⟨f, q, m, g, heq, heffect⟩ := step_effect h.sound h.opened hfirst
    obtain ⟨hfactor, hnodes⟩ := ih (h.step hfirst) htail
    refine ⟨hfactor.trans (by rw [heq]), hnodes.trans ?_⟩
    rw [heq]
    rcases heffect.ring with hsame | ⟨unit, hinsert, -⟩ | ⟨id, herase⟩
    · exact congrArg Ring.virtualNodes hsame
    · exact Ring.virtualNodes_insert? hinsert
    · exact Ring.virtualNodes_erase? herase

/-- An invariant of fleets that admissions keep holds of a new fleet. -/
theorem enlist_induction_add? {P : Fleet → Prop} (virtualNodes : Nat) (units : List UnitSpec)
    (hempty : P (.empty virtualNodes))
    (hadd : ∀ spec ∈ units, ∀ fleet fleet' unit, P fleet →
      fleet.add? { id := spec.id, host := spec.host, port := spec.port } = some (unit, fleet') →
      P fleet') : P (enlist virtualNodes units) := by
  have hfold : ∀ (rest : List UnitSpec) (fleet : Fleet), P fleet →
      (∀ spec ∈ rest, spec ∈ units) → P (rest.foldl (fun fleet unit =>
        match fleet.add? { id := unit.id, host := unit.host, port := unit.port } with
        | some (_, fleet) => fleet
        | none => fleet) fleet) := by
    intro rest
    induction rest with
    | nil => exact fun _ h _ => h
    | cons spec rest ih =>
      intro fleet h hspecs
      obtain ⟨hfirst, htail⟩ := List.forall_mem_cons.1 hspecs
      rw [List.foldl_cons]
      refine ih _ ?_ htail
      cases hadded : fleet.add? { id := spec.id, host := spec.host, port := spec.port } with
      | none => exact h
      | some added => exact hadd spec hfirst fleet added.2 added.1 h hadded
  exact hfold units _ hempty fun spec hspec => hspec

theorem enlist_induction {P : Fleet → Prop} (virtualNodes : Nat) (units : List UnitSpec)
    (hempty : P (.empty virtualNodes))
    (hadd : ∀ fleet fleet' unit, P fleet → Fleet.Admission fleet fleet' unit →
      unit.id ∈ units.map (·.id) → P fleet') : P (enlist virtualNodes units) := by
  refine enlist_induction_add? virtualNodes units hempty fun spec hspec fleet fleet' unit h hadded => ?_
  obtain ⟨hid, hadmission⟩ := Fleet.admission_of_add? hadded
  exact hadd fleet fleet' unit h hadmission (by rw [hid]; exact List.mem_map_of_mem hspec)

theorem virtualNodes_enlist (virtualNodes : Nat) (units : List UnitSpec) :
    (enlist virtualNodes units).ring.virtualNodes = virtualNodes :=
  enlist_induction (P := fun fleet => fleet.ring.virtualNodes = virtualNodes) virtualNodes units rfl
    fun _ _ _ h admission _ => (Ring.virtualNodes_insert? admission.inserted).trans h

theorem copy_enlist (virtualNodes : Nat) (units : List UnitSpec) (w : UnitRef) (key : String) :
    (enlist virtualNodes units).copy w key = none := by
  refine enlist_induction (P := fun fleet => fleet.copy w key = none) virtualNodes units ?_ ?_
  · simp [Fleet.copy, Fleet.get, Fleet.empty, Pool.get]
  · intro fleet fleet' unit hnone hadmission _
    rw [hadmission.copy, hnone, ite_self]

theorem working_start (virtualNodes replicationFactor writeTimeout : Nat)
    (units : List UnitSpec) :
    (start virtualNodes replicationFactor writeTimeout units).Working where
  sound := enlist_induction (P := fun fleet => fleet.ring.Sound) virtualNodes units
    (Ring.sound_empty virtualNodes) fun _ _ _ h hadmission _ => h.insert? hadmission.inserted
  opened := rfl

end Session

/-! ## Open and closed clusters -/

namespace Cluster

variable {c : Cluster}

theorem closed_submit (c : Cluster) (key value : String) :
    (c.submit key value).closed = c.closed := by
  obtain ⟨g, hsubmit⟩ := submit_snd c key value
  rw [hsubmit]

theorem closed_removeNode (c : Cluster) (id : String) : (c.removeNode id).2.closed = c.closed := by
  rcases removeNode_snd c id with heq | ⟨unit, fleet, q, m, g, heq, -⟩
  · rw [heq]
  · rw [heq]

/-- A delete changes no more than the units and the metrics. -/
theorem delete_eq (c : Cluster) (key : String) :
    ∃ f m, (c.delete key).2 = { c with fleet := f, metrics := m } := by
  obtain ⟨f, m, hremove, -⟩ := removeFrom_snd c key (c.replicas key)
  unfold delete
  dsimp only
  rw [hremove]
  split
  · exact ⟨f, _, rfl⟩
  · exact ⟨f, m, rfl⟩

theorem closed_delete (c : Cluster) (key : String) : (c.delete key).2.closed = c.closed := by
  obtain ⟨f, m, hdelete⟩ := delete_eq c key
  rw [hdelete]

theorem closed_addNode (c : Cluster) (id host : String) (port : UInt16) :
    (c.addNode id host port).2.closed = c.closed := by
  cases h : c.fleet.add? { id, host, port } with
  | none => rw [addNode_of_taken h]
  | some added =>
    obtain ⟨-, registration, m, g, hadd⟩ := addNode_of_free h
    rw [hadd]

theorem closed_switch (c : Cluster) (id : String) (active : Bool) :
    (c.switch id active).closed = c.closed := by
  unfold switch
  split
  · rfl
  · rfl

/-- Tasks that are dropped change the registry only. -/
theorem foldl_conclude (tasks : List Task) (c : Cluster) :
    ∃ g, tasks.foldl conclude c = { c with registry := g } := by
  induction tasks generalizing c with
  | nil => exact ⟨c.registry, rfl⟩
  | cons task tasks ih =>
    obtain ⟨g, hconclude⟩ := conclude_eq c task
    obtain ⟨g', htail⟩ := ih (c.conclude task)
    exact ⟨g', by rw [List.foldl_cons, htail, hconclude]⟩

/-- A shutdown runs all tasks or none, and nothing is queued any more. -/
theorem shutdown_snd (c : Cluster) (graceMillis : Nat) : ∃ f m g, (c.shutdown graceMillis).2 =
    { c with fleet := f, queue := [], metrics := m, registry := g, closed := true } ∧
      (f = c.fleet ∨ Stints c.replicationFactor c.fleet c.queue f []) := by
  unfold shutdown
  dsimp only
  split
  · obtain ⟨g, hdropped⟩ := foldl_conclude c.queue { c with queue := [], closed := true }
    exact ⟨_, _, g, hdropped, Or.inl rfl⟩
  · obtain ⟨f, m, g, hdrain, hstints⟩ := drain_eq { c with closed := true }
    exact ⟨f, m, g, hdrain, Or.inr hstints⟩

theorem closed_shutdown (c : Cluster) (graceMillis : Nat) :
    (c.shutdown graceMillis).2.closed = true := by
  obtain ⟨f, m, g, hshutdown, -⟩ := shutdown_snd c graceMillis
  rw [hshutdown]

end Cluster

namespace Session

variable {s : Session}

theorem closed_step_of_goesOn {event : Event} (h : event.goesOn = true) :
    (s.step event).cluster.closed = s.cluster.closed := by
  cases event with
  | put key value =>
    rcases Cluster.put_snd s.cluster key value with ⟨m, hput⟩ | ⟨m, hput⟩ | ⟨m, g, hput⟩
    · rw [step, hput]
    · rw [step, hput]
    · rw [step, hput]
  | submit key value => exact Cluster.closed_submit s.cluster key value
  | get key =>
    obtain ⟨f, m, hget, -⟩ := Cluster.get_snd s.cluster key
    rw [step, hget]
  | delete key => exact Cluster.closed_delete s.cluster key
  | addNode id host port => exact Cluster.closed_addNode s.cluster id host port
  | removeNode id => exact Cluster.closed_removeNode s.cluster id
  | repair key => rfl
  | verify => rfl
  | check down => rfl
  | switch id active => exact Cluster.closed_switch s.cluster id active
  | run index =>
    obtain ⟨f, q, m, g, hrun, -⟩ := Cluster.stints_runAt s.cluster index
    rw [step, hrun]
  | reorder index entries => rfl
  | drain =>
    obtain ⟨f, m, g, hdrain, -⟩ := Cluster.drain_eq s.cluster
    rw [step, hdrain]
  | shutdown graceMillis => simp [Event.goesOn] at h

/-- A shutdown closes a cluster, and nothing opens it again. -/
theorem closed_step (s : Session) (event : Event) :
    (s.step event).cluster.closed = (s.cluster.closed || !event.goesOn) := by
  cases hgoes : event.goesOn with
  | true => rw [closed_step_of_goesOn hgoes, Bool.not_true, Bool.or_false]
  | false =>
    cases event with
    | shutdown graceMillis =>
      rw [step, Cluster.closed_shutdown, Bool.not_false, Bool.or_true]
    | _ => simp [Event.goesOn] at hgoes

/-- As long as a cluster is open, background work has gone on. -/
theorem goesOn_of_open {events : List Event} (hopen : (s.run events).cluster.closed = false) :
    ∀ e ∈ events, e.goesOn = true := by
  have hclosed : ∀ (events : List Event) (s : Session), (s.run events).cluster.closed =
      (s.cluster.closed || events.any (!·.goesOn)) := by
    intro events
    induction events with
    | nil => exact fun s => (Bool.or_false _).symm
    | cons event events ih =>
      intro s
      rw [run, List.foldl_cons]
      refine (ih (s.step event)).trans ?_
      rw [closed_step, List.any_cons, Bool.or_assoc]
  rw [hclosed, Bool.or_eq_false_iff, List.any_eq_false] at hopen
  exact fun e he => by simpa using hopen.2 e he

end Session

end QuorumRing
