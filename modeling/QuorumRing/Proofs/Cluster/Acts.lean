import QuorumRing.Proofs.Cluster.Work

/-!
# Acts

A unit is shared between the ring, the tasks that will run and whoever asked for it, so requests
reach it also directly, past the coordinator and after it has left the ring. An act is an event of
the cluster or such a request, and `Session.play` lets acts happen one after the other, also after a
shutdown.

An act does one of four things to the fleet (`Fleet.Turn`): it works on entries, it switches units,
it admits a unit or it takes one out of the ring. What it queues is listed in `Fresh`.
-/

namespace QuorumRing

/-! ## Rings that have changed -/

namespace Ring

variable {ring ring' : Ring} {unit : UnitRef} {id : String}

theorem ne_of_insert? (h : ring.insert? unit = some ring') : ring' ≠ ring := by
  rintro rfl
  have hregistered : ring'.get? unit.id = some unit := by
    rw [get?_insert? h, if_pos rfl]
  rw [get?_eq_none_iff.2 (insert?_eq_some_iff.1 h).1] at hregistered
  simp at hregistered

theorem ne_of_erase? (h : ring.erase? id = some ring') : ring' ≠ ring := by
  rintro rfl
  have habsent : ring'.get? id = none := by
    rw [get?_erase? h, if_pos rfl]
  obtain ⟨member, hmember, -⟩ := erase?_eq_some_iff.1 h
  refine get?_eq_none_iff.1 habsent (Std.ExtTreeMap.mem_iff_isSome_getElem?.2 ?_)
  rw [hmember, Option.isSome_some]

/-- A ring that changes has other members. -/
theorem units_ne_of_insert? (hs : ring.Sound) (h : ring.insert? unit = some ring') :
    ring'.units ≠ ring.units := by
  intro hsame
  have hmember : unit ∈ ring'.units := by
    rw [mem_units (hs.insert? h), get?_insert? h, if_pos rfl]
  rw [hsame, mem_units hs, get?_eq_none_iff.2 (insert?_eq_some_iff.1 h).1] at hmember
  simp at hmember

theorem units_ne_of_erase? (hs : ring.Sound) (h : ring.erase? id = some ring') :
    ring'.units ≠ ring.units := by
  intro hsame
  obtain ⟨member, hmember, -⟩ := erase?_eq_some_iff.1 h
  have hget : ring.get? id = some member.unit := get?_eq_some_iff.2 ⟨member, hmember, rfl⟩
  have hregistered : member.unit ∈ ring.units := by
    rw [mem_units hs, hs.id_of_get? hget, hget]
  rw [← hsame, mem_units (hs.erase? h), hs.id_of_get? hget, get?_erase? h, if_pos rfl]
    at hregistered
  simp at hregistered

end Ring

/-! ## Requests to single units -/

/-- What can be asked of a unit directly. -/
inductive UnitRequest where
  /-- Store a value. -/
  | put (key value : String)
  /-- Read a value. -/
  | get (key : String)
  /-- Remove a key. -/
  | remove (key : String)
  /-- Switch on or off. -/
  | setActive (active : Bool)
  /-- Perform a self test. -/
  | selfTest
deriving DecidableEq, Repr

/-- What a request to one of its units makes of a fleet. -/
def Fleet.serve (fleet : Fleet) (unit : UnitRef) : UnitRequest → Fleet
  | .put key value => (fleet.attempt unit (·.put key value)).2
  | .get key => (fleet.attempt unit (·.get key)).2
  | .remove key => (fleet.attempt unit (·.remove key)).2
  | .setActive active => fleet.setActive unit active
  | .selfTest => { fleet with pool := fleet.pool.set unit (fleet.get unit).selfTest.2 }

/-- An event of the cluster, or a request to a unit. -/
inductive Act where
  /-- An event of the cluster. -/
  | event (event : Event)
  /-- A request to a unit. -/
  | request (unit : UnitRef) (request : UnitRequest)
deriving DecidableEq, Repr

/-- Whether units may be switched, or members come and go. -/
def Event.reorganizes : Event → Bool
  | .addNode .. | .removeNode _ | .check _ | .switch .. => true
  | _ => false

namespace Act

/-- The entry that a client hands in. -/
def supply? : Act → Option (String × String)
  | .event (.put key value) | .event (.submit key value) | .request _ (.put key value) =>
    some (key, value)
  | _ => none

/-- The key that is written, deleted or repaired. -/
def key? : Act → Option String
  | .event (.put key _) | .event (.submit key _) | .event (.delete key) | .event (.repair key)
  | .request _ (.put key _) | .request _ (.remove key) => some key
  | _ => none

/-- What the act stores or gives up itself is among the allowed entries. -/
structure Fits (allowed : String → String → Prop) (fleet : Fleet) (act : Act) : Prop where
  /-- What is handed in is allowed. -/
  supply : ∀ key value, act.supply? = some (key, value) → allowed key value
  /-- So are the copies of the key in question. -/
  entries : ∀ key, act.key? = some key → fleet.EntriesIn allowed key

theorem fits_all (act : Act) (fleet : Fleet) : act.Fits (fun _ _ => True) fleet :=
  ⟨fun _ _ _ => trivial, fun _ _ _ _ _ => trivial⟩

end Act

namespace Session

/-- What happens in an act. -/
def act (s : Session) : Act → Session
  | .event event => s.step event
  | .request unit request =>
    { s with cluster := { s.cluster with fleet := s.cluster.fleet.serve unit request } }

/-- What happens in a row of acts. -/
def play (s : Session) (acts : List Act) : Session := acts.foldl act s

theorem play_append (s : Session) (acts later : List Act) :
    s.play (acts ++ later) = (s.play acts).play later :=
  List.foldl_append

theorem run_eq_play (s : Session) (events : List Event) :
    s.run events = s.play (events.map .event) := by
  rw [play, List.foldl_map]
  rfl

end Session

/-! ## What an act does to the fleet -/

namespace Fleet

/-- Every unit holds what it held, and has counted what it had counted. -/
structure SameData (fleet fleet' : Fleet) : Prop where
  /-- The entries are the same. -/
  contents : ∀ unit, (fleet'.get unit).contents = (fleet.get unit).contents
  /-- The counters are the same. -/
  operations : ∀ unit, (fleet'.get unit).operations = (fleet.get unit).operations

/-- What can become of a fleet in one act. -/
inductive Turn (allowed : String → String → Prop) (fleet : Fleet) : Fleet → Prop where
  /-- Units are asked, and nobody is switched meanwhile. -/
  | work {fleet' : Fleet} (work : Work allowed fleet fleet') : Turn allowed fleet fleet'
  /-- Units are switched. -/
  | switch {fleet' : Fleet} (ring : fleet'.ring = fleet.ring) (data : SameData fleet fleet') :
      Turn allowed fleet fleet'
  /-- A unit is admitted. -/
  | join {fleet' : Fleet} {id host : String} {port : UInt16} {unit : UnitRef}
      (added : fleet.add? { id, host, port } = some (unit, fleet')) : Turn allowed fleet fleet'
  /-- A unit is taken out of the ring. -/
  | leave {fleet' : Fleet} {id : String} (erased : fleet.ring.erase? id = some fleet'.ring)
      (data : SameData fleet fleet') : Turn allowed fleet fleet'

variable {fleet fleet' : Fleet} {unit : UnitRef} {allowed : String → String → Prop}

namespace SameData

theorem refl (fleet : Fleet) : SameData fleet fleet := ⟨fun _ => rfl, fun _ => rfl⟩

theorem trans {a b c : Fleet} (h : SameData a b) (h' : SameData b c) : SameData a c where
  contents unit := (h'.contents unit).trans (h.contents unit)
  operations unit := (h'.operations unit).trans (h.operations unit)

theorem copy (h : SameData fleet fleet') (w : UnitRef) (key : String) :
    fleet'.copy w key = fleet.copy w key := by
  rw [Fleet.copy, h.contents]
  rfl

end SameData

theorem sameData_set {state : StorageUnit} (hcontents : state.contents = (fleet.get unit).contents)
    (hoperations : state.operations = (fleet.get unit).operations) :
    SameData fleet { fleet with pool := fleet.pool.set unit state } := by
  have hget : ∀ w, w ≠ unit → (fleet.pool.set unit state).get w = fleet.pool.get w := fun w hw =>
    Pool.get_set_of_ne _ (Ne.symm hw) _
  constructor
  · intro w
    by_cases hw : w = unit
    · simp [hw, get, hcontents]
    · exact congrArg StorageUnit.contents (hget w hw)
  · intro w
    by_cases hw : w = unit
    · simp [hw, get, hoperations]
    · exact congrArg StorageUnit.operations (hget w hw)

theorem sameData_setActive (fleet : Fleet) (unit : UnitRef) (active : Bool) :
    SameData fleet (fleet.setActive unit active) :=
  sameData_set rfl rfl

theorem sameData_checkUnits (down : List String) (units : List UnitRef) (monitor : Monitor)
    (report : HealthReport) (fleet : Fleet) : SameData fleet
      (Monitor.checkUnits (.failingFor down) monitor report fleet units).2.2 := by
  induction units generalizing fleet monitor report with
  | nil => exact SameData.refl fleet
  | cons unit units ih =>
    have hprobed : SameData fleet { fleet with
        pool := fleet.pool.set unit (Probe.failingFor down (fleet.get unit)).2 } := by
      refine sameData_set (contents_probe down _) ?_
      unfold Probe.failingFor
      split
      · rfl
      · rfl
    have hfirst : SameData fleet
        (Monitor.checkUnit (.failingFor down) unit monitor report fleet).2.2 := by
      unfold Monitor.checkUnit
      dsimp only
      split
      · exact hprobed.trans (sameData_setActive _ unit false)
      · split
        · exact hprobed.trans (sameData_setActive _ unit true)
        · exact hprobed
    exact hfirst.trans (ih _ _ _)

/-- A fleet stays sound whatever happens. -/
theorem Turn.sound (h : Turn allowed fleet fleet') (hs : fleet.ring.Sound) :
    fleet'.ring.Sound := by
  cases h with
  | work hwork => exact hwork.shape.ring ▸ hs
  | switch hring _ => exact hring ▸ hs
  | join hadded => exact hs.insert? (admission_of_add? hadded).2.inserted
  | leave herased _ => exact hs.erase? herased

/-- As long as the members stay the same, so does the ring. -/
theorem Turn.ring_of_units (h : Turn allowed fleet fleet') (hs : fleet.ring.Sound)
    (hunits : fleet'.units = fleet.units) : fleet'.ring = fleet.ring := by
  cases h with
  | work hwork => exact hwork.shape.ring
  | switch hring _ => exact hring
  | join hadded =>
    have hinserted := (admission_of_add? hadded).2.inserted
    exact absurd hunits (Ring.units_ne_of_insert? hs hinserted)
  | leave herased _ => exact absurd hunits (Ring.units_ne_of_erase? hs herased)

/-- No entries turn up but allowed ones. -/
theorem Turn.entriesIn {key : String} (h : Turn allowed fleet fleet')
    (hin : fleet.EntriesIn allowed key) : fleet'.EntriesIn allowed key := by
  cases h with
  | work hwork => exact hwork.entriesIn hin
  | switch _ hdata => exact fun w value hv => hin w value ((hdata.copy w key).symm.trans hv)
  | join hadded =>
    intro w value hv
    rw [(admission_of_add? hadded).2.copy] at hv
    split at hv
    · simp at hv
    · exact hin w value hv
  | leave _ hdata => exact fun w value hv => hin w value ((hdata.copy w key).symm.trans hv)

/-- A request to a unit works on its entries or switches it. -/
theorem turn_serve (unit : UnitRef) {request : UnitRequest}
    (hfits : (Act.request unit request).Fits allowed fleet) :
    Turn allowed fleet (fleet.serve unit request) := by
  cases request with
  | put key value => exact .work (.store fleet unit (hfits.supply key value rfl))
  | get key => exact .work (.read fleet unit key)
  | remove key => exact .work (.discard fleet unit (hfits.entries key rfl unit))
  | setActive active => exact .switch rfl (sameData_setActive fleet unit active)
  | selfTest => exact .switch rfl (sameData_set (by rw [StorageUnit.selfTest_eq]) rfl)

end Fleet

namespace Cluster

variable {allowed : String → String → Prop} {c : Cluster} {task : Task}

theorem fleet_submit (c : Cluster) (key value : String) : (c.submit key value).fleet = c.fleet := by
  obtain ⟨g, hsubmit⟩ := submit_snd c key value
  rw [hsubmit]

theorem turn_addNode (id host : String) (port : UInt16) :
    Fleet.Turn allowed c.fleet (c.addNode id host port).2.fleet := by
  cases hadded : c.fleet.add? { id, host, port } with
  | none =>
    rw [addNode_of_taken hadded]
    exact .work (.refl _)
  | some added =>
    obtain ⟨unit, fleet⟩ := added
    obtain ⟨-, registration, m, g, heq⟩ := addNode_of_free hadded
    rw [heq]
    exact .join hadded

theorem turn_removeNode (c : Cluster) (id : String) :
    Fleet.Turn allowed c.fleet (c.removeNode id).2.fleet := by
  rcases removeNode_snd c id with heq | ⟨unit, fleet, q, m, g, heq, hremoved, -⟩
  · rw [heq]
    exact .work (.refl _)
  · obtain ⟨ring, hring, rfl⟩ := Option.map_eq_some_iff.1 hremoved
    have hoff := Fleet.sameData_setActive c.fleet unit false
    rw [heq]
    exact .leave hring ⟨hoff.contents, hoff.operations⟩

theorem turn_switch (c : Cluster) (id : String) (active : Bool) :
    Fleet.Turn allowed c.fleet (c.switch id active).fleet := by
  unfold switch
  split
  next unit hunit => exact .switch rfl (Fleet.sameData_setActive c.fleet unit active)
  · exact .work (.refl _)

end Cluster

namespace Session

variable {allowed : String → String → Prop} {s : Session} {task : Task} {a : Act}

/-- Events that neither switch units nor change who is a member are work on entries. -/
theorem work_step (htasks : ∀ task ∈ s.cluster.queue, task.Fits allowed s.cluster.fleet)
    {event : Event} (hact : (Act.event event).Fits allowed s.cluster.fleet)
    (hevent : event.reorganizes = false) :
    Fleet.Work allowed s.cluster.fleet (s.step event).cluster.fleet := by
  cases event with
  | put key value => exact Cluster.work_put htasks (hact.supply key value rfl)
  | submit key value =>
    have hsame : (s.step (.submit key value)).cluster.fleet = s.cluster.fleet :=
      Cluster.fleet_submit s.cluster key value
    rw [hsame]
    exact .refl _
  | get key => exact Cluster.work_get s.cluster key
  | delete key => exact Cluster.work_delete (hact.entries key rfl)
  | repair key => exact Fleet.work_repair (hact.entries key rfl) _
  | verify => exact Fleet.work_verify s.cluster.fleet _
  | run index => exact Cluster.work_runAt htasks index
  | reorder => exact .refl _
  | drain => exact Cluster.work_drain htasks
  | shutdown graceMillis => exact Cluster.work_shutdown htasks graceMillis
  | addNode | removeNode | check | switch => exact absurd hevent.symm Bool.false_ne_true

/-- What an act can do to the fleet. -/
theorem turn (htasks : ∀ task ∈ s.cluster.queue, task.Fits allowed s.cluster.fleet)
    (hact : a.Fits allowed s.cluster.fleet) :
    Fleet.Turn allowed s.cluster.fleet (s.act a).cluster.fleet := by
  cases a with
  | request unit request => exact Fleet.turn_serve unit hact
  | event event =>
    cases event with
    | addNode id host port => exact Cluster.turn_addNode id host port
    | removeNode id => exact Cluster.turn_removeNode s.cluster id
    | check down =>
      exact .switch (Fleet.switching_check down s.monitor s.cluster.fleet).ring
        (Fleet.sameData_checkUnits down _ s.monitor {} s.cluster.fleet)
    | switch id active => exact Cluster.turn_switch s.cluster id active
    | _ => exact .work (work_step htasks hact rfl)

/-- If any entry is allowed, nothing has to be known about the tasks and the act. -/
theorem turn_act (s : Session) (a : Act) :
    Fleet.Turn (fun _ _ => True) s.cluster.fleet (s.act a).cluster.fleet :=
  turn (fun task _ => task.fits_all s.cluster.fleet) (a.fits_all s.cluster.fleet)

theorem sameShape_step (s : Session) {event : Event} (hevent : event.reorganizes = false) :
    Fleet.SameShape s.cluster.fleet (s.step event).cluster.fleet :=
  (work_step (fun task _ => task.fits_all s.cluster.fleet)
    ((Act.event event).fits_all s.cluster.fleet) hevent).shape

theorem sound_act (hs : s.cluster.fleet.ring.Sound) (a : Act) :
    (s.act a).cluster.fleet.ring.Sound :=
  (turn_act s a).sound hs

theorem sound_play (hs : s.cluster.fleet.ring.Sound) (acts : List Act) :
    (s.play acts).cluster.fleet.ring.Sound := by
  induction acts generalizing s with
  | nil => exact hs
  | cons a acts ih => exact ih (sound_act hs a)

end Session

/-! ## What an act adds to the queue -/

/-- The tasks that an act can add to the queue. Migrations and redistributions come from changes of
the ring only. -/
inductive Fresh (c : Cluster) (act : Act) (fleet : Fleet) : Task → Prop where
  /-- The write of an entry that the act hands in. -/
  | write {key value : String} (target : UnitRef) (supply : act.supply? = some (key, value)) :
      Fresh c act fleet (.write target key value)
  /-- The migration onto a new unit. -/
  | join (unit : UnitRef) (registration : Registration) (changed : fleet.ring ≠ c.fleet.ring) :
      Fresh c act fleet (.join unit registration)
  /-- The redistribution of what a unit held. -/
  | leave (unit : UnitRef) (registration : Registration) (changed : fleet.ring ≠ c.fleet.ring) :
      Fresh c act fleet (.leave (c.fleet.get unit).contents.toList registration)

namespace Session

variable {s : Session} {a : Act}

/-- An act does not touch the settings of the cluster, and the queue is made of what is left of the
tasks queued before and of fresh tasks. -/
theorem act_eq (s : Session) (a : Act) : ∃ f q m g b, (s.act a).cluster =
    { s.cluster with fleet := f, queue := q, metrics := m, registry := g, closed := b } ∧
      ∀ task ∈ q, (∃ old ∈ s.cluster.queue, old.Leaves task) ∨ Fresh s.cluster a f task := by
  have hkeeps : ∀ {fleet : Fleet} {task : Task}, task ∈ s.cluster.queue →
      (∃ old ∈ s.cluster.queue, old.Leaves task) ∨ Fresh s.cluster a fleet task :=
    fun hmem => Or.inl ⟨_, hmem, .refl⟩
  have hwrites : ∀ {targets : List UnitRef} {key value : String} {task : Task},
      a.supply? = some (key, value) →
      task ∈ s.cluster.queue ++ targets.map (.write · key value) →
      (∃ old ∈ s.cluster.queue, old.Leaves task) ∨
        Fresh s.cluster a s.cluster.fleet task := by
    intro targets key value task hsupply hmem
    rcases List.mem_append.1 hmem with hold | hnew
    · exact hkeeps hold
    · obtain ⟨target, -, rfl⟩ := List.mem_map.1 hnew
      exact Or.inr (.write target hsupply)
  cases a with
  | request unit request => exact ⟨_, _, _, _, _, rfl, fun _ => hkeeps⟩
  | event event =>
    cases event with
    | put key value =>
      rcases Cluster.put_snd s.cluster key value with ⟨m, h⟩ | ⟨m, h⟩ | ⟨m, g, h⟩
      · exact ⟨_, _, m, _, _, h, fun _ => hkeeps⟩
      · exact ⟨_, _, m, _, _, h, fun _ => hwrites rfl⟩
      · exact ⟨_, _, m, g, _, h, fun _ hmem =>
          Or.inl ((Cluster.stints_of_round _ _ _).leaves hmem)⟩
    | submit key value =>
      obtain ⟨g, h⟩ := Cluster.submit_snd s.cluster key value
      refine ⟨_, _, _, g, _, h, fun task hmem => ?_⟩
      split at hmem
      · exact hkeeps (by simpa using hmem)
      · exact hwrites rfl hmem
    | get key =>
      obtain ⟨f, m, h, -⟩ := Cluster.get_snd s.cluster key
      exact ⟨_, _, m, _, _, h, fun _ => hkeeps⟩
    | delete key =>
      obtain ⟨f, m, h⟩ := Cluster.delete_eq s.cluster key
      exact ⟨f, _, m, _, _, h, fun _ => hkeeps⟩
    | addNode id host port =>
      rw [act, step]
      cases hadded : s.cluster.fleet.add? { id, host, port } with
      | none =>
        rw [Cluster.addNode_of_taken hadded]
        exact ⟨_, _, _, _, _, rfl, fun _ => hkeeps⟩
      | some added =>
        obtain ⟨unit, fleet⟩ := added
        obtain ⟨-, registration, m, g, h⟩ := Cluster.addNode_of_free hadded
        have hinserted := (Fleet.admission_of_add? hadded).2.inserted
        refine ⟨_, _, m, g, _, h, fun task hmem => ?_⟩
        refine (List.mem_append.1 hmem).elim hkeeps fun hnew => Or.inr ?_
        split at hnew
        · exact absurd hnew List.not_mem_nil
        · rw [List.mem_singleton.1 hnew]
          exact .join unit registration (Ring.ne_of_insert? hinserted)
    | removeNode id =>
      rw [act, step]
      rcases Cluster.removeNode_snd s.cluster id with h | ⟨unit, fleet, q, m, g, h, hremoved, hq⟩
      · rw [h]
        exact ⟨_, _, _, _, _, rfl, fun _ => hkeeps⟩
      · obtain ⟨ring, hring, rfl⟩ := Option.map_eq_some_iff.1 hremoved
        refine ⟨_, _, m, g, _, h, fun task hmem => ?_⟩
        refine (List.mem_append.1 hmem).elim hkeeps fun hnew => Or.inr ?_
        obtain ⟨registration, rfl⟩ := hq task hnew
        exact .leave unit registration (Ring.ne_of_erase? hring)
    | repair key => exact ⟨_, _, _, _, _, rfl, fun _ => hkeeps⟩
    | verify => exact ⟨_, _, _, _, _, rfl, fun _ => hkeeps⟩
    | check down => exact ⟨_, _, _, _, _, rfl, fun _ => hkeeps⟩
    | switch id active =>
      rw [act, step, Cluster.switch]
      split
      · exact ⟨_, _, _, _, _, rfl, fun _ => hkeeps⟩
      · exact ⟨_, _, _, _, _, rfl, fun _ => hkeeps⟩
    | run index =>
      rw [act, step, Cluster.runAt]
      split
      next task queued =>
        obtain ⟨m, g, h⟩ := Cluster.run_eq
          { s.cluster with queue := s.cluster.queue.eraseIdx index } task
        exact ⟨_, _, m, g, _, h, fun _ hmem =>
          Or.inl ((Stints.single (r := s.cluster.replicationFactor) queued).leaves hmem)⟩
      · exact ⟨_, _, _, _, _, rfl, fun _ => hkeeps⟩
    | reorder index entries =>
      exact ⟨_, _, _, _, _, rfl, fun _ hmem =>
        Or.inl ((s.cluster.stints_reorderAt index entries).leaves hmem)⟩
    | drain =>
      obtain ⟨f, m, g, h, -⟩ := Cluster.drain_eq s.cluster
      exact ⟨_, _, m, g, _, h, by simp⟩
    | shutdown graceMillis =>
      obtain ⟨f, m, g, h, -⟩ := Cluster.shutdown_snd s.cluster graceMillis
      exact ⟨_, _, m, g, _, h, by simp⟩

theorem tasks_act {task : Task} (h : task ∈ (s.act a).cluster.queue) :
    (∃ old ∈ s.cluster.queue, old.Leaves task) ∨
      Fresh s.cluster a (s.act a).cluster.fleet task := by
  obtain ⟨f, q, m, g, b, heq, htasks⟩ := act_eq s a
  rw [heq] at h ⊢
  exact htasks task h

theorem replicationFactor_act (s : Session) (a : Act) :
    (s.act a).cluster.replicationFactor = s.cluster.replicationFactor := by
  obtain ⟨f, q, m, g, b, heq, -⟩ := act_eq s a
  rw [heq]

/-- The settings stay as they are. -/
theorem settings_run (s : Session) (events : List Event) :
    (s.run events).cluster.replicationFactor = s.cluster.replicationFactor ∧
      (s.run events).cluster.writeTimeout = s.cluster.writeTimeout := by
  induction events generalizing s with
  | nil => exact ⟨rfl, rfl⟩
  | cons event events ih =>
    obtain ⟨f, q, m, g, b, heq, -⟩ := act_eq s (.event event)
    have hstep : (s.step event).cluster = { s.cluster with
        fleet := f, queue := q, metrics := m, registry := g, closed := b } := heq
    obtain ⟨hfactor, htime⟩ := ih (s.step event)
    rw [hstep] at hfactor htime
    exact ⟨hfactor, htime⟩

end Session

end QuorumRing
