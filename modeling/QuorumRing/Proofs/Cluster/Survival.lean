import QuorumRing.Proofs.Cluster.Session
import QuorumRing.Proofs.Ring.Labels

/-!
# No key is lost in changes of membership

A key that is stored on a member of the ring stays stored there, or else waits in the entries of a
removed unit that are to be stored again (`Kept`), whatever tasks are pending and in whatever order
they do their stints. A migration deletes a copy only after the new unit has taken it over. So it does
harm only if the new unit is no member any more, and then it is inactive and takes nothing over: this
is the invariant that carries the proof (`Steady`).
-/

namespace QuorumRing

/-! ## The keys of a fleet after some work -/

section Work

variable {fleet fleet' : Fleet} {r : Nat} {key value : String}

theorem storedKeys_of_copies (hring : fleet'.ring = fleet.ring)
    (hcopy : ∀ w, (fleet.copy w key).isSome → (fleet'.copy w key).isSome)
    (h : key ∈ fleet.storedKeys) : key ∈ fleet'.storedKeys := by
  obtain ⟨u, hu, hheld⟩ := Fleet.mem_storedKeys.1 h
  refine Fleet.mem_storedKeys.2 ⟨u, ?_, hcopy u hheld⟩
  rw [Fleet.units, hring]
  exact hu

theorem storedKeys_storeOn (units : List UnitRef) (j : String) (h : key ∈ fleet.storedKeys) :
    key ∈ (fleet.storeOn j value units).2.storedKeys := by
  refine storedKeys_of_copies (Fleet.sameShape_storeOn fleet j value units).ring (fun w hw => ?_) h
  rw [Fleet.copy_storeOn]
  split
  · rfl
  · exact hw

/-- To bring keys onto a member, or onto an inactive unit, loses no key. -/
theorem storedKeys_pullAll {target : UnitRef}
    (htarget : target ∈ fleet.units ∨ fleet.pool.isActive target = false) (others : List UnitRef)
    (report : MigrationReport) (keys : List String) (h : key ∈ fleet.storedKeys) :
    key ∈ (fleet.pullAll r target others report keys).2.storedKeys := by
  have hshape := Fleet.sameShape_pullAll fleet r target others report keys
  by_cases hmem : key ∈ keys
  · obtain ⟨u, hu, hheld⟩ := Fleet.mem_storedKeys.1 h
    rw [Fleet.mem_storedKeys, hshape.units]
    cases hdonor : fleet.donor? r target others key with
    | none =>
      refine ⟨u, hu, ?_⟩
      simp only [Fleet.copy_pullAll, Fleet.copy_pull, hdonor, ite_self]
      exact hheld
    | some donor =>
      obtain ⟨source, stale⟩ := donor
      obtain ⟨-, -, hsource⟩ := Fleet.donor?_spec hdonor
      by_cases hactive : fleet.pool.isActive target = true
      · have hmember := htarget.resolve_right (by simp [hactive])
        refine ⟨target, hmember, ?_⟩
        simp only [Fleet.copy_pullAll, Fleet.copy_pull, hdonor, hactive, hmem, and_self, if_true]
        exact hsource
      · refine ⟨u, hu, ?_⟩
        rw [Fleet.copy_pullAll, if_pos hmem, Fleet.copy_pull, if_neg fun h => hactive h.2]
        exact hheld
  · refine storedKeys_of_copies hshape.ring (fun w hw => ?_) h
    rwa [Fleet.copy_pullAll, if_neg hmem]

theorem storedKeys_repair (hs : fleet.ring.Sound) (j : String) (h : key ∈ fleet.storedKeys) :
    key ∈ (fleet.repair j r).2.storedKeys := by
  refine storedKeys_of_copies (Fleet.sameShape_repair fleet j r).ring (fun w hw => ?_) h
  rw [Fleet.copy_repair hs]
  split
  next hreplica =>
    obtain ⟨hmem, rfl⟩ := hreplica
    exact List.findSome?_isSome_iff.2 ⟨w, hmem, hw⟩
  · exact hw

theorem storedKeys_admission {unit : UnitRef} (hs : fleet.ring.Sound)
    (hadmission : Fleet.Admission fleet fleet' unit) (h : key ∈ fleet.storedKeys) :
    key ∈ fleet'.storedKeys := by
  obtain ⟨u, hu, hheld⟩ := Fleet.mem_storedKeys.1 h
  refine Fleet.mem_storedKeys.2 ⟨u, (hadmission.mem_units hs).2 (Or.inl hu), ?_⟩
  rwa [hadmission.copy_of_mem_units hs hu]

/-- A key that is not stored any more after the removal of a unit was held by that unit. -/
theorem storedKeys_departure {unit : UnitRef} (hs : fleet.ring.Sound)
    (hdeparture : Fleet.Departure fleet fleet' unit) (h : key ∈ fleet.storedKeys) :
    key ∈ fleet'.storedKeys ∨ (fleet.copy unit key).isSome := by
  obtain ⟨u, hu, hheld⟩ := Fleet.mem_storedKeys.1 h
  by_cases hother : u = unit
  · exact Or.inr (hother ▸ hheld)
  · refine Or.inl (Fleet.mem_storedKeys.2 ⟨u, (hdeparture.mem_units hs).2 ⟨hu, hother⟩, ?_⟩)
    rwa [hdeparture.copy]

/-- A redistribution loses no key, and stores those among its entries if there is a replica. -/
theorem storedKeys_redistribute (hs : fleet.ring.Sound) {entries : List (String × String)}
    (h : key ∈ fleet.storedKeys ∨ key ∈ entries.map (·.1) ∧ fleet.replicas key r ≠ []) :
    key ∈ (fleet.redistribute r entries).2.storedKeys := by
  have hshape := Fleet.sameShape_redistribute fleet r entries
  rcases h with h | ⟨hentry, hne⟩
  · refine storedKeys_of_copies hshape.ring (fun w hw => ?_) h
    rw [Fleet.copy_redistribute hs]
    split
    · rw [Option.isSome_or, hw, Bool.or_true]
    · exact hw
  · obtain ⟨w, hw⟩ := List.exists_mem_of_ne_nil _ hne
    rw [Fleet.mem_storedKeys, hshape.units]
    refine ⟨w, Fleet.mem_units_of_mem_replicas hs hw, ?_⟩
    rw [Fleet.copy_redistribute hs, if_pos hw, Option.isSome_or,
      Fleet.lookup_reverse_isSome.2 hentry, Bool.true_or]

end Work

/-! ## Keys that wait -/

/-- The key is among the entries of a removed unit that a queued task has left to store again. -/
def Awaited (queue : List Task) (key : String) : Prop :=
  ∃ entries registration, Task.leave entries registration ∈ queue ∧ key ∈ entries.map (·.1)

/-- The key is stored on a member, or waits to be stored. -/
def Kept (fleet : Fleet) (queue : List Task) (key : String) : Prop :=
  key ∈ fleet.storedKeys ∨ Awaited queue key

/-- The unit that a task brings keys onto. -/
def Task.newcomer? : Task → Option UnitRef
  | .join unit _ | .pull unit _ _ _ => some unit
  | .write .. | .leave .. => none

/-- Whoever is to take over keys is a member or inactive. -/
def Welcome (fleet : Fleet) (queue : List Task) : Prop :=
  ∀ task ∈ queue, ∀ unit ∈ task.newcomer?, unit ∈ fleet.units ∨ fleet.pool.isActive unit = false

section Tasks

variable {fleet fleet' : Fleet} {unit : UnitRef} {r : Nat} {key : String} {task : Task}
  {queue queue' rest : List Task} {index : Nat}

theorem Kept.append (h : Kept fleet queue key) (rest : List Task) :
    Kept fleet (queue ++ rest) key := by
  refine h.imp_right ?_
  rintro ⟨entries, registration, hmem, hkey⟩
  exact ⟨entries, registration, List.mem_append_left _ hmem, hkey⟩

theorem Kept.stored (h : Kept fleet [] key) : key ∈ fleet.storedKeys := by
  refine h.resolve_right ?_
  rintro ⟨entries, registration, hmem, -⟩
  exact List.not_mem_nil hmem

theorem Welcome.congr (h : Welcome fleet queue) (hshape : Fleet.SameShape fleet fleet') :
    Welcome fleet' queue := by
  intro task hmem w hw
  rw [hshape.units, hshape.active]
  exact h task hmem w hw

theorem Welcome.append (h : Welcome fleet queue) (hrest : Welcome fleet rest) :
    Welcome fleet (queue ++ rest) := fun task hmem =>
  (List.mem_append.1 hmem).elim (h task) (hrest task)

theorem Welcome.append_of_none (h : Welcome fleet queue)
    (hrest : ∀ task ∈ rest, task.newcomer? = none) : Welcome fleet (queue ++ rest) := by
  refine h.append fun task hmem w hw => ?_
  rw [hrest task hmem] at hw
  cases hw

theorem Welcome.departure (hs : fleet.ring.Sound) (h : Welcome fleet queue)
    (hdeparture : Fleet.Departure fleet fleet' unit) : Welcome fleet' queue := by
  intro task hmem w hnewcomer
  by_cases hw : w = unit
  · exact Or.inr (by simp [hdeparture.active, hw])
  · rcases h task hmem w hnewcomer with hmember | hinactive
    · exact Or.inl ((hdeparture.mem_units hs).2 ⟨hmember, hw⟩)
    · exact Or.inr (by simp [hdeparture.active, hinactive])

theorem Welcome.admission (hs : fleet.ring.Sound) (h : Welcome fleet queue)
    (hadmission : Fleet.Admission fleet fleet' unit) (registration : Registration) :
    Welcome fleet' (queue ++ [.join unit registration]) := by
  refine Welcome.append (fun task hmem w hnewcomer => ?_) fun task hmem w hnewcomer => ?_
  · by_cases hw : w = unit
    · exact Or.inl (hw ▸ hadmission.mem_units_self hs)
    · rcases h task hmem w hnewcomer with hmember | hinactive
      · exact Or.inl ((hadmission.mem_units hs).2 (Or.inl hmember))
      · exact Or.inr (by simp [hadmission.active, hinactive, hw])
  · obtain rfl := List.mem_singleton.1 hmem
    cases hnewcomer
    exact Or.inl (hadmission.mem_units_self hs)

/-- What is left of a task brings keys onto the same unit. -/
theorem Task.newcomer?_rest {left : Task} (h : task.rest fleet = some left) :
    left.newcomer? = task.newcomer? := by
  rcases rest_eq_some h with ⟨unit, others, keys, registration, hbegun, -, rfl⟩ |
    ⟨entries, registration, rfl, -, rfl⟩
  · cases task with
    | join | pull =>
      cases hbegun
      rfl
    | write | leave => simp [begun] at hbegun
  · rfl

theorem Task.newcomer?_reorder (entries : List (String × String)) (task : Task) :
    (task.reorder entries).newcomer? = task.newcomer? := by
  cases task <;> rfl

/-! ### What one stint keeps -/

theorem Welcome.effect (h : Welcome fleet queue) (queued : queue[index]? = some task) (r : Nat) :
    Welcome (task.effect r fleet) (queue.eraseIdx index ++ (task.rest fleet).toList) := by
  refine Welcome.congr (Welcome.append (fun other hmem => ?_) fun left hmem w hw => ?_)
    (task.sameShape_effect r fleet)
  · exact h other ((mem_queue_iff queued).2 (Or.inr hmem))
  · rw [Task.newcomer?_rest (Option.mem_toList.1 hmem)] at hw
    exact h task ((mem_queue_iff queued).2 (Or.inl rfl)) w hw

/-- A stint loses no key that is stored. -/
theorem storedKeys_effect (hs : fleet.ring.Sound) (hwelcome : Welcome fleet queue)
    (hmem : task ∈ queue) (h : key ∈ fleet.storedKeys) :
    key ∈ (task.effect r fleet).storedKeys := by
  cases task with
  | write target j value =>
    refine storedKeys_of_copies (Fleet.sameShape_attempt_put fleet target j value).ring
      (fun w hw => ?_) h
    rw [Task.effect, Fleet.copy_attempt_put]
    split
    · rfl
    · exact hw
  | join unit registration => exact storedKeys_pullAll (hwelcome _ hmem unit rfl) _ _ _ h
  | pull unit others keys registration =>
    exact storedKeys_pullAll (hwelcome _ hmem unit rfl) _ _ _ h
  | leave entries registration => exact storedKeys_redistribute hs (Or.inl h)

/-- A key that was kept before a stint is stored now, or it waits in what is left. -/
theorem Kept.effect (h : Kept fleet queue key) (hs : fleet.ring.Sound)
    (hwelcome : Welcome fleet queue) (hne : fleet.replicas key r ≠ [])
    (queued : queue[index]? = some task) :
    Kept (task.effect r fleet) (queue.eraseIdx index ++ (task.rest fleet).toList) key := by
  rcases h with hstored | ⟨entries, registration, hpending, hkey⟩
  · have hmem := (mem_queue_iff queued).2 (Or.inl rfl)
    exact Or.inl (storedKeys_effect hs hwelcome hmem hstored)
  · rcases (mem_queue_iff queued).1 hpending with rfl | hother
    · obtain ⟨entry, hentry, rfl⟩ := List.mem_map.1 hkey
      rcases Task.mem_take_or_remainder hentry with hserved | ⟨left, hrest, hleft⟩
      · have hkey := List.mem_map_of_mem (f := (·.1)) hserved
        exact Or.inl (storedKeys_redistribute hs (Or.inr ⟨hkey, hne⟩))
      · refine Or.inr ⟨left, registration, List.mem_append_right _ ?_, List.mem_map_of_mem hleft⟩
        rw [Task.rest, hrest]
        exact List.mem_singleton_self _
    · exact Or.inr ⟨entries, registration, List.mem_append_left _ hother, hkey⟩

/-! ### What stints keep -/

theorem Welcome.reorder (h : Welcome fleet queue) (index : Nat) (entries : List (String × String)) :
    Welcome fleet (queue.modify index (·.reorder entries)) := by
  intro task hmem w hw
  rcases mem_queue_modify hmem with hsame | ⟨old, hold, rfl⟩
  · exact h task hsame w hw
  · exact h old hold w (old.newcomer?_reorder entries ▸ hw)

theorem Welcome.stints (h : Welcome fleet queue) (hstints : Stints r fleet queue fleet' queue') :
    Welcome fleet' queue' :=
  hstints.induction h (fun _ _ _ _ _ queued hwelcome => hwelcome.effect queued r)
    fun _ _ index entries hwelcome => hwelcome.reorder index entries

theorem Kept.reorder (h : Kept fleet queue key) (index : Nat) (listed : List (String × String)) :
    Kept fleet (queue.modify index (·.reorder listed)) key := by
  refine h.imp_right ?_
  rintro ⟨entries, registration, hmem, hkey⟩
  rcases mem_modify_queue index (·.reorder listed) hmem with hsame | hchanged
  · exact ⟨entries, registration, hsame, hkey⟩
  · rcases (Task.leave entries registration).reorder_eq listed with heq | ⟨_, _, heq, hperm, hreorder⟩
    · exact ⟨entries, registration, heq ▸ hchanged, hkey⟩
    · cases heq
      refine ⟨listed, registration, hreorder ▸ hchanged, ?_⟩
      exact (hperm.map _).mem_iff.2 hkey

theorem Kept.stints (h : Kept fleet queue key) (hs : fleet.ring.Sound)
    (hwelcome : Welcome fleet queue) (hne : fleet.replicas key r ≠ [])
    (hstints : Stints r fleet queue fleet' queue') : Kept fleet' queue' key := by
  refine hstints.induction (P := fun f q => Kept f q key) h ?_ fun _ _ index entries hkept =>
    hkept.reorder index entries
  intro f q index task hbefore queued hkept
  have hshape := hbefore.sameShape
  exact hkept.effect (hshape.ring ▸ hs) (hwelcome.stints hbefore) (by rwa [hshape.replicas]) queued

end Tasks

/-! ## Sessions in which nothing is deleted -/

/-- Whether no key is taken away on purpose. -/
def Event.spares : Event → Bool
  | .delete _ | .shutdown _ => false
  | _ => true

theorem Event.goesOn_of_spares {event : Event} (h : event.spares = true) : event.goesOn = true := by
  cases event <;> simp_all [Event.spares, Event.goesOn]

section Events

variable {c : Cluster} {event : Event} {fleet : Fleet} {queue : List Task} {key : String}

/-- An event keeps every key, if somebody is active before and after it. -/
theorem Effect.kept (hs : c.fleet.ring.Sound) (hwelcome : Welcome c.fleet c.queue)
    (hne : c.replicas key ≠ []) (hactive : fleet.activeUnits ≠ []) (hspares : event.spares = true)
    (h : Effect c event fleet queue) (hkept : Kept c.fleet c.queue key) :
    Kept fleet queue key := by
  cases h with
  | look shape copy =>
    exact hkept.imp_left (storedKeys_of_copies shape.ring fun w hw => by rwa [copy])
  | store j value stints =>
    exact (hkept.stints hs hwelcome hne stints).imp_left (storedKeys_storeOn _ _)
  | submit j value => exact hkept.append _
  | delete => simp [Event.spares] at hspares
  | join registration admission =>
    exact (hkept.append _).imp_left (storedKeys_admission hs admission)
  | depart departure idle =>
    refine hkept.imp_left fun hstored => ?_
    refine (storedKeys_departure hs departure hstored).resolve_right ?_
    rw [idle.resolve_right hactive]
    simp
  | @leave unit _ registration departure =>
    rcases hkept.append _ with hstored | hawaited
    · refine (storedKeys_departure hs departure hstored).imp_right fun hheld => ?_
      refine ⟨_, registration, List.mem_append_right _ (List.mem_singleton_self _), ?_⟩
      rw [Std.ExtTreeMap.map_fst_toList_eq_keys, Std.ExtTreeMap.mem_keys]
      exact Std.ExtTreeMap.mem_iff_isSome_getElem?.2 hheld
    · exact Or.inr hawaited
  | repair j => exact hkept.imp_left (storedKeys_repair hs j)
  | switch switching =>
    exact hkept.imp_left (storedKeys_of_copies switching.ring fun w hw => by rwa [switching.copy])
  | work stints => exact hkept.stints hs hwelcome hne stints

/-- After an event whoever is to take over keys is still a member or inactive. -/
theorem Effect.welcome (hs : c.fleet.ring.Sound) (hwelcome : Welcome c.fleet c.queue)
    (h : Effect c event fleet queue) : Welcome fleet queue := by
  cases h with
  | look shape _ => exact hwelcome.congr shape
  | store j value stints =>
    exact (hwelcome.stints stints).congr (Fleet.sameShape_storeOn _ _ _ _)
  | submit => exact hwelcome.append_of_none (by simp [Task.newcomer?])
  | delete shape _ => exact hwelcome.congr shape
  | join registration admission => exact hwelcome.admission hs admission registration
  | depart departure _ => exact hwelcome.departure hs departure
  | leave registration departure =>
    exact (hwelcome.departure hs departure).append_of_none (by simp [Task.newcomer?])
  | repair j => exact hwelcome.congr (Fleet.sameShape_repair _ _ _)
  | switch switching =>
    intro task hmem w hw
    by_cases hmember : w ∈ c.fleet.units
    · refine Or.inl ?_
      rwa [Fleet.units, switching.ring]
    · have hinactive := (hwelcome task hmem w hw).resolve_left hmember
      exact Or.inr ((switching.outsider w hmember).trans hinactive)
  | work stints => exact hwelcome.stints stints

end Events

/-! ## The invariant -/

/-- What holds throughout a session in which background work goes on, if the labels of the ids in
use do not meet. -/
structure Steady (ids : List String) (c : Cluster) : Prop where
  /-- The labels of the members do not meet. -/
  ring : c.fleet.ring.Apart ids
  /-- Tasks are taken. -/
  opened : c.closed = false
  /-- Whoever is to take over keys is a member or inactive. -/
  welcome : Welcome c.fleet c.queue

section Runs

variable {ids : List String} {s : Session}

theorem Steady.step (h : Steady ids s.cluster) {event : Event} (hgoes : event.goesOn = true)
    (hids : ∀ id ∈ event.admits, id ∈ ids) : Steady ids (s.step event).cluster := by
  obtain ⟨f, q, m, g, heq, heffect⟩ := Session.step_effect h.ring.sound h.opened hgoes
  have hring : f.ring.Apart ids := by
    rcases heffect.ring with hsame | ⟨unit, hinsert, hadmits⟩ | ⟨id, herase⟩
    · exact hsame ▸ h.ring
    · exact h.ring.insert? hinsert (hids unit.id hadmits)
    · exact h.ring.erase? herase
  rw [heq]
  exact ⟨hring, h.opened, heffect.welcome h.ring.sound h.welcome⟩

theorem Steady.run (h : Steady ids s.cluster) {events : List Event}
    (hgoes : ∀ e ∈ events, e.goesOn = true) (hids : ∀ id ∈ events.flatMap Event.admits, id ∈ ids) :
    Steady ids (s.run events).cluster := by
  induction events generalizing s with
  | nil => exact h
  | cons event events ih =>
    obtain ⟨hfirst, htail⟩ := List.forall_mem_cons.1 hgoes
    refine ih (h.step hfirst fun id hid => hids id ?_) htail fun id hid => hids id ?_
    · exact List.mem_append_left _ hid
    · exact List.mem_append_right _ hid

theorem steady_start {virtualNodes : Nat} {units : List UnitSpec}
    (hapart : LabelsApart virtualNodes ids) (hids : ∀ id ∈ units.map (·.id), id ∈ ids)
    (replicationFactor writeTimeout : Nat) :
    Steady ids (Session.start virtualNodes replicationFactor writeTimeout units).cluster where
  ring := Session.enlist_induction (P := fun fleet => fleet.ring.Apart ids) virtualNodes units
    (Ring.apart_empty hapart) fun _ _ _ h admission hid => h.insert? admission.inserted (hids _ hid)
  opened := rfl
  welcome _ hmem := absurd hmem List.not_mem_nil

/-- A key that is kept stays kept, as long as somebody is active. -/
theorem Steady.kept_run (h : Steady ids s.cluster) (hv : 0 < s.cluster.fleet.ring.virtualNodes)
    (hr : 0 < s.cluster.replicationFactor) {events : List Event}
    (hspares : ∀ e ∈ events, e.spares = true)
    (hids : ∀ id ∈ events.flatMap Event.admits, id ∈ ids)
    (hactive : ∀ n ≤ events.length, (s.run (events.take n)).cluster.fleet.activeUnits ≠ [])
    {key : String} (hkept : Kept s.cluster.fleet s.cluster.queue key) :
    Kept (s.run events).cluster.fleet (s.run events).cluster.queue key := by
  induction events generalizing s with
  | nil => exact hkept
  | cons event events ih =>
    obtain ⟨hfirst, htail⟩ := List.forall_mem_cons.1 hspares
    have hgoes := Event.goesOn_of_spares hfirst
    have hnow : s.cluster.fleet.activeUnits ≠ [] := hactive 0 (Nat.zero_le _)
    have hnext : (s.step event).cluster.fleet.activeUnits ≠ [] :=
      hactive 1 (Nat.le_add_left 1 events.length)
    have hne := Fleet.replicas_ne_nil h.ring.sound h.ring.undisputed hv hr hnow key
    have hstep := h.step hgoes fun id hid => hids id (List.mem_append_left _ hid)
    have hone : ∀ e ∈ [event], e.goesOn = true := by simpa using hgoes
    obtain ⟨hfactor, hnodes⟩ := Session.run_settings ⟨h.ring.sound, h.opened⟩ hone
    obtain ⟨f, q, m, g, heq, heffect⟩ := Session.step_effect h.ring.sound h.opened hgoes
    refine ih hstep (hnodes ▸ hv) (hfactor ▸ hr) htail
      (fun id hid => hids id (List.mem_append_right _ hid))
      (fun n hn => hactive (n + 1) (Nat.succ_le_succ hn)) ?_
    rw [heq] at hnext ⊢
    exact heffect.kept h.ring.sound h.welcome hne hnext hfirst hkept

end Runs

/-! ## Every session -/

/-- A key that is stored at some moment of a session stays stored or awaited at every later moment,
and stored whenever the queue is empty. It is enough that at each of these moments some member is
active, for instance one that stays throughout. -/
theorem kept_of_stored {virtualNodes replicationFactor writeTimeout : Nat} {units : List UnitSpec}
    {before after : List Event} {key : String} (hv : 0 < virtualNodes) (hr : 0 < replicationFactor)
    (hapart : LabelsApart virtualNodes
      (units.map (·.id) ++ (before ++ after).flatMap Event.admits))
    (hbefore : ∀ e ∈ before, e.goesOn = true) (hafter : ∀ e ∈ after, e.spares = true)
    (hactive : ∀ n ≤ after.length,
      ((Session.start virtualNodes replicationFactor writeTimeout units).run
        (before ++ after.take n)).cluster.fleet.activeUnits ≠ [])
    (hstored : key ∈ ((Session.start virtualNodes replicationFactor writeTimeout units).run
      before).cluster.fleet.storedKeys) :
    let c := ((Session.start virtualNodes replicationFactor writeTimeout units).run
      (before ++ after)).cluster
    Kept c.fleet c.queue key ∧ (c.queue = [] → key ∈ c.fleet.storedKeys) := by
  intro c
  have hsettings := Session.run_settings
    (Session.working_start virtualNodes replicationFactor writeTimeout units) hbefore
  have hids : ∀ id ∈ units.map (·.id),
      id ∈ units.map (·.id) ++ (before ++ after).flatMap Event.admits := fun id hid =>
    List.mem_append_left _ hid
  have hstart := steady_start hapart hids replicationFactor writeTimeout
  have hsteady := hstart.run hbefore fun id hid => by
    rw [List.flatMap_append]
    exact List.mem_append_right _ (List.mem_append_left _ hid)
  have hkept : Kept c.fleet c.queue key := by
    have hlater := hsteady.kept_run ?_ ?_ hafter ?_ ?_ (Or.inl hstored)
    · rwa [← Session.run_append] at hlater
    · rw [hsettings.2]
      exact (Session.virtualNodes_enlist virtualNodes units).symm ▸ hv
    · rw [hsettings.1]
      exact hr
    · intro id hid
      rw [List.flatMap_append]
      exact List.mem_append_right _ (List.mem_append_right _ hid)
    · intro n hn
      rw [← Session.run_append]
      exact hactive n hn
  refine ⟨hkept, fun hempty => ?_⟩
  rw [hempty] at hkept
  exact hkept.stored

/-- The unit that holds the key leaves, comes back and pulls its keys before its old entries are
stored again, while another one comes and goes. -/
theorem kept_of_stored_return :
    let before : List Event := [.put "x" "v"]
    let after : List Event := [.addNode "c" "localhost" 3, .removeNode "b",
      .addNode "b" "localhost" 4, .removeNode "c", .run 0, .run 1, .drain]
    let c := ((Session.start 1 1 5000 [⟨"a", "localhost", 1⟩, ⟨"b", "localhost", 2⟩]).run
      (before ++ after)).cluster
    c.queue = [] ∧ "x" ∈ c.fleet.storedKeys :=
  ⟨by decide +kernel, (kept_of_stored (by decide) (by decide) (by decide +kernel) (by decide)
    (by decide) (by decide +kernel) (by decide +kernel)).2 (by decide +kernel)⟩

end QuorumRing
