import QuorumRing.Proofs.Cluster.Recall

/-!
# What becomes of a deleted key

A delete empties the replicas of a key at once and leaves no trace of itself. So what is left of the
tasks that were queued before may undo it, and a later read tells whether one of them recalled the
key: a migration that has yet to come to it and finds it with a former replica, which the delete did
not reach, or entries captured before and not stored again yet.
-/

namespace QuorumRing

variable {key : String}

/-! ## What an event does, also after a shutdown -/

section Steps

variable {s : Session} {event : Event}

/-- After a shutdown changes of membership and puts queue nothing. So an event that leaves the
members as they are takes one of the usual courses, be the cluster open or not. -/
theorem Session.step_effect_of_units (hs : s.cluster.fleet.ring.Sound)
    (hgoes : event.goesOn = true)
    (hunits : (s.step event).cluster.fleet.units = s.cluster.fleet.units) :
    ∃ f q m g, (s.step event).cluster =
        { s.cluster with fleet := f, queue := q, metrics := m, registry := g } ∧
      Effect s.cluster event f q := by
  cases hclosed : s.cluster.closed with
  | false => exact Session.step_effect hs hclosed hgoes
  | true =>
    cases event with
    | submit key value =>
      obtain ⟨g, h⟩ := Cluster.submit_snd s.cluster key value
      rw [if_pos hclosed, List.append_nil] at h
      exact ⟨_, _, _, g, h, .look (.refl _) fun _ _ => rfl⟩
    | addNode id host port =>
      rw [Session.step] at hunits ⊢
      cases hadded : s.cluster.fleet.add? { id, host, port } with
      | none =>
        rw [Cluster.addNode_of_taken hadded]
        exact ⟨_, _, _, _, rfl, .look (.refl _) fun _ _ => rfl⟩
      | some added =>
        obtain ⟨unit, fleet⟩ := added
        obtain ⟨-, registration, m, g, h⟩ := Cluster.addNode_of_free hadded
        have hinserted := (Fleet.admission_of_add? hadded).2.inserted
        rw [h] at hunits
        exact absurd hunits (Ring.units_ne_of_insert? hs hinserted)
    | removeNode id =>
      rw [Session.step] at hunits ⊢
      cases hunit : s.cluster.fleet.ring.get? id with
      | none =>
        rw [Cluster.removeNode_of_absent hunit]
        exact ⟨_, _, _, _, rfl, .look (.refl _) fun _ _ => rfl⟩
      | some unit =>
        obtain ⟨-, fleet, tail, m, g, h, hdeparture, -⟩ := Cluster.removeNode_of_present hs hunit
        rw [h] at hunits
        exact absurd hunits (Ring.units_ne_of_erase? hs hdeparture.erased)
    | shutdown graceMillis => simp [Event.goesOn] at hgoes
    | _ => exact Session.step_effect_of_isIndifferent hs rfl

/-- After any event whoever is to take over keys is still a member or inactive. -/
theorem welcome_step (hs : s.cluster.fleet.ring.Sound)
    (hwelcome : Welcome s.cluster.fleet s.cluster.queue) (event : Event) :
    Welcome (s.step event).cluster.fleet (s.step event).cluster.queue := by
  cases hindifferent : event.isIndifferent with
  | true =>
    obtain ⟨f, q, m, g, h, heffect⟩ := Session.step_effect_of_isIndifferent hs hindifferent
    rw [h]
    exact heffect.welcome hs hwelcome
  | false =>
    cases event with
    | submit key value =>
      obtain ⟨g, h⟩ := Cluster.submit_snd s.cluster key value
      rw [Session.step, h]
      refine hwelcome.append_of_none fun task hmem => ?_
      split at hmem
      · exact absurd hmem List.not_mem_nil
      · obtain ⟨target, -, rfl⟩ := List.mem_map.1 hmem
        rfl
    | addNode id host port =>
      rw [Session.step]
      cases hadded : s.cluster.fleet.add? { id, host, port } with
      | none => rwa [Cluster.addNode_of_taken hadded]
      | some added =>
        obtain ⟨unit, fleet⟩ := added
        obtain ⟨-, registration, m, g, h⟩ := Cluster.addNode_of_free hadded
        have hadmission := (Fleet.admission_of_add? hadded).2
        rw [h]
        have hjoined := hwelcome.admission hs hadmission registration
        refine Welcome.append (fun task hmem => ?_) fun task hmem => ?_
        · exact hjoined task (List.mem_append_left _ hmem)
        · split at hmem
          · exact absurd hmem List.not_mem_nil
          · exact hjoined task (List.mem_append_right _ hmem)
    | removeNode id =>
      rw [Session.step]
      cases hunit : s.cluster.fleet.ring.get? id with
      | none => rwa [Cluster.removeNode_of_absent hunit]
      | some unit =>
        obtain ⟨-, fleet, tail, m, g, h, hdeparture, htail⟩ :=
          Cluster.removeNode_of_present hs hunit
        rw [h]
        refine (hwelcome.departure hs hdeparture).append_of_none ?_
        rcases htail with ⟨rfl, -⟩ | ⟨registration, rfl⟩
        · simp
        · simp [Task.newcomer?]
    | shutdown graceMillis =>
      obtain ⟨f, m, g, h, -⟩ := Cluster.shutdown_snd s.cluster graceMillis
      rw [Session.step, h]
      exact fun _ hmem => absurd hmem List.not_mem_nil
    | _ => simp [Event.isIndifferent] at hindifferent

end Steps

/-! ## Sessions after a delete -/

/-- What holds throughout a session in which the key is not put. -/
structure Session.Unwritten (key : String) (s : Session) : Prop where
  /-- The ring is sound. -/
  sound : s.cluster.fleet.ring.Sound
  /-- Whoever is to take over keys is a member or inactive. -/
  welcome : Welcome s.cluster.fleet s.cluster.queue
  /-- No write of the key is queued. -/
  keys : ∀ task ∈ s.cluster.queue, task.key? ≠ some key

section Runs

variable {s : Session} {event : Event} {events : List Event}

theorem sound_and_welcome_run (hs : s.cluster.fleet.ring.Sound)
    (hwelcome : Welcome s.cluster.fleet s.cluster.queue) (events : List Event) :
    (s.run events).cluster.fleet.ring.Sound ∧
      Welcome (s.run events).cluster.fleet (s.run events).cluster.queue := by
  induction events generalizing s with
  | nil => exact ⟨hs, hwelcome⟩
  | cons event events ih =>
    exact ih (Session.sound_act hs (.event event)) (welcome_step hs hwelcome event)

theorem Session.Unwritten.step (h : s.Unwritten key) (hputs : event.puts key = false) :
    (s.step event).Unwritten key := by
  refine ⟨sound_act h.sound (.event event), welcome_step h.sound h.welcome event,
    fun task hmem => ?_⟩
  rcases Session.tasks_act (a := .event event) hmem with ⟨old, hold, hleaves⟩ | hfresh
  · exact fun hkey => h.keys old hold (hleaves.key?_eq_some hkey)
  · cases hfresh with
    | @write j value target supply =>
      intro hj
      rw [← Option.some.inj hj, Event.puts_of_supply? supply] at hputs
      simp at hputs
    | join => simp [Task.key?]
    | leave => simp [Task.key?]

/-- After an event that does not put the key, it returns only if it would have returned anyway, and
it still does unless it was deleted or tasks were dropped. -/
theorem Session.Unwritten.returns_step (h : s.Unwritten key) (hputs : event.puts key = false)
    (hunits : (s.step event).cluster.fleet.units = s.cluster.fleet.units)
    (hactive : ∀ unit ∈ s.cluster.fleet.units, s.cluster.fleet.pool.isActive unit = true)
    (hactive' : ∀ unit ∈ s.cluster.fleet.units,
      (s.step event).cluster.fleet.pool.isActive unit = true) :
    let c := s.cluster
    let c' := (s.step event).cluster
    (Returns c'.fleet c.replicationFactor c'.queue key →
      Returns c.fleet c.replicationFactor c.queue key) ∧
    (event.goesOn = true → event ≠ .delete key →
      Returns c.fleet c.replicationFactor c.queue key →
      Returns c'.fleet c.replicationFactor c'.queue key) := by
  intro c c'
  cases hgoes : event.goesOn with
  | true =>
    by_cases hdelete : event = .delete key
    · subst hdelete
      exact ⟨(returns_of_delete h.sound key).2, fun _ hne => absurd rfl hne⟩
    · obtain ⟨f, q, m, g, heq, heffect⟩ := step_effect_of_units h.sound hgoes hunits
      rw [heq] at hunits hactive'
      have hafter : ∀ unit ∈ f.units, f.pool.isActive unit = true := fun unit hunit =>
        hactive' unit (hunits ▸ hunit)
      have hiff :=
        heffect.returns h.sound hactive hafter hunits h.welcome h.keys hputs hdelete
      have hc' : c' = { s.cluster with fleet := f, queue := q, metrics := m, registry := g } := heq
      rw [hc']
      exact ⟨hiff.1, fun _ _ => hiff.2⟩
  | false =>
    refine ⟨fun hlater => ?_, fun hgoes => absurd hgoes (by simp)⟩
    cases event with
    | shutdown graceMillis =>
      obtain ⟨f, m, g, heq, hf⟩ := Cluster.shutdown_snd s.cluster graceMillis
      have hc' : c' = { s.cluster with
        fleet := f, queue := [], metrics := m, registry := g, closed := true } := heq
      rw [hc'] at hlater
      have hserves := returns_nil.1 hlater
      rcases hf with rfl | hstints
      · exact Or.inl hserves
      · exact (returns_stints h.sound hactive h.welcome h.keys hstints).1 hlater
    | _ => simp [Event.goesOn] at hgoes

/-- The same from one moment to another. -/
theorem Session.Unwritten.returns_run (h : s.Unwritten key)
    (hputs : ∀ e ∈ events, e.puts key = false)
    (hunits : ∀ n ≤ events.length,
      (s.run (events.take n)).cluster.fleet.units = s.cluster.fleet.units)
    (hactive : ∀ n ≤ events.length, ∀ unit ∈ s.cluster.fleet.units,
      (s.run (events.take n)).cluster.fleet.pool.isActive unit = true) :
    let c := s.cluster
    let c' := (s.run events).cluster
    (Returns c'.fleet c.replicationFactor c'.queue key →
      Returns c.fleet c.replicationFactor c.queue key) ∧
    ((∀ e ∈ events, e.goesOn = true) → (∀ e ∈ events, e ≠ .delete key) →
      Returns c.fleet c.replicationFactor c.queue key →
      Returns c'.fleet c.replicationFactor c'.queue key) := by
  induction events generalizing s with
  | nil => exact ⟨id, fun _ _ => id⟩
  | cons event events ih =>
    obtain ⟨hfirst, htail⟩ := List.forall_mem_cons.1 hputs
    have hone : 1 ≤ (event :: events).length := Nat.le_add_left 1 events.length
    have hsame : (s.step event).cluster.fleet.units = s.cluster.fleet.units := hunits 1 hone
    obtain ⟨hback, hforth⟩ :=
      h.returns_step hfirst hsame (hactive 0 (Nat.zero_le _)) (hactive 1 hone)
    obtain ⟨hback', hforth'⟩ := @ih (s.step event) (h.step hfirst) htail
      (fun n hn => (hunits (n + 1) (Nat.succ_le_succ hn)).trans hsame.symm)
      (fun n hn unit hunit => hactive (n + 1) (Nat.succ_le_succ hn) unit (hsame ▸ hunit))
    rw [show (s.step event).cluster.replicationFactor = s.cluster.replicationFactor from
      replicationFactor_act s (.event event)] at hback' hforth'
    refine ⟨fun hlater => hback (hback' hlater), fun hgoes hdeletes hbefore => ?_⟩
    obtain ⟨hgoes, hgoesTail⟩ := List.forall_mem_cons.1 hgoes
    obtain ⟨hdelete, hdeletesTail⟩ := List.forall_mem_cons.1 hdeletes
    exact hforth' hgoesTail hdeletesTail (hforth hgoes hdelete hbefore)

end Runs

namespace Session

theorem get_ne_none_iff {c : Cluster} (hs : c.fleet.ring.Sound) (key : String) :
    (c.get key).1 ≠ none ↔ c.fleet.Serves c.replicationFactor key := by
  rw [Cluster.get_fst hs, ← Option.isSome_iff_ne_none]
  exact List.findSome?_isSome_iff

variable {virtualNodes replicationFactor writeTimeout : Nat} {units : List UnitSpec}

/-- A key has been deleted while no write of it was queued, and was not put afterwards; the members
have stayed the same and active, and by now the queue is empty. If no task recalled the key at the
time of the delete, it is not found. If one did, it is, unless the key was deleted again or tasks
were dropped in a shutdown. -/
theorem get_after_delete (before later : List Event) (key : String) :
    let s := ((start virtualNodes replicationFactor writeTimeout units).run before).step
      (.delete key)
    (∀ task ∈ s.cluster.queue, task.key? ≠ some key) →
    (∀ e ∈ later, e.puts key = false) →
    (∀ n ≤ later.length, (s.run (later.take n)).cluster.fleet.units = s.cluster.fleet.units) →
    (∀ n ≤ later.length, ∀ unit ∈ s.cluster.fleet.units,
      (s.run (later.take n)).cluster.fleet.pool.isActive unit = true) →
    (s.run later).cluster.queue = [] →
    (¬s.cluster.Recalls key → ((s.run later).cluster.get key).1 = none) ∧
      (s.cluster.Recalls key → (∀ e ∈ later, e.goesOn = true) → (∀ e ∈ later, e ≠ .delete key) →
        ((s.run later).cluster.get key).1 ≠ none) := by
  intro s hkeys hputs hunits hactive hidle
  have hstart := (working_start virtualNodes replicationFactor writeTimeout units).sound
  obtain ⟨hsound, hwelcome⟩ :=
    sound_and_welcome_run hstart (fun _ hmem => absurd hmem List.not_mem_nil) before
  have hunwritten : s.Unwritten key :=
    ⟨sound_act hsound (.event (.delete key)), welcome_step hsound hwelcome (.delete key), hkeys⟩
  -- at the time of the delete, to return is to be recalled
  have hrecalls : Returns s.cluster.fleet s.cluster.replicationFactor s.cluster.queue key ↔
      s.cluster.Recalls key := by
    have hunserved := (returns_of_delete hsound key).1
    rw [← replicationFactor_act _ (.event (.delete key))] at hunserved
    exact or_iff_right hunserved
  -- and now it is to be found
  have hlater := (sound_and_welcome_run hunwritten.sound hunwritten.welcome later).1
  have hfound : Returns (s.run later).cluster.fleet s.cluster.replicationFactor
      (s.run later).cluster.queue key ↔ ((s.run later).cluster.get key).1 ≠ none := by
    rw [hidle, get_ne_none_iff hlater, (Session.settings_run s later).1]
    exact returns_nil
  obtain ⟨hback, hforth⟩ := hunwritten.returns_run hputs hunits hactive
  rw [hrecalls, hfound] at hback hforth
  refine ⟨fun hnone => ?_, fun hrecalled hgoes hdeletes => hforth hgoes hdeletes hrecalled⟩
  by_contra hsome
  exact hnone (hback hsome)

set_option maxRecDepth 4096 in
/-- With three replicas nobody is left out whom a new unit could take the key from. With one, the
entries of the unit that has left bring it back. -/
theorem get_after_delete_recalled :
    let units : List UnitSpec := [⟨"a", "localhost", 8000⟩, ⟨"b", "localhost", 8001⟩]
    let s := ((start 1 3 5000 units).run [.put "x" "v", .addNode "c" "localhost" 8002]).step
      (.delete "x")
    let t := ((start 1 1 5000 units).run [.put "x" "v", .removeNode "b"]).step (.delete "x")
    let later : List Event := [.repair "x", .put "y" "w", .drain, .verify]
    (¬s.cluster.Recalls "x" ∧ ((s.run later).cluster.get "x").1 = none) ∧
      (t.cluster.Recalls "x" ∧ ((t.run later).cluster.get "x").1 ≠ none) := by
  intro units s t later
  have hs : (∀ task ∈ s.cluster.queue, task.key? ≠ some "x") ∧
      (∀ n ≤ later.length, (s.run (later.take n)).cluster.fleet.units = s.cluster.fleet.units) ∧
      (∀ n ≤ later.length, ∀ unit ∈ s.cluster.fleet.units,
        (s.run (later.take n)).cluster.fleet.pool.isActive unit = true) ∧
      (s.run later).cluster.queue = [] ∧ ¬s.cluster.Recalls "x" := by
    decide +kernel
  have ht : (∀ task ∈ t.cluster.queue, task.key? ≠ some "x") ∧
      (∀ n ≤ later.length, (t.run (later.take n)).cluster.fleet.units = t.cluster.fleet.units) ∧
      (∀ n ≤ later.length, ∀ unit ∈ t.cluster.fleet.units,
        (t.run (later.take n)).cluster.fleet.pool.isActive unit = true) ∧
      (t.run later).cluster.queue = [] ∧ t.cluster.Recalls "x" := by
    decide +kernel
  obtain ⟨hkeys, hunits, hactive, hidle, hnone⟩ := hs
  obtain ⟨hkeys', hunits', hactive', hidle', hrecalls⟩ := ht
  -- now the hypotheses of the theorem can be told to be these without running the sessions
  subst s t
  obtain ⟨hlost, -⟩ := get_after_delete _ later "x" hkeys (by decide) hunits hactive hidle
  obtain ⟨-, hfound⟩ := get_after_delete _ later "x" hkeys' (by decide) hunits' hactive' hidle'
  exact ⟨⟨hnone, hlost hnone⟩, hrecalls, hfound hrecalls (by decide) (by decide)⟩

set_option maxRecDepth 4096 in
/-- The migration onto a new replica takes a deleted key over from the former replica that it
displaces, which the delete did not reach. -/
theorem delete_undone :
    let s := (start 1 2 5000 [⟨"a", "localhost", 8000⟩, ⟨"b", "localhost", 8001⟩]).run
      [.put "x" "v", .addNode "c" "localhost" 8002]
    let t := s.step (.delete "x")
    let u := t.step .drain
    (s.cluster.queue.map fun task => task.registration?.map (·.kind)) = [some .join] ∧
      (s.cluster.delete "x").1 = true ∧ (t.cluster.get "x").1 = none ∧
      (∀ c ∈ [s.cluster, t.cluster, u.cluster], c.fleet.activeUnits.map (·.id) = ["a", "b", "c"]) ∧
      u.cluster.queue = [] ∧ (u.cluster.get "x").1 = some "v" := by
  decide +kernel

end Session

end QuorumRing
